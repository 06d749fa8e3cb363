import GrrAcl.Aff4.Store

/-! The approval objects of `security.py`, and the check that turns one of them into an access token. -/

namespace GrrAcl

/-- The configuration options the approval check reads. -/
structure Config where
  /-- `ACL.approvers_required`. -/
  approversRequired : Int
  /-- `ACL.token_expiry`, in seconds. -/
  tokenExpiry : Int

/-- The calls `ClientApproval.CheckAccess` makes on `client_approval_auth.CLIENT_APPROVAL_AUTH_MGR`, a module not under src/. -/
structure ClientApprovalAuthManager where
  /-- `IsActive()`: whether some client label asks for approvers of its own. -/
  isActive : Bool
  /-- `CheckApproversForLabel(token, client_urn, requester, approvers, label)`. -/
  checkApproversForLabel : ACLToken → RDFURN → String → List String → String → Except Error Unit

/-- Modelled from the spec: `rdfvalue` is not under src/; a date counts microseconds and a `Duration` seconds, so adding one scales it. -/
def plusDuration (date seconds : Int) : Int :=
  date + seconds * 1000000

/-- The digits of a hexadecimal numeral in either case, the class `[0-9a-fA-F]`. -/
def hexDigits : List Char :=
  "0123456789abcdefABCDEF".toList

/-- One digit of a hexadecimal numeral, in either case. -/
def isHexDigit (digit : Char) : Bool :=
  hexDigits.contains digit

/-- The characters Python's `str.isspace` holds of: space, tab, newline, vertical tab, form feed, carriage return. -/
def isPythonSpace (char : Char) : Bool :=
  char = ' ' || char = '\t' || char = '\n' || char = '\x0b' || char = '\x0c' || char = '\r'

/-- `str.strip(chars)`: the text between its leading and its trailing run of stripped characters. -/
def stripWith (stripped : Char → Bool) (text : String) : String :=
  String.mk ((text.toList.dropWhile stripped).reverse.dropWhile stripped).reverse

/-- `str.strip()`: the text between its leading and trailing whitespace. -/
def strip (text : String) : String :=
  stripWith isPythonSpace text

/--
`ClientURN.Validate` of a one-component path `/<clientId>`; `rdf_client` is not under src/. Its
`CLIENT_ID_RE`, `^(aff4:)?/?(c|C)\.[0-9a-fA-F]{16}$`, matches exactly when the component is `c.` or `C.`
and sixteen hex digits in either case.
-/
def validateClientId (clientId : String) : Bool :=
  match clientId.toList with
  | letter :: '.' :: digits => (letter == 'c' || letter == 'C') && digits.length == 16 && digits.all isHexDigit
  | _ => false

/-- The client id `ClientURN.ParseFromString` keeps: its first character upper-case, the rest lower-case. -/
def normalizeClientId (clientId : String) : String :=
  match clientId.toList with
  | first :: rest => String.mk (first.toUpper :: rest.map Char.toLower)
  | [] => ""

/--
`rdf_client.ClientURN(value)` of a string; `rdf_client` is not under src/. The stripped string is read
as a URN, which must be `aff4:/` and a client id, and the id is rewritten to `C.` and lower-case hex.
-/
def clientURN (value : String) : Except Error RDFURN :=
  let value := strip value
  match (RDFURN.ofString value).components with
  | [clientId] =>
    if validateClientId clientId then .ok (rootUrn.add (normalizeClientId clientId))
    else .error (.typeValueError ("Client urn malformed: " ++ value))
  | _ => .error (.typeValueError ("Client urn malformed: " ++ value))

/-- The refusal an approval whose URN is outside its namespace gets. -/
def invalidUrn (urn : RDFURN) (subject : Option RDFURN) (requestedAccess : Option String) : Error :=
  .unauthorizedAccess ("Approval object has invalid urn " ++ urn.toString ++ ".") subject requestedAccess

/-- The `ValueError` unpacking a `Split` of the wrong length raises. -/
def unpackError : Error :=
  .valueError "need more values to unpack"

/-- `ClientApproval.InferUserAndSubjectFromUrn()`: the URN is `aff4:/ACL/<client id>/<user>/<approval id>`. -/
def ClientApproval.inferUserAndSubjectFromUrn (urn : RDFURN) : Except Error (String × RDFURN) :=
  match urn.split 4 with
  | some [_, clientId, user, _] => do
    let subject ← clientURN clientId
    pure (user, subject)
  | _ => .error unpackError

/-- The decoder hunt and cron job approvals share: the URN is `aff4:/ACL/<kind>/<id>/<user>/<approval id>`. -/
def inferUserAndSubjectFromKindUrn (kind : String) (urn : RDFURN) : Except Error (String × RDFURN) :=
  match urn.split 5 with
  | some [_, kindStr, subjectId, user, _] =>
    -- The refusal names the access of the token the approval was opened with, which nothing reads.
    if kindStr ≠ kind then .error (invalidUrn urn none none)
    else .ok (user, (rootUrn.add kind).add subjectId)
  | _ => .error unpackError

/-- `HuntApproval.InferUserAndSubjectFromUrn()`. -/
def HuntApproval.inferUserAndSubjectFromUrn (urn : RDFURN) : Except Error (String × RDFURN) :=
  inferUserAndSubjectFromKindUrn "hunts" urn

/-- `CronJobApproval.InferUserAndSubjectFromUrn()`. -/
def CronJobApproval.inferUserAndSubjectFromUrn (urn : RDFURN) : Except Error (String × RDFURN) :=
  inferUserAndSubjectFromKindUrn "cron" urn

/-- `InferUserAndSubjectFromUrn()` of an approval, by its class; the abstract base raises. -/
def inferUserAndSubjectFromUrn (approval : AFF4Object) : Except Error (String × RDFURN) :=
  match approval.aff4Type with
  | .clientApproval => ClientApproval.inferUserAndSubjectFromUrn approval.urn
  | .huntApproval => HuntApproval.inferUserAndSubjectFromUrn approval.urn
  | .cronJobApproval => CronJobApproval.inferUserAndSubjectFromUrn approval.urn
  | _ => .error .notImplementedError

/-- `checked_approvers_label` of an approval class: hunts and cron jobs need an `admin` among their approvers. -/
def checkedApproversLabel : AFF4Type → Option String
  | .huntApproval => some "admin"
  | .cronJobApproval => some "admin"
  | _ => none

/-- `min_approvers_with_label`, the same for every approval class. -/
def minApproversWithLabel : Int := 1

/-- The lifetime an approval's grants have: its `LIFETIME`, or `ACL.token_expiry` when that is zero. -/
def lifetimeOf (config : Config) (approval : AFF4Object) : Int :=
  -- `LIFETIME` defaults to zero, and zero is false in `x or y`.
  let lifetime := (approval.cells.lifetime.newest.map (·.value)).getD 0
  if lifetime = 0 then config.tokenExpiry else lifetime

/-- The approvers both approver queries collect: each distinct name among the grants younger than the lifetime. -/
def collectApprovers (config : Config) (approval : AFF4Object) (now : Int) : List String :=
  -- A set the grants are added to one after the other, newest first.
  approval.cells.approver.versions.foldl (fun approvers approver =>
    if now < plusDuration approver.age (lifetimeOf config approval) then approvers.insert approver.value
    else approvers) []

/-- `ApprovalWithApproversAndReason.GetApprovers(now)`. -/
def getApprovers (config : Config) (approval : AFF4Object) (now : Int) : List String :=
  collectApprovers config approval now

/-- `ApprovalWithApproversAndReason.GetNonExpiredApprovers()`, at the clock reading `now`. -/
def getNonExpiredApprovers (config : Config) (approval : AFF4Object) (now : Int) : List String :=
  collectApprovers config approval now

/-- `user.GetLabelsNames()`: the names in the newest label list. -/
def getLabelsNames (object : AFF4Object) : List String :=
  (object.cells.labels.newest.map (·.value)).getD []

/-- Whether `aff4:/users/<approver>` opens as a user carrying the label; an `IOError` counts as no. -/
def approverHasLabel (store : Store) (label approver : String) : Bool :=
  match store.open (.ofString ("aff4:/users/" ++ approver)) (some .grrUser) .newestTime with
  | .ok user => label ∈ getLabelsNames user
  | .error _ => false

/-- `break_glass and now < break_glass`: a break-glass date is set, is not the zero date, and lies ahead. -/
def breakGlassActive (approval : AFF4Object) (now : Int) : Bool :=
  match approval.cells.breakGlass.newest with
  | some date => date.value != 0 && decide (now < date.value)
  | none => false

/-- The message a shortfall of approvers is refused with. -/
def missingApproversMessage (missing : Int) (qualifier : String) : String :=
  "Need at least " ++ toString missing ++ " additional approver" ++ (if missing > 1 then "s" else "") ++
    qualifier ++ " for access."

/-- `ApprovalWithApproversAndReason.CheckAccess(token)` at the clock reading `now`, with the token as it leaves. -/
def ApprovalWithApproversAndReason.checkAccess (config : Config) (store : Store) (approval : AFF4Object)
    (token : ACLToken) (now : Int) : Except Error ACLToken :=
  match approval.urn.split 2 with
  | some [urnNamespace, _] =>
    if urnNamespace ≠ "ACL" then .error (invalidUrn approval.urn (some approval.urn) token.requestedAccess)
    else do
      let (user, subjectUrn) ← inferUserAndSubjectFromUrn approval
      if user ≠ token.username then
        .error (.unauthorizedAccess ("Approval object is not for user " ++ token.username ++ ".")
          (some approval.urn) token.requestedAccess)
      -- An unexpired break-glass date tags the token and lets it through.
      else if breakGlassActive approval now then
        .ok { token with isEmergency := true }
      else
        let approvers := getNonExpiredApprovers config approval now
        if (approvers.length : Int) < config.approversRequired then
          .error (.unauthorizedAccess (missingApproversMessage (config.approversRequired - approvers.length) "")
            (some subjectUrn) token.requestedAccess)
        else
          match checkedApproversLabel approval.aff4Type with
          | none => .ok token
          | some label =>
            let approversWithLabel := approvers.filter (approverHasLabel store label)
            if (approversWithLabel.length : Int) < minApproversWithLabel then
              .error (.unauthorizedAccess (missingApproversMessage
                (minApproversWithLabel - approversWithLabel.length) (" with the '" ++ label ++ "' label"))
                (some subjectUrn) token.requestedAccess)
            else .ok token
  | _ => .error unpackError

/-- What `ClientApproval.CheckAccess` adds once the generic check passed: each label of the client has its approvers checked. -/
def ClientApproval.checkClientLabels (config : Config) (auth : ClientApprovalAuthManager) (store : Store)
    (approval : AFF4Object) (token : ACLToken) (now : Int) : Except Error Unit := do
  let approvers := getApprovers config approval now
  let (requester, clientUrn) ← ClientApproval.inferUserAndSubjectFromUrn approval.urn
  let clientObject ← match store.open clientUrn (some .vfsGrrClient) .newestTime with
    | .ok clientObject => pure clientObject
    | .error _ => .error (.errorClientDoesNotExist ("Can't check label approvals on client " ++
        clientUrn.toString ++ " that doesn't exist"))
  (getLabelsNames clientObject).forM fun label =>
    auth.checkApproversForLabel token clientUrn requester approvers label

/-- `ClientApproval.CheckAccess(token)`: the generic check, then the label approvers of the client if any label asks for them. -/
def ClientApproval.checkAccess (config : Config) (auth : ClientApprovalAuthManager) (store : Store)
    (approval : AFF4Object) (token : ACLToken) (now : Int) : Except Error ACLToken := do
  let token ← ApprovalWithApproversAndReason.checkAccess config store approval token now
  if !auth.isActive then return token
  ClientApproval.checkClientLabels config auth store approval token now
  return token

/-- `approval.CheckAccess(token)`, by the approval's class; `Approval` itself raises. -/
def checkAccess (config : Config) (auth : ClientApprovalAuthManager) (store : Store)
    (approval : AFF4Object) (token : ACLToken) (now : Int) : Except Error ACLToken :=
  match approval.aff4Type with
  | .clientApproval => ClientApproval.checkAccess config auth store approval token now
  | .huntApproval | .cronJobApproval | .approvalWithApproversAndReason =>
    ApprovalWithApproversAndReason.checkAccess config store approval token now
  | _ => .error .notImplementedError

/-- The token `GetApprovalForObject` tries an approval with: the user and the approval's reason. -/
def testToken (username : String) (approval : AFF4Object) : ACLToken :=
  { username, reason := approval.cells.reason.newest.map (·.value) }

/--
The loop of `GetApprovalForObject` over the opened approvals, remembering the last refusal.

An approval that passes its check returns the token; a refusal moves on; any other exception propagates.
-/
def approvalLoop (check : AFF4Object → ACLToken → Except Error ACLToken) (username : String)
    (exhausted : Option Error → Except Error ACLToken) : List AFF4Object → Option Error → Except Error ACLToken
  | [], lastError => exhausted lastError
  | approval :: rest, _ =>
    match check approval (testToken username approval) with
    | .ok granted => .ok granted
    | .error (.unauthorizedAccess message subject requestedAccess) =>
      approvalLoop check username exhausted rest (some (.unauthorizedAccess message subject requestedAccess))
    | .error other => .error other

/-- `approvals_root_urn`, where an object's approvals for a user are listed: `aff4:/ACL/<object path>/<user>`. -/
def approvalsRootUrn (objectUrn : RDFURN) (username : String) : RDFURN :=
  ((rootUrn.add "ACL").add objectUrn.path).add username

/-- `Approval.GetApprovalForObject(object_urn, token, username)` at the clock reading `now`. -/
def getApprovalForObject (config : Config) (auth : ClientApprovalAuthManager) (store : Store) (now : Int)
    (objectUrn : RDFURN) (token : Option ACLToken) (username : String) : Except Error ACLToken :=
  match token with
  | none => .error (.unauthorizedAccess "No token given, cannot authenticate." none (some "?"))
  | some token =>
    -- An empty username stands for the token's own.
    let username := if username = "" then token.username else username
    let childrenUrns := store.listChildren (approvalsRootUrn objectUrn username)
    if childrenUrns = [] then
      .error (.unauthorizedAccess ("No approval found for user " ++ username) (some objectUrn) (some "?"))
    else
      let approvals := store.multiOpen childrenUrns (some .approval) .allTimes
      approvalLoop (fun approval token => checkAccess config auth store approval token now) username (fun lastError =>
        match lastError with
        -- Every approval refused, and the last refusal is reported for the object.
        | some lastError => .error (.unauthorizedAccess lastError.message (some objectUrn) (some "?"))
        | none => .error (.unauthorizedAccess ("Couldn't open any of " ++ toString childrenUrns.length ++
            " approvals for user " ++ username) (some objectUrn) (some "?")))
        approvals none

end GrrAcl
