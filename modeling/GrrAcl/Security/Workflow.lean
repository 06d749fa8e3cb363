import GrrAcl.Security.Approval

/-! Requesting and granting approvals: the URNs approvals are stored under and the writes that record them. -/

namespace GrrAcl

/-- The three kinds of approval, each with a requestor, a grantor and an approval class. -/
inductive ApprovalKind where
  /-- `ClientApprovalRequestor`, `ClientApprovalGrantor` and `ClientApproval`. -/
  | client
  /-- `HuntApprovalRequestor`, `HuntApprovalGrantor` and `HuntApproval`. -/
  | hunt
  /-- `CronJobApprovalRequestor`, `CronJobApprovalGrantor` and `CronJobApproval`. -/
  | cronJob
  deriving DecidableEq

namespace ApprovalKind

/-- `approval_type` of the kind's requestor and grantor. -/
def approvalType : ApprovalKind → AFF4Type
  | .client => .clientApproval
  | .hunt => .huntApproval
  | .cronJob => .cronJobApproval

/-- The type name the kind's symlinks under a user's approvals carry. -/
def symlinkType : ApprovalKind → String
  | .client => "client"
  | .hunt => "hunt"
  | .cronJob => "cron"

/-- The type name in the path of the kind's approval review page. -/
def reviewType : ApprovalKind → String
  | .client => "client"
  | .hunt => "hunt"
  | .cronJob => "cron-job"

/-- The collection in the path of the page a granted subject of the kind is shown on. -/
def accessType : ApprovalKind → String
  | .client => "clients"
  | .hunt => "hunts"
  | .cronJob => "crons"

end ApprovalKind

/-- `AbstractApprovalBase.ApprovalUrnBuilder(subject, user, approval_id)`. -/
def approvalUrnBuilder (subject user approvalId : String) : RDFURN :=
  (((rootUrn.add "ACL").add subject).add user).add approvalId

/-- `AbstractApprovalBase.ApprovalSymlinkUrnBuilder(approval_type, subject_id, user, approval_id)`. -/
def approvalSymlinkUrnBuilder (approvalType subjectId user approvalId : String) : RDFURN :=
  (((((rootUrn.add "users").add user).add "approvals").add approvalType).add subjectId).add approvalId

/-- `"%X" % value`: the digits of the value in base sixteen, in capitals. -/
def formatHex (value : Nat) : List Char :=
  (Nat.toDigits 16 value).map Char.toUpper

/-- The approval id `Request` names an approval by, `"approval:%X" % utils.PRNG.GetULong()`. -/
def approvalId (value : Nat) : String :=
  "approval:" ++ String.mk (formatHex value)

/-- A requestor or a grantor as its constructor leaves it. -/
structure ApprovalRequestor where
  /-- Which requestor class this is. -/
  kind : ApprovalKind
  /-- `reason`. -/
  reason : String
  /-- `subject_urn`, a client URN for a client approval. -/
  subjectUrn : RDFURN
  /-- `approver`: the comma-separated users asked to approve. -/
  approver : String
  /-- `email_cc_address`. -/
  emailCcAddress : Option String
  /-- `token`: the requesting user's credentials. -/
  token : ACLToken

/--
`rdf_client.ClientURN(urn)` of a URN; `rdf_client` is not under src/. The URN is copied as it is once
`Validate(urn.Path())` holds, which it does exactly for `aff4:/` and a client id: only a string is normalised.
-/
def clientURNOfUrn (urn : RDFURN) : Except Error RDFURN :=
  match urn.components with
  | [clientId] =>
    if validateClientId clientId then .ok urn else .error (.typeValueError ("Client urn malformed: " ++ urn.toString))
  | _ => .error (.typeValueError ("Client urn malformed: " ++ urn.toString))

/-- `ApprovalRequestor.__init__`, and `ClientApprovalRequestor.__init__` making the subject a client URN. -/
def ApprovalRequestor.init (kind : ApprovalKind) (reason : String) (subjectUrn : Option RDFURN)
    (approver : String) (emailCcAddress : Option String) (token : Option ACLToken) :
    Except Error ApprovalRequestor := do
  if reason = "" then throw (.valueError "reason can't be empty.")
  let some subjectUrn := subjectUrn | throw (.valueError "subject_urn can't be empty.")
  if approver = "" then throw (.valueError "approver can't be empty.")
  let some token := token | throw (.valueError "token can't be empty.")
  let subjectUrn ← match kind with
    | .client => clientURNOfUrn subjectUrn
    | _ => pure subjectUrn
  return ⟨kind, reason, subjectUrn, approver, emailCcAddress, token⟩

namespace ApprovalRequestor

/-- `BuildApprovalUrn(approval_id)` of the three requestors: under the subject's path and the requesting user. -/
def buildApprovalUrn (requestor : ApprovalRequestor) (approvalId : String) : RDFURN :=
  approvalUrnBuilder requestor.subjectUrn.path requestor.token.username approvalId

/-- `BuildApprovalSymlinksUrns(approval_id)`: one symlink under the requesting user's approvals. -/
def buildApprovalSymlinksUrns (requestor : ApprovalRequestor) (approvalId : String) : List RDFURN :=
  [approvalSymlinkUrnBuilder requestor.kind.symlinkType requestor.subjectUrn.basename
    requestor.token.username approvalId]

/-- `BuildApprovalReviewUrlPath(approval_id)`: the review page, under the requesting user's approvals. -/
def buildApprovalReviewUrlPath (requestor : ApprovalRequestor) (approvalId : String) : String :=
  "/".intercalate ["users", requestor.token.username, "approvals", requestor.kind.reviewType,
    requestor.subjectUrn.basename, approvalId]

end ApprovalRequestor

/-- `BuildSubjectTitle()` of a requestor or grantor of the kind; a client's reads its hostname. -/
def buildSubjectTitle (store : Store) (kind : ApprovalKind) (subjectUrn : RDFURN) : Except Error String :=
  match kind with
  | .client => do
    let client ← store.open subjectUrn none .newestTime
    let hostname := (client.cells.hostname.newest.map (·.value)).getD "None"
    pure ("GRR client " ++ subjectUrn.basename ++ " (" ++ hostname ++ ")")
  | .hunt => pure ("hunt " ++ subjectUrn.basename)
  | .cronJob => pure "a cron job"

/-- `email_cc`: the requestor's and the configured CC addresses that are set, joined by commas. -/
def emailCc (emailCcAddress approvalCcAddress : Option String) : String :=
  ",".intercalate ([emailCcAddress, approvalCcAddress].filterMap fun address => address.filter (· ≠ ""))

/-- The `EMAIL_CC` a request records: the approvers, then the CC addresses that are set. -/
def replyCc (approver : String) (emailCcAddress approvalCcAddress : Option String) : String :=
  if emailCc emailCcAddress approvalCcAddress = "" then approver
  else approver ++ "," ++ emailCc emailCcAddress approvalCcAddress

/-- The cells `Request` writes into a new approval, each attribute one version at `now`. -/
def requestCells (requestor : ApprovalRequestor) (emailMsgId : String) (approvalCcAddress : Option String)
    (now : Int) (cells : Cells) : Cells :=
  { cells with
    subject := cells.subject.add requestor.subjectUrn now
    requestor := cells.requestor.add requestor.token.username now
    reason := cells.reason.add requestor.reason now
    emailMsgId := cells.emailMsgId.add emailMsgId now
    emailCc := cells.emailCc.add (replyCc requestor.approver requestor.emailCcAddress approvalCcAddress) now
    notifiedUsers := cells.notifiedUsers.add requestor.approver now
    -- The requester is an approver of their own request.
    approver := cells.approver.add requestor.token.username now }

/-- Telling one user asked to approve, when the user's object opens; otherwise the user is skipped. -/
def notifyApprover (notify : Cells → Notification → Int → Cells) (notification : Notification) (now : Int)
    (store : Store) (user : String) : Store :=
  match store.open ((rootUrn.add "users").add user) (some .grrUser) .newestTime with
  -- `Close()` writes the object `Open` returned: the symlink's target when the user's URN is a symlink.
  | .ok userObject => store.write userObject.urn fun cells => notify cells notification now
  | .error _ => store

/-- Telling the users asked to approve, one after another. -/
def notifyApprovers (notify : Cells → Notification → Int → Cells) (store : Store) (users : List String)
    (notification : Notification) (now : Int) : Store :=
  users.foldl (notifyApprover notify notification now) store

/--
A call of `email_alerts.EMAIL_ALERTER.SendEmail` by `Request` or `Grant`, with the values their two `jinja2`
templates render; neither module is under src/, so the HTML is left to them.
-/
structure ApprovalEmail where
  /-- The addresses it goes to. -/
  toAddresses : String
  /-- The sender, the acting user. -/
  fromAddress : String
  /-- `user` of the subject template `Approval for {{ user }} to access {{ client }}.`. -/
  subjectUser : String
  /-- `subject_title`: the subject template's `client`, and the title the body links. -/
  subjectTitle : String
  /-- `username` of the body: the requesting or the granting user. -/
  username : String
  /-- `reason` of the body. -/
  reason : String
  /-- The page the body links to behind `{{ admin_ui }}/#/`. -/
  link : String
  /-- `cc_addresses`. -/
  ccAddresses : String
  /-- `message_id` of a request's mail. -/
  messageId : Option String
  /-- `In-Reply-To` and `References` of a grant's mail, which thread it under the request's. -/
  inReplyTo : Option String
  deriving DecidableEq

/-- The option `Email.send_approval_emails` and the mail alerter, whose `SendEmail` may raise. -/
structure Mailer where
  /-- `Email.send_approval_emails`. -/
  sendApprovalEmails : Bool
  /-- `EMAIL_ALERTER.SendEmail(...)`. -/
  sendEmail : ApprovalEmail → Except Error Unit

/-- A configuration with approval mails off, under which no mail is sent. -/
def Mailer.disabled : Mailer :=
  ⟨false, fun _ => .ok ()⟩

/--
The end `Request` and `Grant` share once every write is made: with approval mails off they return the
URN, and otherwise they send the mail first, and what sending raises is raised with the writes kept.
-/
def sendApprovalEmail (mailer : Mailer) (email : ApprovalEmail) (urn : RDFURN) : EStateM Error Store RDFURN :=
  fun store =>
    if mailer.sendApprovalEmails then
      match mailer.sendEmail email with
      | .ok () => .ok urn store
      | .error error => .error error store
    else .ok urn store

/-- `utils.SmartStr` of what `Get` read: the value, or `None` when the attribute was never set. -/
def smartStr (version : Option (Versioned String)) : String :=
  (version.map (·.value)).getD "None"

/-- The mail `Request` sends the approvers: the review page of the approval, and the request's message id. -/
def ApprovalRequestor.requestEmail (requestor : ApprovalRequestor) (approvalId emailMsgId : String)
    (approvalCcAddress : Option String) (subjectTitle : String) : ApprovalEmail :=
  { toAddresses := requestor.approver
    fromAddress := requestor.token.username
    subjectUser := requestor.token.username
    subjectTitle
    username := requestor.token.username
    reason := requestor.reason
    link := requestor.buildApprovalReviewUrlPath approvalId
    -- The CC addresses alone, not the `reply_cc` the approval records.
    ccAddresses := emailCc requestor.emailCcAddress approvalCcAddress
    messageId := some emailMsgId
    inReplyTo := none }

/--
The store once `Request()` has created the approval under `approvalUrn`, then its symlinks, and then
notified the users asked to approve.
-/
def ApprovalRequestor.requestedStore (notify : Cells → Notification → Int → Cells) (requestor : ApprovalRequestor)
    (approvalUrn : RDFURN) (linkUrns : List RDFURN) (emailMsgId : String) (approvalCcAddress : Option String)
    (now : Int) (subjectTitle : String) (store : Store) : Store :=
  let store := store.create approvalUrn requestor.kind.approvalType now
    (requestCells requestor emailMsgId approvalCcAddress now)
  let store := linkUrns.foldl (fun store linkUrn =>
    store.create linkUrn .aff4Symlink now fun cells =>
      { cells with symlinkTarget := cells.symlinkTarget.add approvalUrn now }) store
  let users := (requestor.approver.toList.splitOn ',').map fun user => strip (String.mk user)
  notifyApprovers notify store users ⟨"GrantAccess", approvalUrn, "Please grant access to " ++ subjectTitle, ""⟩ now

/--
`ApprovalRequestor.Request()` at the clock reading `now`, with the generator's value for the approval
id and the message id `email.utils.make_msgid()` gave.

`notify` is how `GRRUser.Notify` records a notification in a user's cells; `aff4_objects/users.py` is
not under src/. The audit event goes outside the store.
-/
def ApprovalRequestor.request (notify : Cells → Notification → Int → Cells) (mailer : Mailer)
    (requestor : ApprovalRequestor) (idValue : Nat) (emailMsgId : String) (approvalCcAddress : Option String)
    (now : Int) : EStateM Error Store RDFURN := fun store =>
  let approvalUrn := requestor.buildApprovalUrn (approvalId idValue)
  match buildSubjectTitle store requestor.kind requestor.subjectUrn with
  | .error error => .error error store
  | .ok subjectTitle =>
    sendApprovalEmail mailer (requestor.requestEmail (approvalId idValue) emailMsgId approvalCcAddress subjectTitle)
      approvalUrn (requestor.requestedStore notify approvalUrn (requestor.buildApprovalSymlinksUrns (approvalId idValue))
        emailMsgId approvalCcAddress now subjectTitle store)

/-- A grantor as its constructor leaves it. -/
structure ApprovalGrantor where
  /-- Which grantor class this is. -/
  kind : ApprovalKind
  /-- `reason`: the reason of the approval being granted. -/
  reason : String
  /-- `subject_urn`. -/
  subjectUrn : RDFURN
  /-- `delegate`: the user whose approval is granted. -/
  delegate : String
  /-- `token`: the granting user's credentials. -/
  token : ACLToken

/-- `ApprovalGrantor.__init__`. -/
def ApprovalGrantor.init (kind : ApprovalKind) (reason : String) (subjectUrn : Option RDFURN)
    (delegate : String) (token : Option ACLToken) : Except Error ApprovalGrantor := do
  if reason = "" then throw (.valueError "reason can't be empty.")
  let some subjectUrn := subjectUrn | throw (.valueError "subject_urn can't be empty.")
  if delegate = "" then throw (.valueError "delegate can't be empty.")
  let some token := token | throw (.valueError "token can't be empty.")
  return ⟨kind, reason, subjectUrn, delegate, token⟩

/-- `BuildApprovalUrn(approval_id)` of the client and hunt grantors: under the subject and the delegate. -/
def ApprovalGrantor.buildApprovalUrn (grantor : ApprovalGrantor) (approvalId : String) : RDFURN :=
  approvalUrnBuilder grantor.subjectUrn.path grantor.delegate approvalId

/-- `CronJobApprovalGrantor.BuildApprovalUrn()`: it takes no approval id, and puts the reason in its place. -/
def CronJobApprovalGrantor.buildApprovalUrn (grantor : ApprovalGrantor) : RDFURN :=
  approvalUrnBuilder grantor.subjectUrn.path grantor.delegate grantor.reason

/-- `BuildAccessUrl()`: the page the granted subject is shown on. -/
def ApprovalGrantor.buildAccessUrl (grantor : ApprovalGrantor) : String :=
  "/" ++ grantor.kind.accessType ++ "/" ++ grantor.subjectUrn.basename

/-- The mail `Grant` sends the delegate, threaded under the request's by the message id the approval records. -/
def ApprovalGrantor.grantEmail (grantor : ApprovalGrantor) (subjectTitle : String) (approval : AFF4Object) :
    ApprovalEmail :=
  { toAddresses := grantor.delegate
    fromAddress := grantor.token.username
    subjectUser := grantor.delegate
    subjectTitle
    username := grantor.token.username
    reason := grantor.reason
    link := stripWith (· == '/') grantor.buildAccessUrl
    ccAddresses := smartStr approval.cells.emailCc.newest
    messageId := none
    inReplyTo := some (smartStr approval.cells.emailMsgId.newest) }

/--
The loop of `Grant` over the opened approvals, carrying the URN found so far with its reason's age.

An approval whose reason reads as the grant's wins over what was found unless that is at least as new;
a reason that was never set reads as `None`, and taking its `age` raises.
-/
def findApproval (reason : String) : List AFF4Object → Option (RDFURN × Int) → Except Error (Option (RDFURN × Int))
  | [], found => .ok found
  | approval :: rest, found =>
    match approval.cells.reason.newest with
    | some approvalReason =>
      let newer := match found with
        | none => true
        | some (_, age) => decide (age < approvalReason.age)
      if approvalReason.value = reason && newer then findApproval reason rest (some (approval.urn, approvalReason.age))
      else findApproval reason rest found
    | none =>
      if reason = "None" then .error (.attributeError "'NoneType' object has no attribute 'age'")
      else findApproval reason rest found

/-- The cells of an approval once a grant has added the granting user as an approver at `now`. -/
def grantCells (username : String) (now : Int) (cells : Cells) : Cells :=
  { cells with approver := cells.approver.add username now }

namespace ApprovalGrantor

/-- The approvals `Grant` reads: the delegate's approvals of the subject that open as an `Approval`. -/
def listedApprovals (grantor : ApprovalGrantor) (store : Store) : List AFF4Object :=
  store.multiOpen (store.listChildren (approvalsRootUrn grantor.subjectUrn grantor.delegate)) (some .approval)
    .newestTime

/--
The store once a grant has added the granting user as an approver of the approval at `now`, and then
created the delegate's user object with the notification `GRRUser.Notify` records through `notify`.
-/
def grantedStore (notify : Cells → Notification → Int → Cells) (grantor : ApprovalGrantor) (now : Int)
    (subjectTitle : String) (approvalUrn : RDFURN) (store : Store) : Store :=
  (store.write approvalUrn (grantCells grantor.token.username now)).create
    ((rootUrn.add "users").add grantor.delegate) .grrUser now fun cells =>
      notify cells ⟨"ViewObject", grantor.subjectUrn, grantor.token.username ++
        " has granted you access to " ++ subjectTitle ++ ".", ""⟩ now

/--
`ApprovalGrantor.Grant()` at the clock reading `now`; `notify` records the delegate's notification as in
`ApprovalRequestor.request`.
-/
def grant (notify : Cells → Notification → Int → Cells) (mailer : Mailer) (grantor : ApprovalGrantor) (now : Int) :
    EStateM Error Store RDFURN := fun store =>
  if store.listChildren (approvalsRootUrn grantor.subjectUrn grantor.delegate) = [] then
    .error (.unauthorizedAccess ("No approval found for user " ++ grantor.token.username)
      (some grantor.subjectUrn) (some "?")) store
  else
    match findApproval grantor.reason (grantor.listedApprovals store) none with
    | .error error => .error error store
    | .ok none =>
      .error (.unauthorizedAccess ("No approval with reason '" ++ grantor.reason ++ "' found for user " ++
        grantor.token.username) (some grantor.subjectUrn) (some "?")) store
    | .ok (some (foundApprovalUrn, _)) =>
      match buildSubjectTitle store grantor.kind grantor.subjectUrn with
      | .error error => .error error store
      | .ok subjectTitle =>
        -- The approval must already exist, and as the grantor's own class.
        match store.open foundApprovalUrn (some grantor.kind.approvalType) .newestTime with
        | .error _ => .error (.unauthorizedAccess "Approval object does not exist." none (some "rw")) store
        | .ok approval =>
          -- Closing the approval writes the object `Open` returned.
          sendApprovalEmail mailer (grantor.grantEmail subjectTitle approval) foundApprovalUrn
            (grantor.grantedStore notify now subjectTitle approval.urn store)

end ApprovalGrantor

end GrrAcl
