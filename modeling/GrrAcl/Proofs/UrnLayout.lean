import GrrAcl.Security.Workflow
import Mathlib.Data.String.Basic

/-! The URN an approval is requested under decodes, when it is checked, to the user and subject it was built from. -/

namespace GrrAcl

/-- Reading a URN's string form back gives the URN: the scheme is dropped, and the path keeps its components. -/
theorem ofString_toString (urn : RDFURN) : RDFURN.ofString urn.toString = urn := by
  -- The string form is the scheme and then the path, which starts with its separator.
  have scheme : urn.toString.take 6 = "aff4:/" := String.ext (by simp [RDFURN.toString, RDFURN.path])
  have dropped : urn.toString.drop 5 = urn.path := String.ext (by simp [RDFURN.toString])
  apply RDFURN.eq_of_components
  simp [RDFURN.ofString, scheme, dropped]

/-- No digit of a base-sixteen numeral is the separator, in capitals or not. -/
theorem toDigitsCore_separator_free :
    ∀ (fuel value : Nat) (digits : List Char), (∀ c ∈ digits, c.toUpper ≠ '/') →
      ∀ c ∈ Nat.toDigitsCore 16 fuel value digits, c.toUpper ≠ '/'
  | 0, _, _, free => free
  | fuel + 1, value, digits, free => by
    -- Each step puts the digit of the remainder in front, and there are sixteen such digits.
    have digit : ∀ d < 16, (Nat.digitChar d).toUpper ≠ '/' := by decide
    have next : ∀ c ∈ (value % 16).digitChar :: digits, c.toUpper ≠ '/' := by
      simpa using ⟨digit _ (Nat.mod_lt value (by decide)), free⟩
    dsimp only [Nat.toDigitsCore]
    split
    · exact next
    · exact toDigitsCore_separator_free fuel _ _ next

/-- The characters of an approval id are its prefix and then its hex digits. -/
theorem approvalId_data (value : Nat) : (approvalId value).data = "approval:".data ++ formatHex value := by
  simp [approvalId]

/-- An approval id `Request` generates is a single path component. -/
theorem approvalId_valid (value : Nat) : ValidComponent (approvalId value) := by
  -- Nine characters of prefix rule out the empty and relative forms, and no character is a separator.
  have length : ∀ text : String, approvalId value = text → 9 ≤ text.data.length := by
    rintro text rfl
    simp [approvalId_data]
  refine ⟨fun same => ?_, ?_, fun same => ?_, fun same => ?_⟩
  · simpa using length _ same
  · simp only [String.toList, approvalId_data, formatHex, List.mem_append, List.mem_map, not_or]
    exact ⟨by decide, fun ⟨c, member, upper⟩ =>
      toDigitsCore_separator_free _ _ [] (by simp) c member upper⟩
  · simpa using length _ same
  · simpa using length _ same

/-- A hex digit is no whitespace and no separator, and lower-casing it gives a hex digit lower-casing keeps. -/
theorem hexDigits_plain : ∀ digit ∈ hexDigits,
    isPythonSpace digit = false ∧ digit ≠ '/' ∧ digit.toLower ∈ hexDigits ∧ digit.toLower.toLower = digit.toLower := by
  decide

/-- A valid client id is `c.` or `C.` and sixteen hex digits. -/
theorem validateClientId_data {clientId : String} (valid : validateClientId clientId = true) :
    ∃ letter digits, clientId.toList = letter :: '.' :: digits ∧ (letter = 'c' ∨ letter = 'C') ∧
      digits.length = 16 ∧ ∀ digit ∈ digits, digit ∈ hexDigits := by
  unfold validateClientId at valid
  split at valid
  · rename_i letter digits layout
    simp only [Bool.and_eq_true, Bool.or_eq_true, beq_iff_eq, List.all_eq_true, isHexDigit, List.elem_iff,
      List.contains] at valid
    exact ⟨letter, digits, layout, valid.1.1, valid.1.2, valid.2⟩
  · cases valid

/-- No character of a valid client id is whitespace or the separator. -/
theorem validateClientId_plain {clientId : String} (valid : validateClientId clientId = true) :
    ∀ char ∈ clientId.toList, isPythonSpace char = false ∧ char ≠ '/' := by
  obtain ⟨letter, digits, layout, lettered, -, hex⟩ := validateClientId_data valid
  rw [layout]
  -- The letter and the dot are neither, and nor is a hex digit.
  rintro char (_ | ⟨_, _ | ⟨_, member⟩⟩)
  · rcases lettered with rfl | rfl <;> decide
  · decide
  · exact ⟨(hexDigits_plain char (hex char member)).1, (hexDigits_plain char (hex char member)).2.1⟩

/-- A valid client id is a single path component. -/
theorem validateClientId_valid {clientId : String} (valid : validateClientId clientId = true) :
    ValidComponent clientId := by
  obtain ⟨letter, digits, layout, -, sized, -⟩ := validateClientId_data valid
  -- Eighteen characters rule out the empty and relative forms.
  have length : clientId.length = 18 := by
    rw [String.length, ← String.toList, layout]
    simp [sized]
  exact ⟨fun same => absurd length (by rw [same]; decide), fun member => (validateClientId_plain valid '/' member).2 rfl,
    fun same => absurd length (by rw [same]; decide), fun same => absurd length (by rw [same]; decide)⟩

/-- Dropping leading characters none of which is dropped keeps them all. -/
theorem dropWhile_of_forall {stripped : Char → Bool} :
    ∀ {chars : List Char}, (∀ char ∈ chars, stripped char = false) → chars.dropWhile stripped = chars
  | [], _ => rfl
  | char :: rest, kept => by simp [List.dropWhile_cons, kept char (List.mem_cons_self _ _)]

/-- Text none of whose characters is stripped is stripped of nothing. -/
theorem stripWith_of_forall {stripped : Char → Bool} {text : String}
    (kept : ∀ char ∈ text.toList, stripped char = false) : stripWith stripped text = text := by
  unfold stripWith
  rw [dropWhile_of_forall kept, dropWhile_of_forall (by simpa using kept), List.reverse_reverse]
  rfl

/-- A valid client id, read as a string, is the client URN of its normal form. -/
theorem clientURN_of_validateClientId {clientId : String} (valid : validateClientId clientId = true) :
    clientURN clientId = .ok (rootUrn.add (normalizeClientId clientId)) := by
  obtain ⟨letter, digits, layout, lettered, -, -⟩ := validateClientId_data valid
  have stripped : strip clientId = clientId :=
    stripWith_of_forall fun char member => (validateClientId_plain valid char member).1
  -- The id begins with its letter, not with the scheme, so it is read as one component.
  have noScheme : clientId.take 6 ≠ "aff4:/" := fun same => by
    have heads := congrArg (fun text : String => text.data.head?) same
    rcases lettered with rfl | rfl <;> simp [show clientId.data = _ from layout] at heads
  have single : (RDFURN.ofString clientId).components = [clientId] := by
    rw [RDFURN.ofString, if_neg noScheme, RDFURN.add_components_of_valid _ (validateClientId_valid valid)]
    rfl
  unfold clientURN
  simp only
  rw [stripped, single]
  simp only [valid, if_true]

/-- The normal form of a client id whose letter and dot are followed by digits. -/
theorem normalizeClientId_data {clientId : String} {letter : Char} {digits : List Char}
    (layout : clientId.toList = letter :: '.' :: digits) :
    (normalizeClientId clientId).toList = letter.toUpper :: '.' :: digits.map Char.toLower := by
  simp [normalizeClientId, show clientId.data = _ from layout, show Char.toLower '.' = '.' by decide]

/-- The normal form of a valid client id is valid. -/
theorem validateClientId_normalizeClientId {clientId : String} (valid : validateClientId clientId = true) :
    validateClientId (normalizeClientId clientId) = true := by
  obtain ⟨letter, digits, layout, lettered, sized, hex⟩ := validateClientId_data valid
  have upper : letter.toUpper = 'C' := by rcases lettered with rfl | rfl <;> rfl
  simp only [validateClientId, normalizeClientId_data layout, upper]
  simpa [sized, isHexDigit, List.elem_iff] using fun digit member => (hexDigits_plain digit (hex digit member)).2.2.1

namespace ApprovalKind

/-- The subject an id names for the kind: `aff4:/<client id>`, `aff4:/hunts/<id>` or `aff4:/cron/<id>`. -/
def subjectUrn : ApprovalKind → String → RDFURN
  | .client, clientId => rootUrn.add clientId
  | .hunt, huntId => (rootUrn.add "hunts").add huntId
  | .cronJob, cronJobName => (rootUrn.add "cron").add cronJobName

/-- The ids that name a kind's subjects: a valid client identifier, or any single component. -/
def SubjectId : ApprovalKind → String → Prop
  | .client, clientId => validateClientId clientId = true
  | .hunt, huntId => ValidComponent huntId
  | .cronJob, cronJobName => ValidComponent cronJobName

instance : (kind : ApprovalKind) → (subjectId : String) → Decidable (kind.SubjectId subjectId)
  | .client, clientId => inferInstanceAs (Decidable (validateClientId clientId = true))
  | .hunt, huntId => inferInstanceAs (Decidable (ValidComponent huntId))
  | .cronJob, cronJobName => inferInstanceAs (Decidable (ValidComponent cronJobName))

/-- The id the kind's decoder names the subject by: a client id in its normal form, any other id as it is. -/
def normalizeSubjectId : ApprovalKind → String → String
  | .client, clientId => normalizeClientId clientId
  | .hunt, huntId => huntId
  | .cronJob, cronJobName => cronJobName

/-- A kind's subject of an id's normal form is the id's subject exactly when the id is in normal form. -/
theorem subjectUrn_normalizeSubjectId_eq_iff {kind : ApprovalKind} {subjectId : String} (named : kind.SubjectId subjectId) :
    kind.subjectUrn (kind.normalizeSubjectId subjectId) = kind.subjectUrn subjectId ↔
      kind.normalizeSubjectId subjectId = subjectId := by
  refine ⟨fun same => ?_, fun same => by rw [same]⟩
  cases kind
  · -- Both client URNs are the one component of their id.
    have layout := congrArg RDFURN.components same
    simpa [subjectUrn, normalizeSubjectId, validateClientId_valid named,
      validateClientId_valid (validateClientId_normalizeClientId named)] using layout
  all_goals rfl

end ApprovalKind

/-- An approval URN is the namespace, the subject's components, the user and the approval id. -/
theorem approvalUrnBuilder_components (subject : RDFURN) {user approvalId : String}
    (userValid : ValidComponent user) (idValid : ValidComponent approvalId) :
    (approvalUrnBuilder subject.path user approvalId).components =
      "ACL" :: subject.components ++ [user, approvalId] := by
  simp [approvalUrnBuilder, userValid, idValid, show ValidComponent "ACL" by decide]

/-- The approvals listed for a subject and a user are the namespace, the subject's components, and the user. -/
theorem approvalsRootUrn_components (subject : RDFURN) {user : String} (userValid : ValidComponent user) :
    (approvalsRootUrn subject user).components = "ACL" :: subject.components ++ [user] := by
  simp [approvalsRootUrn, userValid, show ValidComponent "ACL" by decide]

/-- The decoder of hunt and cron job approvals reads the user and the subject off their places. -/
theorem inferUserAndSubjectFromKindUrn_of_components {kind subjectId user : String} (approvalId : String)
    {urn : RDFURN} (layout : urn.components = ["ACL", kind, subjectId, user, approvalId]) :
    inferUserAndSubjectFromKindUrn kind urn = .ok (user, (rootUrn.add kind).add subjectId) := by
  simp [inferUserAndSubjectFromKindUrn, layout,
    RDFURN.split_of_length urn (show urn.components.length = 4 + 1 by simp [layout])]

/-- The decoder of client approvals reads the user and the client off their places, the client in normal form. -/
theorem ClientApproval.inferUserAndSubjectFromUrn_of_components {clientId user : String} (approvalId : String)
    {urn : RDFURN} (layout : urn.components = ["ACL", clientId, user, approvalId])
    (client : validateClientId clientId = true) :
    ClientApproval.inferUserAndSubjectFromUrn urn = .ok (user, rootUrn.add (normalizeClientId clientId)) := by
  simp [ClientApproval.inferUserAndSubjectFromUrn, layout, clientURN_of_validateClientId client, bind, Except.bind,
    pure, Except.pure, RDFURN.split_of_length urn (show urn.components.length = 3 + 1 by simp [layout])]

/-- The shared decoder reads a hunt's or a cron job's approval URN back to its user and subject. -/
theorem inferUserAndSubjectFromKindUrn_approvalUrnBuilder {kind subjectId user : String} (approvalId : String)
    (kindValid : ValidComponent kind) (named : ValidComponent subjectId) (userValid : ValidComponent user)
    (idValid : ValidComponent approvalId) :
    inferUserAndSubjectFromKindUrn kind (approvalUrnBuilder ((rootUrn.add kind).add subjectId).path user approvalId) =
      .ok (user, (rootUrn.add kind).add subjectId) :=
  inferUserAndSubjectFromKindUrn_of_components approvalId (by
    simp [approvalUrnBuilder_components _ userValid idValid, kindValid, named])

/--
A kind's approval class decodes the URN an approval of the kind is built under to its user and the
subject of the id's normal form.
-/
theorem inferUserAndSubjectFromUrn_approvalUrnBuilder {kind : ApprovalKind} {subjectId user approvalId : String}
    (named : kind.SubjectId subjectId) (userValid : ValidComponent user) (idValid : ValidComponent approvalId)
    (symlinkUrn : Option RDFURN) (cells : Cells) :
    inferUserAndSubjectFromUrn ⟨approvalUrnBuilder (kind.subjectUrn subjectId).path user approvalId, symlinkUrn,
      kind.approvalType, cells⟩ = .ok (user, kind.subjectUrn (kind.normalizeSubjectId subjectId)) := by
  -- Each kind's decoder splits the URN into as many parts as its subjects put in it.
  cases kind <;> simp only [inferUserAndSubjectFromUrn, ApprovalKind.approvalType, ApprovalKind.subjectUrn,
    ApprovalKind.normalizeSubjectId, HuntApproval.inferUserAndSubjectFromUrn, CronJobApproval.inferUserAndSubjectFromUrn]
  · refine ClientApproval.inferUserAndSubjectFromUrn_of_components approvalId ?_ named
    simp [approvalUrnBuilder_components _ userValid idValid, validateClientId_valid named]
  · exact inferUserAndSubjectFromKindUrn_approvalUrnBuilder _ (by decide) named userValid idValid
  · exact inferUserAndSubjectFromKindUrn_approvalUrnBuilder _ (by decide) named userValid idValid

/--
The URN a requestor builds for an approval id sits right below the URN that `GetApprovalForObject` and
`Grant` list for its subject and user, begins in the `ACL` namespace, and is decoded by its kind's approval
class to that user and the subject of the id's normal form.
-/
theorem ApprovalRequestor.buildApprovalUrn_decoded (requestor : ApprovalRequestor) {subjectId : String} (value : Nat)
    (named : requestor.kind.SubjectId subjectId) (subject : requestor.subjectUrn = requestor.kind.subjectUrn subjectId)
    (userValid : ValidComponent requestor.token.username) (symlinkUrn : Option RDFURN) (cells : Cells) :
    (requestor.buildApprovalUrn (approvalId value)).components =
        (approvalsRootUrn requestor.subjectUrn requestor.token.username).components ++ [approvalId value] ∧
      (∃ rest, (requestor.buildApprovalUrn (approvalId value)).split 2 = some ["ACL", rest]) ∧
      inferUserAndSubjectFromUrn
          ⟨requestor.buildApprovalUrn (approvalId value), symlinkUrn, requestor.kind.approvalType, cells⟩ =
        .ok (requestor.token.username, requestor.kind.subjectUrn (requestor.kind.normalizeSubjectId subjectId)) := by
  -- The URN is the listed one and the approval id; the user's component makes it split in two after `ACL`.
  have built := approvalUrnBuilder_components requestor.subjectUrn userValid (approvalId_valid value)
  refine ⟨by simp [ApprovalRequestor.buildApprovalUrn, built, approvalsRootUrn_components _ userValid], ?_, ?_⟩
  · obtain ⟨second, rest, layout⟩ : ∃ second rest,
        requestor.subjectUrn.components ++ [requestor.token.username, approvalId value] = second :: rest :=
      List.exists_cons_of_ne_nil (by simp)
    exact ⟨_, RDFURN.split_two _ (built.trans (congrArg _ layout))⟩
  · rw [ApprovalRequestor.buildApprovalUrn, subject]
    exact inferUserAndSubjectFromUrn_approvalUrnBuilder named userValid (approvalId_valid value) _ _

/--
The URN a requestor builds for an approval id sits right below the URN that `GetApprovalForObject` and
`Grant` list for its subject and user, and begins in the `ACL` namespace; its kind's approval class
decodes it to the user and the subject of the id's normal form, which is the requestor's subject exactly
when the id is in normal form: always for a hunt or a cron job, and for a client when its id is `C.` and
lower-case hex.
-/
theorem buildApprovalUrn_round_trip (requestor : ApprovalRequestor) (subjectId : String) (value : Nat)
    (named : requestor.kind.SubjectId subjectId)
    (subject : requestor.subjectUrn = requestor.kind.subjectUrn subjectId)
    (userValid : ValidComponent requestor.token.username) (symlinkUrn : Option RDFURN) (cells : Cells) :
    (requestor.buildApprovalUrn (approvalId value)).components =
        (approvalsRootUrn requestor.subjectUrn requestor.token.username).components ++ [approvalId value] ∧
      (∃ rest, (requestor.buildApprovalUrn (approvalId value)).split 2 = some ["ACL", rest]) ∧
      inferUserAndSubjectFromUrn
          ⟨requestor.buildApprovalUrn (approvalId value), symlinkUrn, requestor.kind.approvalType, cells⟩ =
        .ok (requestor.token.username, requestor.kind.subjectUrn (requestor.kind.normalizeSubjectId subjectId)) ∧
      (inferUserAndSubjectFromUrn
          ⟨requestor.buildApprovalUrn (approvalId value), symlinkUrn, requestor.kind.approvalType, cells⟩ =
        .ok (requestor.token.username, requestor.subjectUrn) ↔
          requestor.kind.normalizeSubjectId subjectId = subjectId) := by
  obtain ⟨below, split, decoded⟩ := requestor.buildApprovalUrn_decoded value named subject userValid symlinkUrn cells
  refine ⟨below, split, decoded, ?_⟩
  rw [decoded, subject, ← ApprovalKind.subjectUrn_normalizeSubjectId_eq_iff named]
  simp

/-- `alice` asking `bob` for access to the client `c.ABCDEF0123456789`, its letter in lower case and its hex in capitals. -/
def mixedCaseClientRequestor : ApprovalRequestor :=
  ⟨.client, "triage", ApprovalKind.client.subjectUrn "c.ABCDEF0123456789", "bob", none,
    { username := "alice", reason := none }⟩

/-- The round trip of `alice`'s client request, under the approval id of the value `0xBEE`: the client comes back in normal form. -/
theorem mixedCaseClientRequestor_round_trip :
    mixedCaseClientRequestor.kind.SubjectId "c.ABCDEF0123456789" ∧
      mixedCaseClientRequestor.subjectUrn = mixedCaseClientRequestor.kind.subjectUrn "c.ABCDEF0123456789" ∧
      ValidComponent mixedCaseClientRequestor.token.username ∧
      ((mixedCaseClientRequestor.buildApprovalUrn (approvalId 3054)).components =
          (approvalsRootUrn mixedCaseClientRequestor.subjectUrn mixedCaseClientRequestor.token.username).components ++
            [approvalId 3054] ∧
        (∃ rest, (mixedCaseClientRequestor.buildApprovalUrn (approvalId 3054)).split 2 = some ["ACL", rest]) ∧
        inferUserAndSubjectFromUrn ⟨mixedCaseClientRequestor.buildApprovalUrn (approvalId 3054), none,
            mixedCaseClientRequestor.kind.approvalType, .empty⟩ =
          .ok (mixedCaseClientRequestor.token.username, mixedCaseClientRequestor.kind.subjectUrn
            (mixedCaseClientRequestor.kind.normalizeSubjectId "c.ABCDEF0123456789")) ∧
        (inferUserAndSubjectFromUrn ⟨mixedCaseClientRequestor.buildApprovalUrn (approvalId 3054), none,
            mixedCaseClientRequestor.kind.approvalType, .empty⟩ =
          .ok (mixedCaseClientRequestor.token.username, mixedCaseClientRequestor.subjectUrn) ↔
            mixedCaseClientRequestor.kind.normalizeSubjectId "c.ABCDEF0123456789" = "c.ABCDEF0123456789")) :=
  ⟨by decide, rfl, by decide,
    buildApprovalUrn_round_trip mixedCaseClientRequestor "c.ABCDEF0123456789" 3054 (by decide) rfl (by decide) none .empty⟩

/-- `alice`'s request for the client `C.ABCDEF0123456789`, as the client requestor's constructor returns it. -/
def upperCaseClientRequestor : ApprovalRequestor :=
  ⟨.client, "triage", rootUrn.add "C.ABCDEF0123456789", "bob", none, { username := "alice", reason := none }⟩

/--
The client requestor's constructor keeps the subject `aff4:/C.ABCDEF0123456789` as it is given, and the
client approval class decodes the approval URN of the request to `aff4:/C.abcdef0123456789`, another URN.
-/
theorem upperCaseClientRequestor_decoded :
    ApprovalRequestor.init .client "triage" (some (rootUrn.add "C.ABCDEF0123456789")) "bob" none
        (some { username := "alice", reason := none }) = .ok upperCaseClientRequestor ∧
      inferUserAndSubjectFromUrn ⟨upperCaseClientRequestor.buildApprovalUrn (approvalId 3054), none, .clientApproval,
        .empty⟩ = .ok ("alice", rootUrn.add "C.abcdef0123456789") ∧
      rootUrn.add "C.abcdef0123456789" ≠ upperCaseClientRequestor.subjectUrn :=
  ⟨rfl, rfl, by decide⟩

end GrrAcl
