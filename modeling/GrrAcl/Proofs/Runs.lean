import GrrAcl.Proofs.CheckAccess
import GrrAcl.Proofs.Frame

/-! Over every run of requests and grants, access for a user to an object comes only from that user's request for it. -/

namespace GrrAcl

/-- One operation of the approval workflow, with the values its environment supplies. -/
inductive Operation where
  /-- `Request()`, with the generator's value for the approval id, the message id, the CC address and the clock. -/
  | request (requestor : ApprovalRequestor) (idValue : Nat) (emailMsgId : String) (approvalCcAddress : Option String)
      (now : Int)
  /-- `Grant()` at the clock reading. -/
  | grant (grantor : ApprovalGrantor) (now : Int)

/-- The store a run of a step leaves, whether it returned or raised. -/
def resultStore {α : Type} : EStateM.Result Error Store α → Store
  | .ok _ store => store
  | .error _ store => store

namespace Operation

/-- The operation run on the store, its mails sent through `mailer`. -/
def run (notify : Cells → Notification → Int → Cells) (mailer : Mailer) : Operation → EStateM Error Store RDFURN
  | .request requestor idValue emailMsgId approvalCcAddress now =>
    requestor.request notify mailer idValue emailMsgId approvalCcAddress now
  | .grant grantor now => grantor.grant notify mailer now

/-- The store an operation leaves, whether it returned or raised; the mail changes no store, so none is sent. -/
def apply (notify : Cells → Notification → Int → Cells) (operation : Operation) (store : Store) : Store :=
  resultStore (operation.run notify Mailer.disabled store)

/-- The requestor of a request, with the value its approval id is made of. -/
def requested : Operation → List (ApprovalRequestor × Nat)
  | .request requestor idValue _ _ _ => [(requestor, idValue)]
  | .grant _ _ => []

end Operation

/-- The mail step leaves the store as the writes left it. -/
@[simp] theorem resultStore_sendApprovalEmail (mailer : Mailer) (email : ApprovalEmail) (urn : RDFURN) (store : Store) :
    resultStore (sendApprovalEmail mailer email urn store) = store := by
  unfold sendApprovalEmail
  split
  · split <;> rfl
  · rfl

/-- Whatever the mailer, an operation leaves the store `Operation.apply` gives: the mail comes after every write. -/
theorem Operation.resultStore_run (notify : Cells → Notification → Int → Cells) (mailer : Mailer) (operation : Operation)
    (store : Store) : resultStore (operation.run notify mailer store) = operation.apply notify store := by
  cases operation with
  | request requestor idValue emailMsgId approvalCcAddress now =>
    simp only [Operation.apply, Operation.run, ApprovalRequestor.request]
    split <;> simp only [resultStore_sendApprovalEmail]
  | grant grantor now =>
    simp only [Operation.apply, Operation.run, ApprovalGrantor.grant]
    repeat' split
    all_goals simp only [resultStore_sendApprovalEmail]

/-- The store after each operation of a run in turn. -/
def runOperations (notify : Cells → Notification → Int → Cells) (operations : List Operation) (store : Store) :
    Store :=
  operations.foldl (fun store operation => operation.apply notify store) store

/-- A request leaves the store as it was, or the store its writes leave. -/
theorem apply_request (notify : Cells → Notification → Int → Cells) (requestor : ApprovalRequestor) (idValue : Nat)
    (emailMsgId : String) (approvalCcAddress : Option String) (now : Int) (store : Store) :
    (Operation.request requestor idValue emailMsgId approvalCcAddress now).apply notify store = store ∨
      ∃ subjectTitle, (Operation.request requestor idValue emailMsgId approvalCcAddress now).apply notify store =
        requestor.requestedStore notify (requestor.buildApprovalUrn (approvalId idValue))
          (requestor.buildApprovalSymlinksUrns (approvalId idValue)) emailMsgId approvalCcAddress now subjectTitle
          store := by
  rcases request_cases notify Mailer.disabled requestor idValue emailMsgId approvalCcAddress now store with
    ⟨_, raised⟩ | ⟨subjectTitle, ended⟩
  · exact .inl (by simp only [Operation.apply, Operation.run, raised, resultStore])
  · exact .inr ⟨subjectTitle, by simp only [Operation.apply, Operation.run, ended, resultStore_sendApprovalEmail]⟩

/-- A grant leaves the store as it was, or the store its grant of a listed approval leaves. -/
theorem apply_grant (notify : Cells → Notification → Int → Cells) (grantor : ApprovalGrantor) (now : Int)
    (store : Store) :
    (Operation.grant grantor now).apply notify store = store ∨
      ∃ approval ∈ grantor.listedApprovals store, ∃ subjectTitle, (Operation.grant grantor now).apply notify store =
        grantor.grantedStore notify now subjectTitle approval.urn store := by
  rcases grant_cases notify Mailer.disabled grantor now store with
    ⟨_, raised⟩ | ⟨approval, listed, -, subjectTitle, _, -, -, -, ended⟩
  · exact .inl (by simp only [Operation.apply, Operation.run, raised, resultStore])
  · exact .inr ⟨approval, listed, subjectTitle,
      by simp only [Operation.apply, Operation.run, ended, resultStore_sendApprovalEmail]⟩

/-- No approval class is the symlink class. -/
theorem approvalType_ne_symlink (kind : ApprovalKind) : kind.approvalType ≠ .aff4Symlink := by
  cases kind <;> decide

/--
What runs of requests and grants keep of a store: its objects in the `ACL` namespace are the approvals
of requests made, and its child index names single components.
-/
structure AclInvariant (requests : List (ApprovalRequestor × Nat)) (store : Store) : Prop where
  /-- Every object in the namespace is at the approval URN of a request made, as that request's class. -/
  approvals : ∀ urn version, InAcl urn → (store.cells urn).type.newest = some version →
    ∃ request ∈ requests, urn = request.1.buildApprovalUrn (approvalId request.2) ∧
      version.value = request.1.kind.approvalType
  /-- The child index names single components only. -/
  index : ∀ urn, ∀ name ∈ store.index urn, ValidComponent name

namespace AclInvariant

variable {requests : List (ApprovalRequestor × Nat)} {store : Store}

/-- The invariant holds for any list holding the requests made. -/
theorem mono (invariant : AclInvariant requests store) {more : List (ApprovalRequestor × Nat)}
    (sub : ∀ request ∈ requests, request ∈ more) : AclInvariant more store :=
  ⟨fun urn version inAcl newest =>
    let ⟨request, made, rest⟩ := invariant.approvals urn version inAcl newest
    ⟨request, sub request made, rest⟩, invariant.index⟩

/-- Changes outside the namespace keep the invariant. -/
theorem frame (invariant : AclInvariant requests store) {store' : Store} (framed : AclFrame store store') :
    AclInvariant requests store' :=
  ⟨fun urn version inAcl newest => invariant.approvals urn version inAcl (framed.cells urn inAcl ▸ newest),
    fun urn name member => (framed.entered urn name member).elim (invariant.index urn name) id⟩

/-- Writing cells without touching their class keeps the invariant. -/
theorem write_keeping_type (invariant : AclInvariant requests store) (urn : RDFURN) {update : Cells → Cells}
    (keeps : ∀ cells, (update cells).type = cells.type) : AclInvariant requests (store.write urn update) := by
  refine ⟨fun other version inAcl newest => invariant.approvals other version inAcl ?_, invariant.index⟩
  by_cases same : other = urn
  · subst same
    simpa [keeps] using newest
  · simpa [same] using newest

/-- Creating the approval of a request made, as the class of its kind, keeps the invariant. -/
theorem create_approval (invariant : AclInvariant requests store) {requestor : ApprovalRequestor} {idValue : Nat}
    (made : (requestor, idValue) ∈ requests) (now : Int) {update : Cells → Cells}
    (keeps : ∀ cells, (update cells).type = cells.type) :
    AclInvariant requests
      (store.create (requestor.buildApprovalUrn (approvalId idValue)) requestor.kind.approvalType now update) := by
  refine ⟨fun other version inAcl newest => ?_, (invariant.frame (AclFrame.updateChildIndex _ _)).index⟩
  by_cases same : other = requestor.buildApprovalUrn (approvalId idValue)
  · -- The newest class is the one just written, or the newest before, which a request made wrote.
    subst same
    simp only [Store.create, Store.write_cells_self, Store.updateChildIndex_cells, keeps] at newest
    rcases History.newest_add (store.cells _).type requestor.kind.approvalType now with fresh | old
    · rw [fresh] at newest
      cases newest
      exact ⟨_, made, rfl, rfl⟩
    · exact invariant.approvals _ version inAcl (old ▸ newest)
  · simp only [Store.create, Store.write_cells_other _ _ same, Store.updateChildIndex_cells] at newest
    exact invariant.approvals other version inAcl newest

/-- No object of the namespace is a user's, every class there being an approval class. -/
theorem usersOutsideAcl (invariant : AclInvariant requests store) : UsersOutsideAcl store :=
  fun urn inAcl version newest => by
    obtain ⟨request, -, -, typeIs⟩ := invariant.approvals urn version inAcl newest
    rw [typeIs]
    exact approvalType_ne_grrUser _

/-- An approval listed for an object and a user is the approval of a request made, at a listed child's URN. -/
theorem listed (invariant : AclInvariant requests store) {objectUrn : RDFURN} {user : String} {age : Age}
    {approval : AFF4Object}
    (member : approval ∈ store.multiOpen (store.listChildren (approvalsRootUrn objectUrn user)) (some .approval) age) :
    ∃ name ∈ store.index (approvalsRootUrn objectUrn user), ∃ request ∈ requests,
      approval.urn = (approvalsRootUrn objectUrn user).add name ∧
        approval.urn = request.1.buildApprovalUrn (approvalId request.2) ∧
        approval.aff4Type = request.1.kind.approvalType := by
  -- It opened at a listed child of the namespace, which has a class and so is a request's approval.
  obtain ⟨child, listed, opened⟩ := (Store.mem_multiOpen _ _ _ _ _).mp member
  obtain ⟨name, indexed, rfl⟩ := (Store.mem_listChildren _ _ _).mp listed
  obtain ⟨version, newest, itself⟩ := Store.open_ok_type opened
  obtain ⟨request, made, location, typeIs⟩ :=
    invariant.approvals _ version (approvalUrnBuilder_inAcl objectUrn.path user name) newest
  obtain ⟨urnIs, aff4TypeIs⟩ := itself (typeIs ▸ approvalType_ne_symlink _)
  exact ⟨name, indexed, request, made, urnIs, urnIs.trans location, aff4TypeIs.trans typeIs⟩

/-- One operation keeps the invariant, the request it makes counted. -/
theorem apply (invariant : AclInvariant requests store) (notify : Cells → Notification → Int → Cells)
    (operation : Operation) : AclInvariant (requests ++ operation.requested) (operation.apply notify store) := by
  cases operation with
  | request requestor idValue emailMsgId approvalCcAddress now =>
    -- The approval goes where its request said, and everything else below `aff4:/users`.
    have counted := invariant.mono fun _ made => List.mem_append_left [(requestor, idValue)] made
    rcases apply_request notify requestor idValue emailMsgId approvalCcAddress now store with same | ⟨_, returned⟩
    · rw [same]
      exact counted
    · rw [returned]
      refine AclInvariant.frame ?_ (requestedStore_frame notify requestor _
        (buildApprovalSymlinksUrns_outside requestor _) _ _ _ _ invariant.usersOutsideAcl)
      exact counted.create_approval (by simp [Operation.requested]) now fun _ => rfl
  | grant grantor now =>
    simp only [Operation.requested, List.append_nil]
    rcases apply_grant notify grantor now store with same | ⟨approval, -, _, returned⟩
    · rw [same]
      exact invariant
    · rw [returned]
      refine AclInvariant.frame ?_ (grantedStore_frame notify grantor now _ approval.urn store)
      exact invariant.write_keeping_type approval.urn fun _ => rfl

/-- Every run keeps the invariant, with the requests it makes counted. -/
theorem runOperations (invariant : AclInvariant requests store) (notify : Cells → Notification → Int → Cells)
    (operations : List Operation) :
    AclInvariant (requests ++ operations.flatMap Operation.requested) (GrrAcl.runOperations notify operations store) := by
  induction operations generalizing requests store with
  | nil => simpa [GrrAcl.runOperations] using invariant
  | cons operation rest carried =>
    simpa [GrrAcl.runOperations, List.append_assoc] using carried (invariant.apply notify operation)

end AclInvariant

/-- A requestor whose subject is of its kind and named by an id of the kind, and whose user is one component. -/
def ApprovalRequestor.WellFormed (requestor : ApprovalRequestor) : Prop :=
  (∃ subjectId, requestor.kind.SubjectId subjectId ∧ requestor.subjectUrn = requestor.kind.subjectUrn subjectId) ∧
    ValidComponent requestor.token.username

/-- `ClientURN(urn)` returns the URN it is given, which is that of a valid client id. -/
theorem clientURNOfUrn_ok {urn client : RDFURN} (converted : clientURNOfUrn urn = .ok client) :
    ∃ clientId, validateClientId clientId = true ∧ client = rootUrn.add clientId := by
  unfold clientURNOfUrn at converted
  split at converted
  · rename_i clientId layout
    split at converted
    · rename_i valid
      cases converted
      exact ⟨clientId, valid, RDFURN.eq_of_components (by simp [layout, validateClientId_valid valid])⟩
    · cases converted
  · cases converted

/-- `alice` asking `bob` for access to the hunt `H1`. -/
def aliceHuntRequestor : ApprovalRequestor :=
  ⟨.hunt, "triage", (rootUrn.add "hunts").add "H1", "bob", none, { username := "alice", reason := none }⟩

/--
Over every run of requests and grants from a store with nothing in the `ACL` namespace, a token that
`GetApprovalForObject` hands out for an object is for a user who requested access to that very object.
-/
theorem getApprovalForObject_requested (notify : Cells → Notification → Int → Cells) (operations : List Operation)
    (initial : Store) (clean : AclInvariant [] initial)
    (wellFormed : ∀ request ∈ operations.flatMap Operation.requested, request.1.WellFormed)
    (config : Config) (auth : ClientApprovalAuthManager) (now : Int) (objectUrn : RDFURN) (token : ACLToken)
    (username : String) (granted : ACLToken)
    (returned : getApprovalForObject config auth (runOperations notify operations initial) now objectUrn (some token)
      username = .ok granted) :
    ∃ request ∈ operations.flatMap Operation.requested,
      request.1.token.username = granted.username ∧ request.1.subjectUrn = objectUrn := by
  have invariant : AclInvariant (operations.flatMap Operation.requested) (runOperations notify operations initial) := by
    simpa using clean.runOperations notify operations
  generalize runOperations notify operations initial = store at invariant returned
  obtain ⟨approval, member, passed⟩ := getApprovalForObject_ok returned
  generalize (if username = "" then token.username else username) = user at member passed
  obtain ⟨-, ⟨subject, inferred⟩, outcome⟩ := ApprovalWithApproversAndReason.checkAccess_ok (checkAccess_ok passed)
  have grantedUser : granted.username = user := by rcases outcome with ⟨-, rfl⟩ | ⟨rfl, -⟩ <;> rfl
  -- The approval was opened at a child listed in the namespace, which only a request made can have put there.
  obtain ⟨child, listed, opened⟩ := (Store.mem_multiOpen _ _ _ _ _).mp member
  obtain ⟨name, indexed, rfl⟩ := (Store.mem_listChildren _ _ _).mp listed
  have inAcl : InAcl ((approvalsRootUrn objectUrn user).add name) := approvalUrnBuilder_inAcl objectUrn.path user name
  obtain ⟨version, newest, itself⟩ := Store.open_ok_type opened
  obtain ⟨⟨requestor, idValue⟩, made, location, typeIs⟩ := invariant.approvals _ version inAcl newest
  obtain ⟨urnIs, aff4TypeIs⟩ := itself (typeIs ▸ approvalType_ne_symlink _)
  obtain ⟨⟨subjectId, named, subjectIs⟩, userValid⟩ := wellFormed _ made
  -- The approval's class decodes its URN to the request's user.
  have decoded : inferUserAndSubjectFromUrn approval =
      .ok (requestor.token.username, requestor.kind.subjectUrn (requestor.kind.normalizeSubjectId subjectId)) := by
    obtain ⟨urn, symlinkUrn, aff4Type, cells⟩ := approval
    dsimp only at urnIs aff4TypeIs
    subst urnIs aff4TypeIs
    rw [location, typeIs]
    exact (requestor.buildApprovalUrn_decoded idValue named subjectIs userValid _ _).2.2
  obtain ⟨rfl, -⟩ : user = requestor.token.username ∧ subject = _ := by
    simpa [testToken] using inferred.symm.trans decoded
  -- Below the namespace the two URNs are the subject, the user, and one more component.
  have layout := congrArg RDFURN.components location
  rw [RDFURN.add_components_of_valid _ (invariant.index _ name indexed), approvalsRootUrn_components _ userValid,
    ApprovalRequestor.buildApprovalUrn, approvalUrnBuilder_components _ userValid (approvalId_valid idValue)] at layout
  simp only [List.cons_append, List.cons.injEq, true_and, List.append_assoc, List.singleton_append] at layout
  exact ⟨_, made, grantedUser.symm, RDFURN.eq_of_components (List.append_inj_left' layout rfl).symm⟩

/-- `alice`'s request is for a hunt named by a single component, and the user name is one too. -/
theorem aliceHuntRequestor_wellFormed : aliceHuntRequestor.WellFormed :=
  ⟨⟨"H1", by decide, rfl⟩, by decide⟩

/-- A store holding only `alice`'s user object, which carries the `admin` label. -/
def adminStore : Store :=
  ⟨fun urn => if urn = (rootUrn.add "users").add "alice" then
      { Cells.empty with
        type := Cells.empty.type.add .grrUser 0
        labels := Cells.empty.labels.add ["admin"] 0 }
    else .empty,
   fun _ => []⟩

/-- Nothing of the store is in the namespace. -/
theorem adminStore_clean : AclInvariant [] adminStore := by
  refine ⟨fun urn version inAcl newest => ?_, fun _ _ member => by cases member⟩
  by_cases user : urn = (rootUrn.add "users").add "alice"
  · subst user
    simp [InAcl, users_head] at inAcl
  · simp [adminStore, user, Cells.empty, History.empty, History.newest] at newest

/-- After `alice`'s request alone, the approval `alice` asked for opens the hunt, one admin approver being enough. -/
theorem getApprovalForObject_requested_alice :
    AclInvariant [] adminStore ∧
      (∀ request ∈ [Operation.request aliceHuntRequestor 1 "msg" none 10].flatMap Operation.requested,
        request.1.WellFormed) ∧
      getApprovalForObject ⟨1, 100⟩ ⟨false, fun _ _ _ _ _ => .ok ()⟩
          (runOperations (fun cells _ _ => cells) [Operation.request aliceHuntRequestor 1 "msg" none 10] adminStore)
          20 ((rootUrn.add "hunts").add "H1") (some { username := "alice", reason := none }) "" =
        .ok { username := "alice", reason := some "triage" } ∧
      ∃ request ∈ [Operation.request aliceHuntRequestor 1 "msg" none 10].flatMap Operation.requested,
        request.1.token.username = "alice" ∧ request.1.subjectUrn = (rootUrn.add "hunts").add "H1" :=
  have wellFormed : ∀ request ∈ [Operation.request aliceHuntRequestor 1 "msg" none 10].flatMap Operation.requested,
      request.1.WellFormed := fun request made => by
    simp only [List.flatMap, Operation.requested, List.map, List.flatten, List.append_nil,
      List.mem_singleton] at made
    exact made ▸ aliceHuntRequestor_wellFormed
  have returned : getApprovalForObject ⟨1, 100⟩ ⟨false, fun _ _ _ _ _ => .ok ()⟩
      (runOperations (fun cells _ _ => cells) [Operation.request aliceHuntRequestor 1 "msg" none 10] adminStore)
      20 ((rootUrn.add "hunts").add "H1") (some { username := "alice", reason := none }) "" =
        .ok { username := "alice", reason := some "triage" } := rfl
  ⟨adminStore_clean, wellFormed, returned,
    getApprovalForObject_requested _ _ _ adminStore_clean wellFormed _ _ _ _ _ _ _ returned⟩

/--
The approver an operation can add at a URN of the namespace, at the operation's time: a request its
requester at its approval, and a grant its granting user at an approval listed for its subject and delegate.
-/
def Operation.AddsApprover (urn : RDFURN) (version : Versioned String) : Operation → Prop
  | .request requestor idValue _ _ now =>
    urn = requestor.buildApprovalUrn (approvalId idValue) ∧ version = ⟨requestor.token.username, now⟩
  | .grant grantor now =>
    (∃ name, urn = (approvalsRootUrn grantor.subjectUrn grantor.delegate).add name) ∧
      version = ⟨grantor.token.username, now⟩

/--
From one store to a later one, every approver recorded for an object of the namespace is kept, and every
approver the later store records there is one the earlier did or one an operation adds there.
-/
def ApproversAdded (operations : List Operation) (store store' : Store) : Prop :=
  ∀ urn, InAcl urn →
    (∀ version ∈ (store.cells urn).approver.versions, version ∈ (store'.cells urn).approver.versions) ∧
      ∀ version ∈ (store'.cells urn).approver.versions,
        version ∈ (store.cells urn).approver.versions ∨ ∃ operation ∈ operations, operation.AddsApprover urn version

namespace ApproversAdded

variable {operations : List Operation} {store store' store'' : Store}

/-- Approvers added through two changes are added through both. -/
theorem trans (first : ApproversAdded operations store store') (second : ApproversAdded operations store' store'') :
    ApproversAdded operations store store'' := fun urn inAcl =>
  ⟨fun version member => (second urn inAcl).1 version ((first urn inAcl).1 version member),
    fun version member => ((second urn inAcl).2 version member).elim ((first urn inAcl).2 version) .inr⟩

/-- Approvers added by some operations are added by any list holding them. -/
theorem mono (added : ApproversAdded operations store store') {more : List Operation}
    (sub : ∀ operation ∈ operations, operation ∈ more) : ApproversAdded more store store' := fun urn inAcl =>
  ⟨(added urn inAcl).1, fun version member => ((added urn inAcl).2 version member).imp id
    fun ⟨operation, made, adds⟩ => ⟨operation, sub operation made, adds⟩⟩

/-- Changes outside the namespace add no approver. -/
theorem of_frame (framed : AclFrame store store') : ApproversAdded operations store store' := fun urn inAcl =>
  ⟨fun _ member => (framed.cells urn inAcl).symm ▸ member, fun _ member => .inl (framed.cells urn inAcl ▸ member)⟩

/-- Writing cells with an update that adds one approver, one an operation adds there, adds only it. -/
theorem write (urn : RDFURN) {update : Cells → Cells} {version : Versioned String}
    (added : ∀ cells, (update cells).approver = cells.approver.add version.value version.age)
    (adds : InAcl urn → ∃ operation ∈ operations, operation.AddsApprover urn version) :
    ApproversAdded operations store (store.write urn update) := by
  intro other inAcl
  by_cases same : other = urn
  · subst same
    simp only [Store.write_cells_self, added, History.mem_add]
    exact ⟨fun _ => .inr, fun _ => Or.rec (fun fresh => .inr (by subst fresh; exact adds inAcl)) .inl⟩
  · simp only [Store.write_cells_other _ _ same]
    exact ⟨fun _ => id, fun _ => .inl⟩

/--
On a store of the invariant, one operation adds only the approver it adds: the requester at the request's
approval, or the granting user at the listed approval it grants.
-/
theorem apply {requests : List (ApprovalRequestor × Nat)} (invariant : AclInvariant requests store)
    (notify : Cells → Notification → Int → Cells) (operation : Operation) :
    ApproversAdded [operation] store (operation.apply notify store) := by
  cases operation with
  | request requestor idValue emailMsgId approvalCcAddress now =>
    rcases apply_request notify requestor idValue emailMsgId approvalCcAddress now store with same | ⟨_, returned⟩
    · rw [same]
      exact of_frame (.refl store)
    · rw [returned]
      refine trans (trans (of_frame (AclFrame.updateChildIndex _ _)) (write _ (fun _ => rfl) fun _ =>
        ⟨_, List.mem_singleton_self _, rfl, rfl⟩)) (of_frame (requestedStore_frame notify requestor _
          (buildApprovalSymlinksUrns_outside requestor _) _ _ _ _ invariant.usersOutsideAcl))
  | grant grantor now =>
    rcases apply_grant notify grantor now store with same | ⟨approval, listed, _, returned⟩
    · rw [same]
      exact of_frame (.refl store)
    · -- The approval granted is a listed child of the subject's approvals for the delegate.
      obtain ⟨name, -, -, -, urnIs, -⟩ := invariant.listed listed
      rw [returned]
      exact trans (write approval.urn (fun _ => rfl) fun _ => ⟨_, List.mem_singleton_self _, ⟨name, urnIs⟩, rfl⟩)
        (of_frame (grantedStore_frame notify grantor now _ approval.urn store))

/-- A run from a store of the invariant adds only the approvers its operations add. -/
theorem runOperations (notify : Cells → Notification → Int → Cells) :
    ∀ (operations : List Operation) {requests : List (ApprovalRequestor × Nat)} {initial : Store},
      AclInvariant requests initial → ApproversAdded operations initial (GrrAcl.runOperations notify operations initial)
  | [], _, initial, _ => of_frame (.refl initial)
  | operation :: rest, _, _, invariant =>
    -- The first operation adds its approver, and the rest theirs from the store it leaves.
    ((apply invariant notify operation).mono fun _ made => List.mem_cons.mpr (.inl (List.mem_singleton.mp made))).trans
      ((runOperations notify rest (invariant.apply notify operation)).mono fun _ => List.mem_cons_of_mem _)

end ApproversAdded

end GrrAcl
