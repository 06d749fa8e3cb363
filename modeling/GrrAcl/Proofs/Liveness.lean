import GrrAcl.Proofs.Granting

/-! A request followed by grants of its approval gives access exactly when enough of its approvers are still live. -/

namespace GrrAcl

/-- A URN the approval workflow writes under: the `ACL` namespace or the users' objects. -/
def InWorkflow (urn : RDFURN) : Prop :=
  urn.components.head? = some "ACL" ∨ urn.components.head? = some "users"

/--
The second store differs from the first only in objects the workflow writes, which are its own and the
users' objects a notification reaches through a symlink, and every object that had a class still has one.
-/
structure WorkflowFrame (store store' : Store) : Prop where
  /-- Every URN outside the workflow's keeps its classes, and its cells unless its newest class is the user class. -/
  cells : ∀ urn, ¬ InWorkflow urn → (store'.cells urn).type = (store.cells urn).type ∧
    ((store.cells urn).type.newest.map (·.value) ≠ some .grrUser → store'.cells urn = store.cells urn)
  /-- No object loses its class. -/
  typed : ∀ urn, (store.cells urn).type.newest.isSome → (store'.cells urn).type.newest.isSome

namespace WorkflowFrame

/-- A store is framed by itself. -/
theorem refl (store : Store) : WorkflowFrame store store :=
  ⟨fun _ _ => ⟨rfl, fun _ => rfl⟩, fun _ => id⟩

/-- Frames compose. -/
theorem trans {store store' store'' : Store} (first : WorkflowFrame store store')
    (second : WorkflowFrame store' store'') : WorkflowFrame store store'' := by
  refine ⟨fun urn outside => ?_, fun urn typed => second.typed urn (first.typed urn typed)⟩
  obtain ⟨firstType, firstKept⟩ := first.cells urn outside
  obtain ⟨secondType, secondKept⟩ := second.cells urn outside
  exact ⟨secondType.trans firstType, fun notUser =>
    (secondKept (by rw [firstType]; exact notUser)).trans (firstKept notUser)⟩

/-- Writing an object of the workflow, or one of the user class, without taking its class is framed. -/
theorem write (store : Store) {urn : RDFURN}
    (allowed : ¬ InWorkflow urn → (store.cells urn).type.newest.map (·.value) = some .grrUser)
    (update : Cells → Cells) (keepsType : ∀ cells, (update cells).type = cells.type) :
    WorkflowFrame store (store.write urn update) := by
  refine ⟨fun other outside => ?_, fun other typed => ?_⟩ <;> by_cases same : other = urn
  · subst same
    rw [Store.write_cells_self, keepsType]
    exact ⟨rfl, fun notUser => absurd (allowed outside) notUser⟩
  · rw [Store.write_cells_other _ _ same]
    exact ⟨rfl, fun _ => rfl⟩
  · subst same
    simpa [keepsType] using typed
  · simpa [same] using typed

/-- Creating an object of the workflow with an update that keeps its class is framed. -/
theorem create (store : Store) {urn : RDFURN} (inside : InWorkflow urn) (aff4Type : AFF4Type) (now : Int)
    (update : Cells → Cells) (keepsType : ∀ cells, (update cells).type = cells.type) :
    WorkflowFrame store (store.create urn aff4Type now update) := by
  refine ⟨fun other outside => ?_, fun other typed => ?_⟩
  · have kept : (store.create urn aff4Type now update).cells other = store.cells other := by
      simp [Store.create, Store.write_cells_other _ _ fun same : other = urn => outside (same ▸ inside)]
    exact ⟨by rw [kept], fun _ => kept⟩
  by_cases same : other = urn
  · subst same
    simp only [Store.create, Store.write_cells_self, keepsType]
    exact History.newest_add_isSome _ _ _
  · simpa [Store.create, same] using typed

/-- Notifying one user writes an object that opened as a user, without taking its class when `notify` keeps it. -/
theorem notifyApprover (notify : Cells → Notification → Int → Cells)
    (keepsType : ∀ cells notification now, (notify cells notification now).type = cells.type)
    (notification : Notification) (now : Int) (store : Store) (user : String) :
    WorkflowFrame store (GrrAcl.notifyApprover notify notification now store user) := by
  unfold GrrAcl.notifyApprover
  split
  · obtain ⟨version, newest, isUser⟩ := Store.open_grrUser_newest ‹_›
    exact write store (fun _ => by rw [newest, Option.map_some', isUser]) _ fun cells => keepsType cells _ _
  · exact refl store

/-- Notifying users is framed when `notify` keeps a class. -/
theorem notifyApprovers (notify : Cells → Notification → Int → Cells)
    (keepsType : ∀ cells notification now, (notify cells notification now).type = cells.type) (store : Store)
    (users : List String) (notification : Notification) (now : Int) :
    WorkflowFrame store (GrrAcl.notifyApprovers notify store users notification now) := by
  induction users generalizing store with
  | nil => exact refl store
  | cons user rest carried => exact (notifyApprover notify keepsType notification now store user).trans (carried _)

end WorkflowFrame

/-- A request's writes are the workflow's: its approval, its symlinks and the notified users' objects. -/
theorem requestedStore_workflowFrame (notify : Cells → Notification → Int → Cells)
    (keepsType : ∀ cells notification now, (notify cells notification now).type = cells.type)
    (requestor : ApprovalRequestor) (value : Nat) (emailMsgId : String) (approvalCcAddress : Option String)
    (now : Int) (subjectTitle : String) (store : Store) :
    WorkflowFrame store (requestor.requestedStore notify (requestor.buildApprovalUrn (approvalId value))
      (requestor.buildApprovalSymlinksUrns (approvalId value)) emailMsgId approvalCcAddress now subjectTitle store) := by
  -- The approval is in the namespace, and the one symlink and the notified users are users' objects.
  unfold ApprovalRequestor.requestedStore
  refine .trans (.trans (.create store
    (.inl (approvalUrnBuilder_inAcl requestor.subjectUrn.path requestor.token.username (approvalId value)))
    requestor.kind.approvalType now (requestCells requestor emailMsgId approvalCcAddress now) fun _ => rfl) ?_)
    (.notifyApprovers notify keepsType _ _ _ now)
  simp only [ApprovalRequestor.buildApprovalSymlinksUrns, approvalSymlinkUrnBuilder, List.foldl]
  exact .create _ (.inr (RDFURN.head?_add _ (RDFURN.head?_add _ (RDFURN.head?_add _ (RDFURN.head?_add _
    (users_head _)))))) _ now _ fun _ => rfl

/-- A grant's writes are the workflow's: the approval it grants, and the delegate's user object. -/
theorem grantedStore_workflowFrame (notify : Cells → Notification → Int → Cells)
    (keepsType : ∀ cells notification now, (notify cells notification now).type = cells.type)
    (grantor : ApprovalGrantor) (now : Int) (subjectTitle : String) {approvalUrn : RDFURN} (inside : InWorkflow approvalUrn)
    (store : Store) : WorkflowFrame store (grantor.grantedStore notify now subjectTitle approvalUrn store) :=
  (WorkflowFrame.write store (absurd inside) (grantCells grantor.token.username now) fun _ => rfl).trans
    (WorkflowFrame.create _ (.inr (users_head _)) _ now _ fun cells => keepsType cells _ _)

/-- A kind's subject of a well-formed id is outside the workflow's objects. -/
theorem ApprovalKind.subjectUrn_outside {kind : ApprovalKind} {subjectId : String} (named : kind.SubjectId subjectId) :
    ¬ InWorkflow (kind.subjectUrn subjectId) := by
  rw [InWorkflow, subjectUrn_components named]
  cases kind
  · -- A client id begins with `C.`, so it names neither the namespace nor the users.
    have notAcl : subjectId ≠ "ACL" := fun same => absurd (same ▸ named : validateClientId "ACL" = true) (by decide)
    have notUsers : subjectId ≠ "users" := fun same =>
      absurd (same ▸ named : validateClientId "users" = true) (by decide)
    simp [subjectPrefix, notAcl, notUsers]
  all_goals simp [subjectPrefix]

/-- A well-formed requestor's subject is outside the workflow's objects. -/
theorem ApprovalRequestor.WellFormed.subject_outside {requestor : ApprovalRequestor} (wellFormed : requestor.WellFormed) :
    ¬ InWorkflow requestor.subjectUrn := by
  obtain ⟨⟨subjectId, named, subjectIs⟩, -⟩ := wellFormed
  rw [subjectIs]
  exact ApprovalKind.subjectUrn_outside named

/-- An object loads exactly where a class is stored. -/
theorem Store.load_isSome (store : Store) (urn : RDFURN) (age : Age) :
    (store.load urn age).isSome = (store.cells urn).type.newest.isSome := by
  simp [Store.load]

/-- Resolving a URN outside the workflow's objects still succeeds on a framed store. -/
theorem WorkflowFrame.resolve_isSome {store store' : Store} (framed : WorkflowFrame store store') {urn : RDFURN}
    (outside : ¬ InWorkflow urn) (age : Age) (resolved : (store.resolve urn age).isSome) :
    (store'.resolve urn age).isSome := by
  obtain ⟨sameType, kept⟩ := framed.cells urn outside
  by_cases user : (store.cells urn).type.newest.map (·.value) = some .grrUser
  · -- A user's object keeps its class, so it still loads, and as no symlink.
    obtain ⟨version, newest, isUser⟩ := Option.map_eq_some'.mp user
    simp [Store.resolve, Store.load, sameType, newest, isUser]
  -- Any other URN loads as before, and the target of a symlink has kept its class.
  have loadedSame : store'.load urn age = store.load urn age := by
    simp only [Store.load, kept user]
  unfold Store.resolve at resolved ⊢
  rw [loadedSame]
  cases loaded : store.load urn age with
  | none => simp [loaded] at resolved
  | some object =>
    simp only [loaded] at resolved ⊢
    by_cases link : object.aff4Type = .aff4Symlink
    · simp only [link, if_true] at resolved ⊢
      cases linked : object.cells.symlinkTarget.newest with
      | none => rfl
      | some target =>
        simp only [linked, Option.isSome_map', Store.load_isSome] at resolved ⊢
        exact framed.typed _ resolved
    · simp [link]

/-- A client's title is built exactly when the client resolves. -/
theorem buildSubjectTitle_client_ok (store : Store) (subjectUrn : RDFURN) :
    (∃ subjectTitle, buildSubjectTitle store .client subjectUrn = .ok subjectTitle) ↔
      (store.resolve subjectUrn .newestTime).isSome := by
  cases resolved : store.resolve subjectUrn .newestTime <;>
    simp [buildSubjectTitle, Store.open, resolved, bind, Except.bind, pure, Except.pure]

/-- A subject outside the workflow's objects whose title was built still has it built on a framed store. -/
theorem WorkflowFrame.buildSubjectTitle {store store' : Store} (framed : WorkflowFrame store store')
    (kind : ApprovalKind) {subjectUrn : RDFURN} (outside : ¬ InWorkflow subjectUrn)
    (titled : ∃ subjectTitle, GrrAcl.buildSubjectTitle store kind subjectUrn = .ok subjectTitle) :
    ∃ subjectTitle, GrrAcl.buildSubjectTitle store' kind subjectUrn = .ok subjectTitle := by
  -- Only a client's title reads the store.
  cases kind
  · rw [buildSubjectTitle_client_ok] at titled ⊢
    exact framed.resolve_isSome outside _ titled
  all_goals exact ⟨_, rfl⟩

/-- Every approval class is an `Approval`, the class approvals are listed as. -/
theorem ApprovalKind.approvalType_isinstance (kind : ApprovalKind) : kind.approvalType.isinstance .approval = true := by
  cases kind <;> decide

/-- The grantor of a requestor's approval with a granting user's token: the request's kind, reason and subject, its user as delegate. -/
def ApprovalRequestor.grantorWith (requestor : ApprovalRequestor) (token : ACLToken) : ApprovalGrantor :=
  ⟨requestor.kind, requestor.reason, requestor.subjectUrn, requestor.token.username, token⟩

/-- The grantor of a requestor's approval lists the requesting user's approvals of the subject. -/
theorem ApprovalRequestor.grantorWith_listedApprovals (requestor : ApprovalRequestor) (token : ACLToken)
    (store : Store) :
    (requestor.grantorWith token).listedApprovals store = store.multiOpen
      (store.listChildren (approvalsRootUrn requestor.subjectUrn requestor.token.username)) (some .approval)
      .newestTime := rfl

/--
The store while a request's approval is being granted: the approval is the only object of the namespace
with a class, it holds the given cells with the request's class and reason, it is listed for the
requesting user, and the subject's title builds.
-/
structure Approving (requestor : ApprovalRequestor) (idValue : Nat) (requested : Int) (approvalCells : Cells)
    (store : Store) : Prop where
  /-- No other object of the namespace has a class. -/
  others : ∀ urn, InAcl urn → urn ≠ requestor.buildApprovalUrn (approvalId idValue) →
    (store.cells urn).type.newest = none
  /-- The approval holds the given cells. -/
  cells : store.cells (requestor.buildApprovalUrn (approvalId idValue)) = approvalCells
  /-- Its class is the request's, written when the request was made. -/
  typed : approvalCells.type.newest = some ⟨requestor.kind.approvalType, requested⟩
  /-- Its reason is the request's, written when the request was made. -/
  reasoned : approvalCells.reason.newest = some ⟨requestor.reason, requested⟩
  /-- It is listed under the requesting user's approvals of the subject. -/
  listed : approvalId idValue ∈ store.index (approvalsRootUrn requestor.subjectUrn requestor.token.username)
  /-- The subject's title builds. -/
  titled : ∃ subjectTitle, buildSubjectTitle store requestor.kind requestor.subjectUrn = .ok subjectTitle

/-- Searching approvals that are all one approval of the reason finds that approval. -/
theorem approvalToGrant_of_forall_eq {reason : String} {approvals : List AFF4Object} {approval : AFF4Object}
    {age : Int} (only : ∀ other ∈ approvals, other = approval) (member : approval ∈ approvals)
    (aged : reasonAge reason approval = some age) : approvalToGrant reason approvals = some approval := by
  obtain ⟨rest, rfl⟩ : ∃ rest, approvals = approval :: rest := by
    cases approvals with
    | nil => cases member
    | cons first rest => exact ⟨rest, by rw [only first (List.mem_cons_self _ _)]⟩
  -- Every age searched is the approval's own, so that is the newest, and the approval comes first.
  obtain ⟨newest, isNewest⟩ : ∃ newest, newestReasonAge reason (approval :: rest) = some newest :=
    Option.isSome_iff_exists.mp (by simp [newestReasonAge, List.filterMap_cons, aged])
  obtain ⟨other, listed, otherAged⟩ := List.mem_filterMap.mp (List.max?_mem (fun a b => max_choice a b) isNewest)
  rw [only other listed, aged, Option.some.injEq] at otherAged
  subst otherAged
  simp [approvalToGrant, isNewest, aged]

namespace Approving

variable {requestor : ApprovalRequestor} {idValue : Nat} {requested : Int} {approvalCells : Cells} {store : Store}

/-- The approval loads from its URN with the request's class and its cells as the age filters them. -/
theorem load (approving : Approving requestor idValue requested approvalCells store) (age : Age) :
    store.load (requestor.buildApprovalUrn (approvalId idValue)) age =
      some ⟨requestor.buildApprovalUrn (approvalId idValue), none, requestor.kind.approvalType,
        match age with
        | .allTimes => approvalCells
        | .newestTime => approvalCells.latest⟩ := by
  cases age <;> simp [Store.load, approving.cells, approving.typed]

/-- The approvals listed under the requesting user's approvals of the subject are the approval alone. -/
theorem mem_listed (approving : Approving requestor idValue requested approvalCells store) (age : Age)
    (approval : AFF4Object) :
    approval ∈ store.multiOpen (store.listChildren (approvalsRootUrn requestor.subjectUrn requestor.token.username))
        (some .approval) age ↔
      store.load (requestor.buildApprovalUrn (approvalId idValue)) age = some approval := by
  have notLink : requestor.kind.approvalType ≠ .aff4Symlink := approvalType_ne_symlink _
  rw [Store.mem_multiOpen]
  constructor
  · -- What opens has a class, and in the namespace only the approval has one.
    rintro ⟨child, listed, opened⟩
    obtain ⟨name, -, rfl⟩ := (Store.mem_listChildren _ _ _).mp listed
    by_cases same : (approvalsRootUrn requestor.subjectUrn requestor.token.username).add name =
        requestor.buildApprovalUrn (approvalId idValue)
    · rw [same] at opened
      exact Store.open_ok_load opened (by rw [approving.cells, approving.typed]) notLink
    · obtain ⟨version, newest, -⟩ := Store.open_ok_type opened
      have untyped := approving.others ((approvalsRootUrn requestor.subjectUrn requestor.token.username).add name)
        (approvalUrnBuilder_inAcl _ _ _) same
      rw [untyped] at newest
      cases newest
  · -- The approval is the listed child of its id, and opens as an approval.
    intro loaded
    refine ⟨_, (Store.mem_listChildren _ _ _).mpr ⟨approvalId idValue, approving.listed, rfl⟩, ?_⟩
    rw [approving.load age, Option.some.injEq] at loaded
    subst loaded
    exact Store.open_of_load (approving.load age) notLink (ApprovalKind.approvalType_isinstance _)

/--
A grant of the approval by a token at `now` makes its writes on the approval, and leaves a store still
approving, with the granting user added as an approver at `now`.
-/
theorem grant (approving : Approving requestor idValue requested approvalCells store)
    (notify : Cells → Notification → Int → Cells)
    (keepsType : ∀ cells notification now, (notify cells notification now).type = cells.type)
    (wellFormed : requestor.WellFormed) (token : ACLToken) (now : Int) :
    ∃ subjectTitle, (Operation.grant (requestor.grantorWith token) now).apply notify store =
        (requestor.grantorWith token).grantedStore notify now subjectTitle
          (requestor.buildApprovalUrn (approvalId idValue)) store ∧
      Approving requestor idValue requested (grantCells token.username now approvalCells)
        ((requestor.grantorWith token).grantedStore notify now subjectTitle
          (requestor.buildApprovalUrn (approvalId idValue)) store) := by
  obtain ⟨subjectTitle, titled⟩ := approving.titled
  have loaded : store.load (requestor.buildApprovalUrn (approvalId idValue)) .newestTime =
      some ⟨requestor.buildApprovalUrn (approvalId idValue), none, requestor.kind.approvalType, approvalCells.latest⟩ :=
    approving.load .newestTime
  -- The grant lists the approval alone, which has the request's reason and opens as the request's class.
  have listed : ∀ approval ∈ (requestor.grantorWith token).listedApprovals store,
      approval = ⟨requestor.buildApprovalUrn (approvalId idValue), none, requestor.kind.approvalType,
        approvalCells.latest⟩ := fun approval member => by
    rw [ApprovalRequestor.grantorWith_listedApprovals, mem_listed approving, loaded, Option.some.injEq] at member
    exact member.symm
  have member : (⟨requestor.buildApprovalUrn (approvalId idValue), none, requestor.kind.approvalType,
      approvalCells.latest⟩ : AFF4Object) ∈ (requestor.grantorWith token).listedApprovals store :=
    (ApprovalRequestor.grantorWith_listedApprovals requestor token store).symm ▸
      (mem_listed approving .newestTime _).mpr loaded
  have reasonIs : (approvalCells.latest).reason.newest = some ⟨requestor.reason, requested⟩ := by
    simp [Cells.latest, approving.reasoned]
  have aged : reasonAge requestor.reason ⟨requestor.buildApprovalUrn (approvalId idValue), none,
      requestor.kind.approvalType, approvalCells.latest⟩ = some requested := by
    simp [reasonAge, reasonIs]
  have chosen := approvalToGrant_of_forall_eq listed member aged
  have opens : store.open (requestor.buildApprovalUrn (approvalId idValue)) (some requestor.kind.approvalType)
      .newestTime = .ok ⟨requestor.buildApprovalUrn (approvalId idValue), none, requestor.kind.approvalType,
        approvalCells.latest⟩ :=
    Store.open_of_load loaded (approvalType_ne_symlink _) (AFF4Type.isinstance_self _)
  have reasonsRead : ∀ approval ∈ (requestor.grantorWith token).listedApprovals store,
      approval.cells.reason.newest = none → (requestor.grantorWith token).reason ≠ "None" :=
    fun approval member missing => by
      rw [listed approval member, reasonIs] at missing
      cases missing
  have ended : (requestor.grantorWith token).grant notify Mailer.disabled now store = _ :=
    ApprovalGrantor.grant_of_chosen reasonsRead chosen titled opens
  refine ⟨subjectTitle, by simp only [Operation.apply, Operation.run, ended, resultStore_sendApprovalEmail], ?_⟩
  -- Past the approval, the grant writes only the delegate's user object, outside the namespace and the subject.
  have inAcl := approvalUrnBuilder_inAcl requestor.subjectUrn.path requestor.token.username (approvalId idValue)
  have framed := grantedStore_frame notify (requestor.grantorWith token) now subjectTitle
    (requestor.buildApprovalUrn (approvalId idValue)) store
  refine ⟨fun urn inside other => ?_, ?_, approving.typed, approving.reasoned, framed.kept _ _ approving.listed,
    (grantedStore_workflowFrame notify keepsType _ now subjectTitle (.inl inAcl) store).buildSubjectTitle _
      wellFormed.subject_outside ⟨_, titled⟩⟩
  · rw [framed.cells urn inside, Store.write_cells_other _ _ other]
    exact approving.others urn inside other
  · rw [framed.cells (requestor.buildApprovalUrn (approvalId idValue)) inAcl, Store.write_cells_self, approving.cells]
    rfl

/-- Grants of the approval one after another keep the store approving, each adding its user at its time. -/
theorem runGrants (notify : Cells → Notification → Int → Cells)
    (keepsType : ∀ cells notification now, (notify cells notification now).type = cells.type)
    (wellFormed : requestor.WellFormed) (grants : List (ACLToken × Int)) :
    ∀ {approvalCells : Cells} {store : Store}, Approving requestor idValue requested approvalCells store →
      Approving requestor idValue requested
        (grants.foldl (fun cells grant => grantCells grant.1.username grant.2 cells) approvalCells)
        (runOperations notify (grants.map fun grant => .grant (requestor.grantorWith grant.1) grant.2) store) := by
  induction grants with
  | nil => exact id
  | cons grant rest carried =>
    intro approvalCells store approving
    obtain ⟨_, applied, next⟩ := approving.grant notify keepsType wellFormed grant.1 grant.2
    simp only [List.map_cons, runOperations, List.foldl_cons, applied]
    exact carried next

/--
On an approving store with no break-glass date on the approval, `GetApprovalForObject` for the requesting
user returns a token exactly when the approval has enough distinct non-expired approvers, with enough of
them carrying the label its class asks for.
-/
theorem getApprovalForObject_iff (approving : Approving requestor idValue requested approvalCells store)
    (wellFormed : requestor.WellFormed) (unbroken : approvalCells.breakGlass.newest = none) (config : Config)
    (auth : ClientApprovalAuthManager) (inactive : auth.isActive = false) (now : Int) (token : ACLToken)
    (username : String) (effective : (if username = "" then token.username else username) = requestor.token.username) :
    (∃ granted, getApprovalForObject config auth store now requestor.subjectUrn (some token) username = .ok granted) ↔
      config.approversRequired ≤ (nonExpiredApprovers config ⟨requestor.buildApprovalUrn (approvalId idValue), none,
          requestor.kind.approvalType, approvalCells⟩ now).card ∧
        ∀ label, checkedApproversLabel requestor.kind.approvalType = some label →
          minApproversWithLabel ≤ ((nonExpiredApprovers config ⟨requestor.buildApprovalUrn (approvalId idValue), none,
            requestor.kind.approvalType, approvalCells⟩ now).filter (approverHasLabel store label ·)).card := by
  have loaded : store.load (requestor.buildApprovalUrn (approvalId idValue)) .allTimes =
      some ⟨requestor.buildApprovalUrn (approvalId idValue), none, requestor.kind.approvalType, approvalCells⟩ :=
    approving.load .allTimes
  have listed := fun approval => (mem_listed approving .allTimes approval).trans (by rw [loaded, Option.some.injEq])
  have member := (listed _).mpr rfl
  -- The approval is in the namespace and decodes to the requesting user, and its break-glass access is off.
  obtain ⟨⟨rest, splitIs⟩, subject, decoded⟩ := @ApprovalRequestor.WellFormed.decoded requestor wellFormed idValue
    ⟨requestor.buildApprovalUrn (approvalId idValue), none, requestor.kind.approvalType, approvalCells⟩ rfl rfl
  have broken : breakGlassActive ⟨requestor.buildApprovalUrn (approvalId idValue), none, requestor.kind.approvalType,
      approvalCells⟩ now = false := by
    simp [breakGlassActive, unbroken]
  constructor
  · -- A token comes through the approval alone, and without break-glass access only through its approvers.
    rintro ⟨granted, returned⟩
    obtain ⟨approval, member, passed⟩ := getApprovalForObject_ok returned
    rw [effective] at member passed
    obtain rfl := (listed approval).mp member
    obtain ⟨-, -, outcome⟩ := ApprovalWithApproversAndReason.checkAccess_ok (checkAccess_ok passed)
    rcases outcome with ⟨active, -⟩ | ⟨-, enough, labelled⟩
    · rw [broken] at active
      cases active
    · rw [← getNonExpiredApprovers_length]
      exact ⟨enough, fun label labelIs => by
        rw [← getNonExpiredApprovers_filter_length]
        exact labelled label labelIs⟩
  · -- The approval is the only one listed, refused only with `UnauthorizedAccess`, and it passes.
    rintro ⟨enough, labelled⟩
    simp only [getApprovalForObject]
    rw [effective, if_neg fun empty => by simp [empty, Store.multiOpen] at member]
    refine approvalLoop_of_passes none (fun other otherListed => ?_) ⟨_, member, ?_⟩
    · obtain rfl := (listed other).mp otherListed
      rw [checkAccess_of_decoded inactive decoded]
      exact (ApprovalWithApproversAndReason.checkAccess_of_decoded splitIs decoded).1
    · rw [checkAccess_of_decoded inactive decoded]
      refine (ApprovalWithApproversAndReason.checkAccess_of_decoded splitIs decoded).2 rfl
        (.inr ⟨by rw [getNonExpiredApprovers_length]; exact enough, fun label labelIs => ?_⟩)
      rw [getNonExpiredApprovers_filter_length]
      exact labelled label labelIs

/--
A request on a store with nothing in the namespace returns its approval's URN, and leaves a store
approving the approval with the cells the request wrote.
-/
theorem of_request (notify : Cells → Notification → Int → Cells)
    (keepsType : ∀ cells notification now, (notify cells notification now).type = cells.type) {initial : Store}
    (blank : ∀ urn, InAcl urn → initial.cells urn = .empty) (wellFormed : requestor.WellFormed)
    (titled : ∃ subjectTitle, buildSubjectTitle initial requestor.kind requestor.subjectUrn = .ok subjectTitle)
    (idValue : Nat) (emailMsgId : String) (approvalCcAddress : Option String) (requested : Int) :
    ∃ subjectTitle, (Operation.request requestor idValue emailMsgId approvalCcAddress requested).apply notify initial =
        requestor.requestedStore notify (requestor.buildApprovalUrn (approvalId idValue))
          (requestor.buildApprovalSymlinksUrns (approvalId idValue)) emailMsgId approvalCcAddress requested subjectTitle
          initial ∧
      Approving requestor idValue requested (requestCells requestor emailMsgId approvalCcAddress requested
          { Cells.empty with type := Cells.empty.type.add requestor.kind.approvalType requested })
        (requestor.requestedStore notify (requestor.buildApprovalUrn (approvalId idValue))
          (requestor.buildApprovalSymlinksUrns (approvalId idValue)) emailMsgId approvalCcAddress requested subjectTitle
          initial) := by
  obtain ⟨subjectTitle, titledIs⟩ := titled
  have inAcl := approvalUrnBuilder_inAcl requestor.subjectUrn.path requestor.token.username (approvalId idValue)
  -- Nothing of the namespace has a class, so no user is in it.
  have outside : UsersOutsideAcl initial := fun urn inAcl version newest => by
    simp [blank urn inAcl, Cells.empty, History.empty, History.newest] at newest
  have framed := requestedStore_frame notify requestor (requestor.buildApprovalUrn (approvalId idValue))
    (buildApprovalSymlinksUrns_outside requestor (approvalId idValue)) emailMsgId approvalCcAddress requested
    subjectTitle outside
  -- Creating the approval enters its id in the index of the user's approvals of the subject.
  have below : (requestor.buildApprovalUrn (approvalId idValue)).components =
      (approvalsRootUrn requestor.subjectUrn requestor.token.username).components ++ [approvalId idValue] :=
    RDFURN.add_components_of_valid _ (approvalId_valid idValue)
  have onPath : Store.childOnPath (requestor.buildApprovalUrn (approvalId idValue))
      (approvalsRootUrn requestor.subjectUrn requestor.token.username) = some (approvalId idValue) := by
    simp [Store.childOnPath, below]
  refine ⟨subjectTitle, by simp only [Operation.apply, Operation.run, ApprovalRequestor.request, titledIs,
    resultStore_sendApprovalEmail], fun urn inside other => ?_, ?_, rfl, rfl,
    framed.kept _ _ (by simp [Store.create, Store.mem_updateChildIndex_index, onPath]),
    (requestedStore_workflowFrame notify keepsType requestor idValue emailMsgId approvalCcAddress requested subjectTitle
      initial).buildSubjectTitle _ wellFormed.subject_outside ⟨_, titledIs⟩⟩
  · rw [framed.cells urn inside]
    simp only [Store.create, Store.write_cells_other _ _ other, Store.updateChildIndex_cells, blank urn inside]
    rfl
  · have emptied : initial.cells (requestor.buildApprovalUrn (approvalId idValue)) = .empty := blank _ inAcl
    rw [framed.cells (requestor.buildApprovalUrn (approvalId idValue)) inAcl]
    simp [Store.create, emptied]

end Approving

/-- Grants only add approvers: each grant's user at its time, beside the approvers already there. -/
theorem foldl_grantCells (grants : List (ACLToken × Int)) : ∀ cells : Cells,
    ∃ approver, grants.foldl (fun cells grant => grantCells grant.1.username grant.2 cells) cells =
        { cells with approver } ∧
      ∀ version, version ∈ approver.versions ↔
        version ∈ cells.approver.versions ∨ ∃ grant ∈ grants, version = ⟨grant.1.username, grant.2⟩ := by
  induction grants with
  | nil => exact fun cells => ⟨cells.approver, rfl, by simp⟩
  | cons grant rest carried =>
    -- The first grant adds its version, and the rest add theirs after it.
    intro cells
    obtain ⟨approver, folded, mem⟩ := carried (grantCells grant.1.username grant.2 cells)
    refine ⟨approver, folded, fun version => ?_⟩
    simp only [mem, grantCells, History.mem_add, List.mem_cons, or_and_right, exists_or, exists_eq_left, or_assoc]
    exact or_left_comm

/-- The users whose approvals, made at the given times, are younger than `lifetime` at `now`. -/
def liveApprovers (lifetime now : Int) (approvals : List (String × Int)) : Finset String :=
  ((approvals.filter fun approval => now < plusDuration approval.2 lifetime).map Prod.fst).toFinset

example : (liveApprovers 100 200000000 [("alice", 10), ("bob", 150000000), ("bob", 160000000)]).card = 1 := by
  decide

/-- A request for an approval, then grants of it by the given tokens at the given times. -/
def requestThenGrants (requestor : ApprovalRequestor) (idValue : Nat) (emailMsgId : String)
    (approvalCcAddress : Option String) (requested : Int) (grants : List (ACLToken × Int)) : List Operation :=
  .request requestor idValue emailMsgId approvalCcAddress requested ::
    grants.map fun grant => .grant (requestor.grantorWith grant.1) grant.2

/--
On a store with nothing in the namespace, a request and grants of its approval give the requester access to the
subject exactly when enough of the requester and the granting users approved less than `ACL.token_expiry` ago.
-/
theorem requestThenGrants_access (notify : Cells → Notification → Int → Cells)
    (keepsType : ∀ cells notification now, (notify cells notification now).type = cells.type) {initial : Store}
    (blank : ∀ urn, InAcl urn → initial.cells urn = .empty) {requestor : ApprovalRequestor}
    (wellFormed : requestor.WellFormed)
    (titled : ∃ subjectTitle, buildSubjectTitle initial requestor.kind requestor.subjectUrn = .ok subjectTitle)
    (idValue : Nat) (emailMsgId : String) (approvalCcAddress : Option String) (requested : Int)
    (grants : List (ACLToken × Int)) (config : Config) (auth : ClientApprovalAuthManager)
    (inactive : auth.isActive = false) (now : Int) (token : ACLToken) (username : String)
    (effective : (if username = "" then token.username else username) = requestor.token.username) :
    (∃ granted, getApprovalForObject config auth
        (runOperations notify (requestThenGrants requestor idValue emailMsgId approvalCcAddress requested grants)
          initial) now requestor.subjectUrn (some token) username = .ok granted) ↔
      config.approversRequired ≤ (liveApprovers config.tokenExpiry now
          ((requestor.token.username, requested) :: grants.map fun grant => (grant.1.username, grant.2))).card ∧
        ∀ label, checkedApproversLabel requestor.kind.approvalType = some label →
          minApproversWithLabel ≤ ((liveApprovers config.tokenExpiry now
            ((requestor.token.username, requested) :: grants.map fun grant => (grant.1.username, grant.2))).filter
              (approverHasLabel (runOperations notify
                (requestThenGrants requestor idValue emailMsgId approvalCcAddress requested grants) initial)
                label ·)).card := by
  obtain ⟨subjectTitle, returned, requestedApproving⟩ := Approving.of_request notify keepsType blank wellFormed
    titled idValue emailMsgId approvalCcAddress requested
  have approving := requestedApproving.runGrants notify keepsType wellFormed grants
  obtain ⟨approver, folded, mem⟩ := foldl_grantCells grants (requestCells requestor emailMsgId approvalCcAddress
    requested { Cells.empty with type := Cells.empty.type.add requestor.kind.approvalType requested })
  rw [folded] at approving
  -- The approval has no lifetime of its own, so its grants live `ACL.token_expiry` seconds.
  have live : nonExpiredApprovers config ⟨requestor.buildApprovalUrn (approvalId idValue), none,
      requestor.kind.approvalType, { requestCells requestor emailMsgId approvalCcAddress requested
        { Cells.empty with type := Cells.empty.type.add requestor.kind.approvalType requested } with approver }⟩ now =
      liveApprovers config.tokenExpiry now
        ((requestor.token.username, requested) :: grants.map fun grant => (grant.1.username, grant.2)) := by
    ext name
    simp only [nonExpiredApprovers, liveApprovers, lifetimeOf, History.newest, requestCells, Cells.empty,
      History.empty, List.head?_nil, Option.map_none', Option.getD_none, reduceIte, List.mem_toFinset, List.mem_map,
      List.mem_filter, mem, History.mem_add, List.not_mem_nil, or_false, Prod.exists, decide_eq_true_eq,
      List.mem_cons, Prod.mk.injEq, exists_eq_right_right, exists_and_right, exists_eq_right]
    constructor
    · rintro ⟨_, ⟨rfl | ⟨token, time, member, rfl⟩, fresh⟩, rfl⟩
      · exact ⟨requested, .inl ⟨rfl, rfl⟩, fresh⟩
      · exact ⟨time, .inr ⟨token, member, rfl⟩, fresh⟩
    · rintro ⟨time, ⟨rfl, aged⟩ | ⟨token, member, rfl⟩, fresh⟩
      · exact ⟨_, ⟨.inl rfl, aged ▸ fresh⟩, rfl⟩
      · exact ⟨_, ⟨.inr ⟨token, time, member, rfl⟩, fresh⟩, rfl⟩
  have ran : runOperations notify (requestThenGrants requestor idValue emailMsgId approvalCcAddress requested grants)
      initial = runOperations notify (grants.map fun grant => .grant (requestor.grantorWith grant.1) grant.2)
        (requestor.requestedStore notify (requestor.buildApprovalUrn (approvalId idValue))
          (requestor.buildApprovalSymlinksUrns (approvalId idValue)) emailMsgId approvalCcAddress requested
          subjectTitle initial) := by
    simp only [requestThenGrants, runOperations, List.foldl_cons, returned]
  rw [ran, approving.getApprovalForObject_iff wellFormed rfl config auth inactive now token username effective, live]

/-- Nothing of the store holding `alice`'s user object is in the namespace. -/
theorem adminStore_blank (urn : RDFURN) (inAcl : InAcl urn) : adminStore.cells urn = .empty := by
  by_cases user : urn = (rootUrn.add "users").add "alice"
  · subst user
    simp [InAcl, users_head] at inAcl
  · simp [adminStore, user]

/-- `alice` asks for the hunt at 10 and `bob` grants at 50: at 60 `alice` has access exactly when the rule holds. -/
theorem requestThenGrants_access_alice :
    (∀ cells notification now,
      ((fun cells _ _ => cells : Cells → Notification → Int → Cells) cells notification now).type = cells.type) ∧
      (∀ urn, InAcl urn → adminStore.cells urn = .empty) ∧ aliceHuntRequestor.WellFormed ∧
      (∃ subjectTitle, buildSubjectTitle adminStore aliceHuntRequestor.kind aliceHuntRequestor.subjectUrn =
        .ok subjectTitle) ∧
      (⟨false, fun _ _ _ _ _ => .ok ()⟩ : ClientApprovalAuthManager).isActive = false ∧
      (if "" = "" then "alice" else "") = aliceHuntRequestor.token.username ∧
      ((∃ granted, getApprovalForObject ⟨2, 100⟩ ⟨false, fun _ _ _ _ _ => .ok ()⟩
          (runOperations (fun cells _ _ => cells)
            (requestThenGrants aliceHuntRequestor 1 "msg" none 10 [({ username := "bob", reason := none }, 50)])
            adminStore) 60 aliceHuntRequestor.subjectUrn (some { username := "alice", reason := none }) "" =
          .ok granted) ↔
        (2 : Int) ≤ (liveApprovers 100 60 [("alice", 10), ("bob", 50)]).card ∧
          ∀ label, checkedApproversLabel aliceHuntRequestor.kind.approvalType = some label →
            minApproversWithLabel ≤ ((liveApprovers 100 60 [("alice", 10), ("bob", 50)]).filter
              (approverHasLabel (runOperations (fun cells _ _ => cells)
                (requestThenGrants aliceHuntRequestor 1 "msg" none 10 [({ username := "bob", reason := none }, 50)])
                adminStore) label ·)).card) :=
  ⟨fun _ _ _ => rfl, adminStore_blank, aliceHuntRequestor_wellFormed, ⟨_, rfl⟩, rfl, rfl,
    requestThenGrants_access _ (fun _ _ _ => rfl) adminStore_blank aliceHuntRequestor_wellFormed ⟨_, rfl⟩ 1 "msg"
      none 10 [({ username := "bob", reason := none }, 50)] ⟨2, 100⟩ _ rfl 60 { username := "alice", reason := none } "" rfl⟩

end GrrAcl
