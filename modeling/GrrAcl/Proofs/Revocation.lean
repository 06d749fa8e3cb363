import GrrAcl.Proofs.Liveness

/-! Requests and grants never take access away: at one clock reading, a user who gets a token keeps getting one. -/

namespace GrrAcl

/-- A user's object, for a name of one component, is the URN `approverHasLabel` opens, `aff4:/users/<name>`. -/
theorem ofString_users {name : String} (valid : ValidComponent name) :
    RDFURN.ofString ("aff4:/users/" ++ name) = (rootUrn.add "users").add name := by
  -- The text is the user object's string form.
  have components : ((rootUrn.add "users").add name).components = ["users", name] := by
    rw [RDFURN.add_components_of_valid _ valid, RDFURN.add_components_of_valid _ (by decide)]
    rfl
  have text : "aff4:/users/" ++ name = ((rootUrn.add "users").add name).toString := by
    rw [RDFURN.toString, RDFURN.path, components]
    rfl
  rw [text, ofString_toString]

/-- Adding a path below a URN keeps its components in front. -/
theorem RDFURN.length_le_add (urn : RDFURN) (path : String) :
    urn.components.length ≤ (urn.add path).components.length := by
  simp [RDFURN.add]

/-- A request's symlink lies deeper below `aff4:/users` than any user's object. -/
theorem approvalSymlinkUrnBuilder_ne_users {approvalType : String} (typeValid : ValidComponent approvalType)
    (subjectId user approvalId : String) {name : String} (valid : ValidComponent name) :
    approvalSymlinkUrnBuilder approvalType subjectId user approvalId ≠ (rootUrn.add "users").add name := by
  intro same
  -- A user's object has two components; a symlink has `users`, what the user adds, `approvals`, the type and more.
  have users : ValidComponent "users" := by decide
  have userLength : ((rootUrn.add "users").add name).components.length = 2 := by simp [valid, users]
  have underUsers := RDFURN.length_le_add (rootUrn.add "users") user
  have deep : 3 ≤ (approvalSymlinkUrnBuilder approvalType subjectId user approvalId).components.length :=
    calc 3 ≤ ((((rootUrn.add "users").add user).add "approvals").add approvalType).components.length := by
          simp [typeValid, users, show ValidComponent "approvals" by decide] at underUsers ⊢
          omega
      _ ≤ _ := (RDFURN.length_le_add _ subjectId).trans (RDFURN.length_le_add _ approvalId)
  rw [same, userLength] at deep
  omega

/--
A user's cells as a later store has them: the same labels, and the same newest class or the user class,
which a grant writes into its delegate's object.
-/
def UserKept (cells cells' : Cells) : Prop :=
  cells'.labels = cells.labels ∧
    (cells'.type.newest = cells.type.newest ∨ cells'.type.newest.map (·.value) = some .grrUser)

/-- User cells kept twice are kept. -/
theorem UserKept.trans {cells cells' cells'' : Cells} (first : UserKept cells cells')
    (second : UserKept cells' cells'') : UserKept cells cells'' := by
  refine ⟨second.1.trans first.1, ?_⟩
  rcases second.2 with same | user
  · rw [same]
    exact first.2
  · exact .inr user

/-- No user's object, for a name of one component, is a symlink. -/
def UsersPlain (store : Store) : Prop :=
  ∀ name, ValidComponent name → ∀ version,
    (store.cells ((rootUrn.add "users").add name)).type.newest = some version → version.value ≠ .aff4Symlink

/-- Where a user's object is no symlink, its label test reads its class and its newest labels. -/
theorem approverHasLabel_of_newest {store : Store} {name : String} (valid : ValidComponent name)
    {version : Versioned AFF4Type} (newest : (store.cells ((rootUrn.add "users").add name)).type.newest = some version)
    (notLink : version.value ≠ .aff4Symlink) (label : String) :
    approverHasLabel store label name = (version.value.isinstance .grrUser &&
      decide (label ∈ (((store.cells ((rootUrn.add "users").add name)).labels.newest.map (·.value)).getD []))) := by
  unfold approverHasLabel
  rw [ofString_users valid]
  cases isUser : version.value.isinstance .grrUser <;>
    simp [Store.open, Store.resolve, Store.load, newest, notLink, isUser, getLabelsNames, Cells.latest]

/-- A user kept, and no symlink, keeps every label it was found with. -/
theorem approverHasLabel_kept {store store' : Store} {name : String} (valid : ValidComponent name)
    (kept : UserKept (store.cells ((rootUrn.add "users").add name)) (store'.cells ((rootUrn.add "users").add name)))
    (plain : UsersPlain store) {label : String} (labelled : approverHasLabel store label name = true) :
    approverHasLabel store' label name = true := by
  obtain ⟨labels, classes⟩ := kept
  cases newest : (store.cells ((rootUrn.add "users").add name)).type.newest with
  | none =>
    -- Nothing opens where no class is stored.
    unfold approverHasLabel at labelled
    simp [ofString_users valid, Store.open, Store.resolve, Store.load, newest] at labelled
  | some version =>
    have notLink := plain name valid version newest
    rw [approverHasLabel_of_newest valid newest notLink] at labelled
    obtain ⟨isUser, found⟩ := Bool.and_eq_true_iff.mp labelled
    -- The later class is the same one or the user class, and the labels are the same.
    rcases classes with same | user
    · rw [approverHasLabel_of_newest valid (same.trans newest) notLink, labels, isUser, found]
      rfl
    · obtain ⟨userVersion, newest', userIs⟩ := Option.map_eq_some'.mp user
      rw [approverHasLabel_of_newest valid newest' (by rw [userIs]; decide), labels, userIs, found]
      rfl

/-- Well-formed requestors whose approvals share a URN are of one kind. -/
theorem ApprovalRequestor.WellFormed.kind_eq {requestor other : ApprovalRequestor} (wellFormed : requestor.WellFormed)
    (otherWellFormed : other.WellFormed) {value otherValue : Nat}
    (same : requestor.buildApprovalUrn (approvalId value) = other.buildApprovalUrn (approvalId otherValue)) :
    requestor.kind = other.kind := by
  obtain ⟨⟨subjectId, named, subjectIs⟩, userValid⟩ := wellFormed
  obtain ⟨⟨otherId, otherNamed, otherSubjectIs⟩, otherUserValid⟩ := otherWellFormed
  -- Below the namespace both URNs are a subject and then two components, so the subjects agree.
  have layout := congrArg RDFURN.components same
  rw [ApprovalRequestor.buildApprovalUrn, ApprovalRequestor.buildApprovalUrn,
    approvalUrnBuilder_components _ userValid (approvalId_valid value),
    approvalUrnBuilder_components _ otherUserValid (approvalId_valid otherValue)] at layout
  simp only [List.cons_append, List.cons.injEq, true_and] at layout
  have sameSubject := RDFURN.eq_of_components (List.append_inj_left' layout rfl)
  exact ApprovalKind.eq_of_subjectUrn named otherNamed (subjectIs.symm.trans (sameSubject.trans otherSubjectIs))

/--
What admitting a user reads of one URN's cells, kept from the earlier cells to the later: in the namespace
the class, the approvers, break-glass and the lifetime, and at a user's object the user.
-/
structure CellsKept (urn : RDFURN) (cells cells' : Cells) : Prop where
  /-- An object of the namespace keeps the class it had. -/
  typed : InAcl urn → ∀ version, cells.type.newest = some version →
    ∃ version', cells'.type.newest = some version' ∧ version'.value = version.value
  /-- No approver is lost. -/
  approvers : InAcl urn → ∀ version ∈ cells.approver.versions, version ∈ cells'.approver.versions
  /-- Break-glass access is as it was. -/
  breakGlass : InAcl urn → cells'.breakGlass = cells.breakGlass
  /-- So is the approval's lifetime. -/
  lifetime : InAcl urn → cells'.lifetime = cells.lifetime
  /-- A user's object keeps the user. -/
  user : ∀ name, ValidComponent name → urn = (rootUrn.add "users").add name → UserKept cells cells'

namespace CellsKept

variable {urn : RDFURN}

/-- Cells keep themselves. -/
theorem refl (cells : Cells) : CellsKept urn cells cells :=
  ⟨fun _ version newest => ⟨version, newest, rfl⟩, fun _ _ => id, fun _ => rfl, fun _ => rfl,
    fun _ _ _ => ⟨rfl, .inl rfl⟩⟩

/-- Cells kept twice are kept. -/
theorem trans {cells cells' cells'' : Cells} (first : CellsKept urn cells cells')
    (second : CellsKept urn cells' cells'') : CellsKept urn cells cells'' := by
  refine ⟨fun inAcl version newest => ?_, fun inAcl version member => second.approvers inAcl _
    (first.approvers inAcl _ member), fun inAcl => (second.breakGlass inAcl).trans (first.breakGlass inAcl),
    fun inAcl => (second.lifetime inAcl).trans (first.lifetime inAcl),
    fun name valid same => (first.user name valid same).trans (second.user name valid same)⟩
  obtain ⟨middle, newest', sameValue⟩ := first.typed inAcl version newest
  obtain ⟨last, newest'', sameValue'⟩ := second.typed inAcl middle newest'
  exact ⟨last, newest'', sameValue'.trans sameValue⟩

/-- Changing neither class nor labels, and in the namespace only adding approvers, keeps the cells. -/
theorem of_keeping {cells cells' : Cells} (type : cells'.type = cells.type) (labels : cells'.labels = cells.labels)
    (approval : InAcl urn → cells'.breakGlass = cells.breakGlass ∧ cells'.lifetime = cells.lifetime ∧
      ∀ version ∈ cells.approver.versions, version ∈ cells'.approver.versions) : CellsKept urn cells cells' :=
  ⟨fun _ version newest => ⟨version, type ▸ newest, rfl⟩, fun inAcl => (approval inAcl).2.2,
    fun inAcl => (approval inAcl).1, fun inAcl => (approval inAcl).2.1,
    fun _ _ _ => ⟨labels, .inl (by rw [type])⟩⟩

/--
Writing a class keeps the cells when, in the namespace, it is the class already there, and when at a
user's object it is the user class.
-/
theorem add_type (cells : Cells) {aff4Type : AFF4Type} (now : Int)
    (sameClass : InAcl urn → ∀ version, cells.type.newest = some version → version.value = aff4Type)
    (userClass : ∀ name, ValidComponent name → urn = (rootUrn.add "users").add name → aff4Type = .grrUser) :
    CellsKept urn cells { cells with type := cells.type.add aff4Type now } := by
  refine ⟨fun inAcl version newest => ?_, fun _ _ => id, fun _ => rfl, fun _ => rfl,
    fun name valid same => ⟨rfl, ?_⟩⟩
  · -- The newest class is the one written, which is the class there, or the one there before.
    rcases History.newest_add cells.type aff4Type now with fresh | old
    · exact ⟨_, fresh, (sameClass inAcl version newest).symm⟩
    · exact ⟨version, old.trans newest, rfl⟩
  · rcases History.newest_add cells.type aff4Type now with fresh | old
    · exact .inr (by rw [fresh, userClass name valid same]; rfl)
    · exact .inl old

end CellsKept

/--
What a later store keeps of an earlier one of all that admitting a user reads: the child index, and what
`CellsKept` names of every URN's cells.
-/
structure AccessKept (store store' : Store) : Prop where
  /-- No child leaves the index. -/
  index : ∀ urn, ∀ name ∈ store.index urn, name ∈ store'.index urn
  /-- Every URN's cells are kept. -/
  cells : ∀ urn, CellsKept urn (store.cells urn) (store'.cells urn)

namespace AccessKept

/-- A store keeps itself. -/
theorem refl (store : Store) : AccessKept store store :=
  ⟨fun _ _ => id, fun _ => .refl _⟩

/-- Stores kept twice are kept. -/
theorem trans {store store' store'' : Store} (first : AccessKept store store') (second : AccessKept store' store'') :
    AccessKept store store'' :=
  ⟨fun urn name member => second.index urn name (first.index urn name member),
    fun urn => (first.cells urn).trans (second.cells urn)⟩

/-- Writing cells that keep what admitting reads keeps the store. -/
theorem write (store : Store) (urn : RDFURN) {update : Cells → Cells}
    (updated : CellsKept urn (store.cells urn) (update (store.cells urn))) : AccessKept store (store.write urn update) := by
  refine ⟨fun _ _ => id, fun other => ?_⟩
  by_cases same : other = urn
  · subst same
    simpa using updated
  · simpa [same] using CellsKept.refl (store.cells other)

/-- Creating an object whose class and attributes keep what admitting reads keeps the store. -/
theorem create (store : Store) (urn : RDFURN) (aff4Type : AFF4Type) (now : Int) {update : Cells → Cells}
    (updated : CellsKept urn (store.cells urn)
      (update { store.cells urn with type := (store.cells urn).type.add aff4Type now })) :
    AccessKept store (store.create urn aff4Type now update) :=
  (⟨fun _ _ member => Store.mem_updateChildIndex_index.mpr (.inl member), fun _ => .refl _⟩ :
    AccessKept store (store.updateChildIndex urn)).trans (write _ urn updated)

/-- Notifying users keeps the store when `notify` keeps a user's class and labels, while no user is in the namespace. -/
theorem notifyApprovers (notify : Cells → Notification → Int → Cells)
    (keepsUser : ∀ cells notification now, (notify cells notification now).type = cells.type ∧
      (notify cells notification now).labels = cells.labels)
    {store : Store} (outside : UsersOutsideAcl store) (users : List String) (notification : Notification) (now : Int) :
    AccessKept store (GrrAcl.notifyApprovers notify store users notification now) := by
  induction users generalizing store with
  | nil => exact refl store
  | cons user rest carried =>
    -- The user's object opened as a user, so it is outside the namespace, and stays so for the rest.
    refine trans ?_ (carried (outside.frame (AclFrame.notifyApprover notify outside notification now user)))
    unfold GrrAcl.notifyApprover
    split
    · exact write store _ (.of_keeping (keepsUser _ _ _).1 (keepsUser _ _ _).2
        fun inAcl => absurd inAcl (outside.not_inAcl ‹_›))
    · exact refl store

variable {requests : List (ApprovalRequestor × Nat)} {store : Store}

/--
A request keeps the store: its approval's class is the class of every request made under that URN, and
its symlink is deeper than any user's object.
-/
theorem requestedStore (invariant : AclInvariant requests store)
    (wellFormed : ∀ request ∈ requests, request.1.WellFormed) (notify : Cells → Notification → Int → Cells)
    (keepsUser : ∀ cells notification now, (notify cells notification now).type = cells.type ∧
      (notify cells notification now).labels = cells.labels)
    {requestor : ApprovalRequestor} (requestorWellFormed : requestor.WellFormed) (idValue : Nat) (emailMsgId : String)
    (approvalCcAddress : Option String) (now : Int) (subjectTitle : String) :
    AccessKept store (requestor.requestedStore notify (requestor.buildApprovalUrn (approvalId idValue))
      (requestor.buildApprovalSymlinksUrns (approvalId idValue)) emailMsgId approvalCcAddress now subjectTitle store) := by
  have inAcl := approvalUrnBuilder_inAcl requestor.subjectUrn.path requestor.token.username (approvalId idValue)
  -- A class already in the namespace there is that of a request made under the same URN, so of the same kind.
  have sameClass : ∀ version, (store.cells (requestor.buildApprovalUrn (approvalId idValue))).type.newest =
      some version → version.value = requestor.kind.approvalType := fun version newest => by
    obtain ⟨request, made, location, typeIs⟩ := invariant.approvals _ version inAcl newest
    rw [typeIs, (wellFormed request made).kind_eq requestorWellFormed location.symm]
  have created := @create store _ requestor.kind.approvalType now (requestCells requestor emailMsgId approvalCcAddress now)
    ((CellsKept.add_type _ now (fun _ => sameClass) fun name _ same => absurd (same ▸ inAcl) (users_not_inAcl name)).trans
      (.of_keeping rfl rfl fun _ => ⟨rfl, rfl, fun _ member =>
        (History.mem_add _ requestor.token.username now _).mpr (.inr member)⟩))
  have linkOutside := buildApprovalSymlinksUrns_outside requestor (approvalId idValue)
  have typeValid : ValidComponent requestor.kind.symlinkType := by cases requestor.kind <;> decide
  unfold ApprovalRequestor.requestedStore
  refine (created.trans ?_).trans (notifyApprovers notify keepsUser (invariant.usersOutsideAcl.linked requestor _
    linkOutside emailMsgId approvalCcAddress now) _ _ now)
  simp only [ApprovalRequestor.buildApprovalSymlinksUrns, List.foldl] at linkOutside ⊢
  exact create _ _ _ now ((CellsKept.add_type _ now (fun outside => absurd outside (linkOutside _ (by simp)))
    fun name valid same => absurd same (approvalSymlinkUrnBuilder_ne_users typeValid _ _ _ valid)).trans
      (.of_keeping rfl rfl fun outside => absurd outside (linkOutside _ (by simp))))

/-- A grant keeps the store: it adds an approver, and makes its delegate's object a user's. -/
theorem grantedStore (notify : Cells → Notification → Int → Cells)
    (keepsUser : ∀ cells notification now, (notify cells notification now).type = cells.type ∧
      (notify cells notification now).labels = cells.labels)
    (grantor : ApprovalGrantor) (now : Int) (subjectTitle : String) (approvalUrn : RDFURN) (store : Store) :
    AccessKept store (grantor.grantedStore notify now subjectTitle approvalUrn store) :=
  (write store approvalUrn (.of_keeping rfl rfl fun _ =>
    ⟨rfl, rfl, fun _ member => (History.mem_add _ _ _ _).mpr (.inr member)⟩)).trans
    (create _ _ .grrUser now ((CellsKept.add_type _ now (fun inAcl => absurd inAcl (users_not_inAcl _))
      fun _ _ _ => rfl).trans (.of_keeping (keepsUser _ _ _).1 (keepsUser _ _ _).2
        fun inAcl => absurd inAcl (users_not_inAcl _))))

/-- One operation keeps the store, when the namespace holds only approvals of well-formed requests. -/
theorem apply (invariant : AclInvariant requests store) (notify : Cells → Notification → Int → Cells)
    (keepsUser : ∀ cells notification now, (notify cells notification now).type = cells.type ∧
      (notify cells notification now).labels = cells.labels)
    (operation : Operation) (wellFormed : ∀ request ∈ requests ++ operation.requested, request.1.WellFormed) :
    AccessKept store (operation.apply notify store) := by
  cases operation with
  | request requestor idValue emailMsgId approvalCcAddress now =>
    rcases apply_request notify requestor idValue emailMsgId approvalCcAddress now store with
      same | ⟨subjectTitle, returned⟩
    · rw [same]
      exact refl store
    · rw [returned]
      exact requestedStore invariant (fun request made => wellFormed request (List.mem_append_left _ made)) notify
        keepsUser (wellFormed (requestor, idValue) (by simp [Operation.requested])) idValue emailMsgId
        approvalCcAddress now subjectTitle
  | grant grantor now =>
    rcases apply_grant notify grantor now store with same | ⟨approval, -, subjectTitle, returned⟩
    · rw [same]
      exact refl store
    · rw [returned]
      exact grantedStore notify keepsUser grantor now subjectTitle approval.urn store

/-- Every run of well-formed requests and grants keeps the store. -/
theorem runOperations (invariant : AclInvariant requests store) (notify : Cells → Notification → Int → Cells)
    (keepsUser : ∀ cells notification now, (notify cells notification now).type = cells.type ∧
      (notify cells notification now).labels = cells.labels)
    (operations : List Operation)
    (wellFormed : ∀ request ∈ requests ++ operations.flatMap Operation.requested, request.1.WellFormed) :
    AccessKept store (GrrAcl.runOperations notify operations store) := by
  induction operations generalizing requests store with
  | nil => exact refl store
  | cons operation rest carried =>
    -- The first operation keeps the store and the invariant, and the rest keep what it leaves.
    simp only [List.flatMap_cons, ← List.append_assoc] at wellFormed
    exact (apply invariant notify keepsUser operation fun request made =>
      wellFormed request (List.mem_append_left _ made)).trans
        (carried (invariant.apply notify operation) wellFormed)

end AccessKept

/-- Every approver recorded in the namespace is named by one component. -/
def ApproversNamed (store : Store) : Prop :=
  ∀ urn, InAcl urn → ∀ version ∈ (store.cells urn).approver.versions, ValidComponent version.value

namespace ApproversNamed

variable {store : Store}

/--
Every run of well-formed requests and of grants by users of one component, from a store of the invariant,
keeps every approver's name: each approver it adds is such a requester or granting user.
-/
theorem runOperations (named : ApproversNamed store) {requests : List (ApprovalRequestor × Nat)}
    (invariant : AclInvariant requests store) (notify : Cells → Notification → Int → Cells)
    (operations : List Operation)
    (wellFormed : ∀ request ∈ operations.flatMap Operation.requested, request.1.WellFormed)
    (grantersNamed : ∀ grantor now, Operation.grant grantor now ∈ operations → ValidComponent grantor.token.username) :
    ApproversNamed (GrrAcl.runOperations notify operations store) := fun urn inAcl version member => by
  rcases ((ApproversAdded.runOperations notify operations invariant) urn inAcl).2 version member with
    old | ⟨operation, made, adds⟩
  · exact named urn inAcl version old
  cases operation with
  | request requestor idValue _ _ now =>
    obtain ⟨-, rfl⟩ := adds
    exact (wellFormed (requestor, idValue) (List.mem_flatMap.mpr ⟨_, made, List.mem_singleton_self _⟩)).2
  | grant grantor now =>
    obtain ⟨-, rfl⟩ := adds
    exact grantersNamed grantor now made

end ApproversNamed

/-- A store that keeps another keeps its users' objects free of symlinks. -/
theorem UsersPlain.kept {store store' : Store} (plain : UsersPlain store) (kept : AccessKept store store') :
    UsersPlain store' := fun name valid version newest => by
  rcases ((kept.cells _).user name valid rfl).2 with same | user
  · exact plain name valid version (same ▸ newest)
  · have isUser : version.value = .grrUser := by simpa [newest] using user
    rw [isUser]
    decide

/-- More approvers under the same lifetime leave every non-expired approver in place. -/
theorem nonExpiredApprovers_mono (config : Config) {approval approval' : AFF4Object} (now : Int)
    (lifetime : approval'.cells.lifetime = approval.cells.lifetime)
    (approvers : ∀ version ∈ approval.cells.approver.versions, version ∈ approval'.cells.approver.versions) :
    nonExpiredApprovers config approval now ⊆ nonExpiredApprovers config approval' now := by
  intro name
  simp only [nonExpiredApprovers, lifetimeOf, lifetime, List.mem_toFinset, List.mem_map, List.mem_filter,
    decide_eq_true_eq]
  exact fun ⟨version, ⟨member, fresh⟩, named⟩ => ⟨version, ⟨approvers version member, fresh⟩, named⟩

/--
An approval that admits a user on a store is listed, and admits the user, on every store that keeps the
first, as long as no user's object is a symlink and every approver is one component.
-/
theorem Admits.kept {requests : List (ApprovalRequestor × Nat)} {store store' : Store}
    (invariant : AclInvariant requests store) (kept : AccessKept store store') (plain : UsersPlain store)
    (named : ApproversNamed store) {config : Config} {now : Int} {objectUrn : RDFURN} {user : String}
    {approval : AFF4Object}
    (member : approval ∈ store.multiOpen (store.listChildren (approvalsRootUrn objectUrn user)) (some .approval)
      .allTimes)
    (admits : Admits config store now user approval) :
    ∃ approval' ∈ store'.multiOpen (store'.listChildren (approvalsRootUrn objectUrn user)) (some .approval) .allTimes,
      Admits config store' now user approval' := by
  obtain ⟨name, indexed, request, -, urnIs, -, classIs⟩ := invariant.listed member
  obtain ⟨inAcl, loaded, version, newest, typeIs, notLink⟩ := invariant.listed_loads member
  obtain ⟨version', newest', sameValue⟩ := (kept.cells approval.urn).typed inAcl version newest
  have cellsIs : approval.cells = store.cells approval.urn := by
    simp only [Store.load, newest, Option.map_some', Option.some.injEq] at loaded
    exact (congrArg AFF4Object.cells loaded).symm
  -- The later store lists the approval again, with its URN and class and the later cells.
  have loaded' : store'.load approval.urn .allTimes =
      some ⟨approval.urn, none, approval.aff4Type, store'.cells approval.urn⟩ := by
    simp [Store.load, newest', sameValue, typeIs]
  have member' := (Store.mem_multiOpen _ _ _ _ _).mpr ⟨approval.urn,
    (Store.mem_listChildren _ _ _).mpr ⟨name, kept.index _ name indexed, urnIs.symm⟩,
    Store.open_of_load loaded' (typeIs ▸ notLink) (classIs ▸ ApprovalKind.approvalType_isinstance _)⟩
  refine ⟨_, member', admits.decoded, ?_⟩
  rcases admits.approved with active | ⟨enough, labelled⟩
  · -- Break-glass access is as it was.
    left
    simpa [breakGlassActive, (kept.cells _).breakGlass inAcl, cellsIs] using active
  · -- The approvers only grow, and each keeps the labels it had.
    have grows := @nonExpiredApprovers_mono config approval ⟨approval.urn, none, approval.aff4Type,
      store'.cells approval.urn⟩ now (cellsIs ▸ (kept.cells _).lifetime inAcl)
      fun version member => (kept.cells _).approvers inAcl version (cellsIs ▸ member)
    refine .inr ⟨enough.trans (Int.ofNat_le.mpr (Finset.card_le_card grows)), fun label labelIs =>
      (labelled label labelIs).trans (Int.ofNat_le.mpr (Finset.card_le_card fun approver => ?_))⟩
    simp only [Finset.mem_filter]
    refine fun ⟨live, labelledBefore⟩ => ⟨grows live, ?_⟩
    obtain ⟨version, ⟨recorded, -⟩, rfl⟩ := by
      simpa [nonExpiredApprovers] using live
    have valid := named approval.urn inAcl version (cellsIs ▸ recorded)
    exact approverHasLabel_kept valid ((kept.cells _).user _ valid rfl) plain labelledBefore

/--
Requests and grants never take access away: from a store with nothing in the `ACL` namespace, no user's
object a symlink and every approver recorded one component, with requests of well-formed requestors,
grants by users of one component, notifications that keep a user's class and labels, and label approvals
switched off, a user `GetApprovalForObject` gives a token after a run still gets one after any longer run,
at the same clock reading.
-/
theorem getApprovalForObject_never_revoked (notify : Cells → Notification → Int → Cells)
    (keepsUser : ∀ cells notification now, (notify cells notification now).type = cells.type ∧
      (notify cells notification now).labels = cells.labels)
    (initial : Store) (clean : AclInvariant [] initial) (plain : UsersPlain initial) (named : ApproversNamed initial)
    (earlier later : List Operation)
    (wellFormed : ∀ request ∈ (earlier ++ later).flatMap Operation.requested, request.1.WellFormed)
    (grantersNamed : ∀ grantor now, Operation.grant grantor now ∈ earlier ++ later →
      ValidComponent grantor.token.username)
    (config : Config) (auth : ClientApprovalAuthManager) (inactive : auth.isActive = false) (now : Int)
    (objectUrn : RDFURN) (token : ACLToken) (username : String)
    (granted : ∃ granted, getApprovalForObject config auth (runOperations notify earlier initial) now objectUrn
      (some token) username = .ok granted) :
    ∃ granted, getApprovalForObject config auth (runOperations notify (earlier ++ later) initial) now objectUrn
      (some token) username = .ok granted := by
  obtain ⟨_, returned⟩ := granted
  obtain ⟨approval, member, admits⟩ := admits_of_getApprovalForObject returned
  simp only [List.flatMap_append, List.mem_append] at wellFormed
  -- The store the earlier run reaches has the three invariants.
  have reached : AclInvariant (earlier.flatMap Operation.requested) (runOperations notify earlier initial) := by
    simpa using clean.runOperations notify earlier
  have keptEarlier := AccessKept.runOperations clean notify keepsUser earlier
    fun request made => wellFormed request (.inl (by simpa using made))
  have namedEarlier := named.runOperations clean notify earlier (fun request made => wellFormed request (.inl made))
    fun grantor now member => grantersNamed grantor now (List.mem_append_left _ member)
  -- The later run keeps it, and so keeps the approval admitting the user.
  have keptLater := AccessKept.runOperations reached notify keepsUser later
    fun request made => (List.mem_append.mp made).elim (wellFormed request ∘ .inl) (wellFormed request ∘ .inr)
  have finished : AclInvariant (earlier.flatMap Operation.requested ++ later.flatMap Operation.requested)
      (runOperations notify (earlier ++ later) initial) := by
    simpa [runOperations, List.foldl_append] using reached.runOperations notify later
  rw [runOperations, List.foldl_append] at finished ⊢
  exact getApprovalForObject_of_admits finished
    (fun request made => (List.mem_append.mp made).elim (wellFormed request ∘ .inl) (wellFormed request ∘ .inr))
    inactive (admits.kept reached keptLater (plain.kept keptEarlier) namedEarlier member)

/-- No user's object of the store holding `alice`'s is a symlink. -/
theorem adminStore_usersPlain : UsersPlain adminStore := fun name _ version newest => by
  by_cases user : (rootUrn.add "users").add name = (rootUrn.add "users").add "alice"
  · rw [user] at newest
    simp [adminStore, Cells.empty, History.empty, History.add, History.newest] at newest
    rw [← newest]
    decide
  · simp [adminStore, user, Cells.empty, History.empty, History.newest] at newest

/-- The store holding `alice`'s user object records no approver in the namespace. -/
theorem adminStore_approversNamed : ApproversNamed adminStore := fun urn inAcl version member => by
  simp [adminStore_blank urn inAcl, Cells.empty, History.empty] at member

/--
`alice`'s token for the hunt after the request survives `bob`'s grant and a second request by `alice`, at the
same clock reading.
-/
theorem getApprovalForObject_never_revoked_alice :
    UsersPlain adminStore ∧ ApproversNamed adminStore ∧
      (∃ granted, getApprovalForObject ⟨1, 100⟩ ⟨false, fun _ _ _ _ _ => .ok ()⟩
        (runOperations (fun cells _ _ => cells) [.request aliceHuntRequestor 1 "msg" none 10] adminStore)
        20 aliceHuntRequestor.subjectUrn (some { username := "alice", reason := none }) "" = .ok granted) ∧
      ∃ granted, getApprovalForObject ⟨1, 100⟩ ⟨false, fun _ _ _ _ _ => .ok ()⟩
        (runOperations (fun cells _ _ => cells) ([.request aliceHuntRequestor 1 "msg" none 10] ++
          [.grant (aliceHuntRequestor.grantorWith { username := "bob", reason := none }) 15,
            .request aliceHuntRequestor 2 "again" none 18]) adminStore)
        20 aliceHuntRequestor.subjectUrn (some { username := "alice", reason := none }) "" = .ok granted :=
  have wellFormed : ∀ request ∈ ([Operation.request aliceHuntRequestor 1 "msg" none 10] ++
      [Operation.grant (aliceHuntRequestor.grantorWith { username := "bob", reason := none }) 15,
        Operation.request aliceHuntRequestor 2 "again" none 18]).flatMap Operation.requested,
      request.1.WellFormed := fun request made => by
    simp only [List.singleton_append, List.flatMap_cons, Operation.requested, List.flatMap_nil, List.nil_append,
      List.append_nil, List.cons_append, List.mem_cons, List.not_mem_nil, or_false] at made
    rcases made with rfl | rfl <;> exact aliceHuntRequestor_wellFormed
  have grantersNamed : ∀ grantor now, Operation.grant grantor now ∈ [Operation.request aliceHuntRequestor 1 "msg" none 10] ++
      [Operation.grant (aliceHuntRequestor.grantorWith { username := "bob", reason := none }) 15,
        Operation.request aliceHuntRequestor 2 "again" none 18] → ValidComponent grantor.token.username :=
    fun grantor now member => by
      simp only [List.singleton_append, List.mem_cons, Operation.grant.injEq, reduceCtorEq, List.not_mem_nil,
        or_false, false_or] at member
      rw [member.1]
      decide
  have granted : ∃ granted, getApprovalForObject ⟨1, 100⟩ ⟨false, fun _ _ _ _ _ => .ok ()⟩
      (runOperations (fun cells _ _ => cells) [Operation.request aliceHuntRequestor 1 "msg" none 10] adminStore)
      20 aliceHuntRequestor.subjectUrn (some { username := "alice", reason := none }) "" = .ok granted := ⟨_, rfl⟩
  ⟨adminStore_usersPlain, adminStore_approversNamed, granted,
    getApprovalForObject_never_revoked _ (fun _ _ _ => ⟨rfl, rfl⟩) adminStore adminStore_clean adminStore_usersPlain
      adminStore_approversNamed _ _ wellFormed grantersNamed _ _ rfl 20 _ _ "" granted⟩

end GrrAcl
