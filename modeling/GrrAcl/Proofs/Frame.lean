import GrrAcl.Proofs.Grant
import GrrAcl.Proofs.UrnLayout

/-! What requests and grants write: the approval in the `ACL` namespace, and otherwise only objects outside it. -/

namespace GrrAcl

/-- A URN in the namespace approvals are stored under. -/
def InAcl (urn : RDFURN) : Prop :=
  urn.components.head? = some "ACL"

instance (urn : RDFURN) : Decidable (InAcl urn) :=
  inferInstanceAs (Decidable (_ = _))

/-- An approval URN is in the namespace. -/
theorem approvalUrnBuilder_inAcl (subject user approvalId : String) :
    InAcl (approvalUrnBuilder subject user approvalId) :=
  RDFURN.head?_add _ (RDFURN.head?_add _ (RDFURN.head?_add _ (by simp [show ValidComponent "ACL" by decide])))

/-- A user's URN, and so every URN below it, begins with `users`. -/
theorem users_head (user : String) : ((rootUrn.add "users").add user).components.head? = some "users" :=
  RDFURN.head?_add user (by simp [show ValidComponent "users" by decide])

/-- A user's URN is outside the namespace. -/
theorem users_not_inAcl (user : String) : ¬ InAcl ((rootUrn.add "users").add user) := by
  simp [InAcl, users_head]

/-- The symlinks a request creates are outside the namespace. -/
theorem buildApprovalSymlinksUrns_outside (requestor : ApprovalRequestor) (approvalId : String) :
    ∀ linkUrn ∈ requestor.buildApprovalSymlinksUrns approvalId, ¬ InAcl linkUrn := by
  simp only [ApprovalRequestor.buildApprovalSymlinksUrns, approvalSymlinkUrnBuilder, List.mem_singleton,
    forall_eq, InAcl]
  rw [RDFURN.head?_add _ (RDFURN.head?_add _ (RDFURN.head?_add _ (RDFURN.head?_add _ (users_head _))))]
  decide

/--
The second store differs from the first only outside the namespace: every URN of the namespace keeps its
cells, and the child index only gains children, each a single component.
-/
structure AclFrame (store store' : Store) : Prop where
  /-- Every URN of the namespace keeps its cells. -/
  cells : ∀ urn, InAcl urn → store'.cells urn = store.cells urn
  /-- No child leaves the index. -/
  kept : ∀ urn, ∀ name ∈ store.index urn, name ∈ store'.index urn
  /-- A child entered in the index is a single component. -/
  entered : ∀ urn, ∀ name ∈ store'.index urn, name ∈ store.index urn ∨ ValidComponent name

/-- No object of the namespace is a user's: no class stored there is the user class. -/
def UsersOutsideAcl (store : Store) : Prop :=
  ∀ urn, InAcl urn → ∀ version, (store.cells urn).type.newest = some version → version.value ≠ .grrUser

namespace UsersOutsideAcl

variable {store : Store}

/-- An object that opens as a user is outside the namespace. -/
theorem not_inAcl (outside : UsersOutsideAcl store) {urn : RDFURN} {age : Age} {user : AFF4Object}
    (opened : store.open urn (some .grrUser) age = .ok user) : ¬ InAcl user.urn := fun inAcl => by
  obtain ⟨version, newest, isUser⟩ := Store.open_grrUser_newest opened
  exact outside user.urn inAcl version newest isUser

/-- Changes outside the namespace keep users out of it. -/
theorem frame (outside : UsersOutsideAcl store) {store' : Store} (framed : AclFrame store store') :
    UsersOutsideAcl store' :=
  fun urn inAcl => framed.cells urn inAcl ▸ outside urn inAcl

/-- Creating an object of another class than the user's, keeping the class, keeps users out of the namespace. -/
theorem create (outside : UsersOutsideAcl store) (urn : RDFURN) {aff4Type : AFF4Type} (notUser : aff4Type ≠ .grrUser)
    (now : Int) {update : Cells → Cells} (keeps : ∀ cells, (update cells).type = cells.type) :
    UsersOutsideAcl (store.create urn aff4Type now update) := by
  intro other inAcl version newest
  by_cases same : other = urn
  · -- The newest class is the one written, or the newest before.
    subst same
    simp only [Store.create, Store.write_cells_self, Store.updateChildIndex_cells, keeps] at newest
    rcases History.newest_add (store.cells other).type aff4Type now with fresh | old
    · rw [fresh, Option.some.injEq] at newest
      exact newest ▸ notUser
    · exact outside other inAcl version (old ▸ newest)
  · simp only [Store.create, Store.write_cells_other _ _ same, Store.updateChildIndex_cells] at newest
    exact outside other inAcl version newest

end UsersOutsideAcl

namespace AclFrame

/-- A store is framed by itself. -/
theorem refl (store : Store) : AclFrame store store :=
  ⟨fun _ _ => rfl, fun _ _ => id, fun _ _ => .inl⟩

/-- Frames compose. -/
theorem trans {store store' store'' : Store} (first : AclFrame store store') (second : AclFrame store' store'') :
    AclFrame store store'' :=
  ⟨fun urn inAcl => (second.cells urn inAcl).trans (first.cells urn inAcl),
    fun urn name member => second.kept urn name (first.kept urn name member),
    fun urn name member => (second.entered urn name member).elim (first.entered urn name) .inr⟩

/-- Writing outside the namespace is framed. -/
theorem write_outside (store : Store) {urn : RDFURN} (outside : ¬ InAcl urn) (update : Cells → Cells) :
    AclFrame store (store.write urn update) :=
  ⟨fun _ inAcl => Store.write_cells_other _ _ fun same => outside (same ▸ inAcl),
    fun _ _ => id, fun _ _ => .inl⟩

/-- Entering a URN in the child index is framed, since the names entered are its components. -/
theorem updateChildIndex (store : Store) (urn : RDFURN) : AclFrame store (store.updateChildIndex urn) :=
  ⟨fun _ _ => rfl, fun _ _ member => Store.mem_updateChildIndex_index.mpr (.inl member),
    fun _ name member => (Store.mem_updateChildIndex_index.mp member).imp id fun onPath =>
      urn.valid name (Store.childOnPath_mem onPath)⟩

/-- Creating an object outside the namespace is framed. -/
theorem create_outside (store : Store) {urn : RDFURN} (outside : ¬ InAcl urn) (aff4Type : AFF4Type) (now : Int)
    (update : Cells → Cells) : AclFrame store (store.create urn aff4Type now update) :=
  (updateChildIndex store urn).trans (write_outside _ outside _)

/-- Creating objects one after another outside the namespace is framed. -/
theorem foldl_create_outside (store : Store) {urns : List RDFURN} (outside : ∀ urn ∈ urns, ¬ InAcl urn)
    (aff4Type : AFF4Type) (now : Int) (update : Cells → Cells) :
    AclFrame store (urns.foldl (fun store urn => store.create urn aff4Type now update) store) := by
  induction urns generalizing store with
  | nil => exact refl store
  | cons urn rest carried =>
    exact (create_outside store (outside urn (List.mem_cons_self _ _)) _ _ _).trans
      (carried _ fun other member => outside other (List.mem_cons_of_mem _ member))

/-- Notifying one user writes only an object that opens as a user, outside the namespace while no user is in it. -/
theorem notifyApprover (notify : Cells → Notification → Int → Cells) {store : Store} (outside : UsersOutsideAcl store)
    (notification : Notification) (now : Int) (user : String) :
    AclFrame store (GrrAcl.notifyApprover notify notification now store user) := by
  unfold GrrAcl.notifyApprover
  split
  · exact write_outside store (outside.not_inAcl ‹_›) _
  · exact refl store

/-- Notifying users is framed while no user is in the namespace, which each notification keeps so. -/
theorem notifyApprovers (notify : Cells → Notification → Int → Cells) {store : Store} (outside : UsersOutsideAcl store)
    (users : List String) (notification : Notification) (now : Int) :
    AclFrame store (GrrAcl.notifyApprovers notify store users notification now) := by
  induction users generalizing store with
  | nil => exact refl store
  | cons user rest carried =>
    have first := notifyApprover notify outside notification now user
    exact first.trans (carried (outside.frame first))

end AclFrame

/-- No approval class is the user class. -/
theorem approvalType_ne_grrUser (kind : ApprovalKind) : kind.approvalType ≠ .grrUser := by
  cases kind <;> decide

/-- A request's approval and symlinks keep users out of the namespace: the approval is no user, and the symlinks are outside. -/
theorem UsersOutsideAcl.linked {store : Store} (outside : UsersOutsideAcl store) (requestor : ApprovalRequestor)
    (approvalUrn : RDFURN) {linkUrns : List RDFURN} (linksOutside : ∀ linkUrn ∈ linkUrns, ¬ InAcl linkUrn)
    (emailMsgId : String) (approvalCcAddress : Option String) (now : Int) :
    UsersOutsideAcl (linkUrns.foldl (fun store linkUrn => store.create linkUrn .aff4Symlink now fun cells =>
        { cells with symlinkTarget := cells.symlinkTarget.add approvalUrn now })
      (store.create approvalUrn requestor.kind.approvalType now (requestCells requestor emailMsgId approvalCcAddress now))) :=
  (@UsersOutsideAcl.create store outside approvalUrn requestor.kind.approvalType (approvalType_ne_grrUser _) now
    (requestCells requestor emailMsgId approvalCcAddress now) fun _ => rfl).frame
    (AclFrame.foldl_create_outside _ linksOutside .aff4Symlink now _)

/-- Past the approval's creation, a request writes only outside the namespace, while no user is in it. -/
theorem requestedStore_frame (notify : Cells → Notification → Int → Cells) (requestor : ApprovalRequestor)
    (approvalUrn : RDFURN) {linkUrns : List RDFURN} (linksOutside : ∀ linkUrn ∈ linkUrns, ¬ InAcl linkUrn)
    (emailMsgId : String) (approvalCcAddress : Option String) (now : Int) (subjectTitle : String) {store : Store}
    (outside : UsersOutsideAcl store) :
    AclFrame (store.create approvalUrn requestor.kind.approvalType now
        (requestCells requestor emailMsgId approvalCcAddress now))
      (requestor.requestedStore notify approvalUrn linkUrns emailMsgId approvalCcAddress now subjectTitle store) :=
  (AclFrame.foldl_create_outside _ linksOutside .aff4Symlink now _).trans (AclFrame.notifyApprovers notify
    (outside.linked requestor approvalUrn linksOutside emailMsgId approvalCcAddress now) _ _ _)

/-- Past adding the approver, a grant writes only the delegate's user object, outside the namespace. -/
theorem grantedStore_frame (notify : Cells → Notification → Int → Cells) (grantor : ApprovalGrantor) (now : Int)
    (subjectTitle : String) (approvalUrn : RDFURN) (store : Store) :
    AclFrame (store.write approvalUrn (grantCells grantor.token.username now))
      (grantor.grantedStore notify now subjectTitle approvalUrn store) :=
  AclFrame.create_outside _ (users_not_inAcl _) _ _ _

/--
A request either raises with the store as it was, or makes its writes and then ends as its mail ends,
returning its approval URN unless sending the mail raises.
-/
theorem request_cases (notify : Cells → Notification → Int → Cells) (mailer : Mailer) (requestor : ApprovalRequestor)
    (idValue : Nat) (emailMsgId : String) (approvalCcAddress : Option String) (now : Int) (store : Store) :
    (∃ error, requestor.request notify mailer idValue emailMsgId approvalCcAddress now store = .error error store) ∨
      ∃ subjectTitle, requestor.request notify mailer idValue emailMsgId approvalCcAddress now store =
        sendApprovalEmail mailer (requestor.requestEmail (approvalId idValue) emailMsgId approvalCcAddress subjectTitle)
          (requestor.buildApprovalUrn (approvalId idValue))
          (requestor.requestedStore notify (requestor.buildApprovalUrn (approvalId idValue))
            (requestor.buildApprovalSymlinksUrns (approvalId idValue)) emailMsgId approvalCcAddress now subjectTitle
            store) := by
  -- Building the subject's title is the only step that can raise before the writes.
  unfold ApprovalRequestor.request
  cases buildSubjectTitle store requestor.kind requestor.subjectUrn with
  | error error => exact .inl ⟨error, rfl⟩
  | ok subjectTitle => exact .inr ⟨subjectTitle, rfl⟩

/--
While no user is in the `ACL` namespace, a request that returns has put its approval where
`GetApprovalForObject` and `Grant` look for it, a child listed under the subject's approvals for the
requesting user, with each attribute the request sets written at `now` beside what the URN held; every
other URN of the namespace keeps its cells.
-/
theorem request_lists_approval (notify : Cells → Notification → Int → Cells) (mailer : Mailer)
    (requestor : ApprovalRequestor) (idValue : Nat) (emailMsgId : String) (approvalCcAddress : Option String)
    (now : Int) (store store' : Store) (urn : RDFURN) (outside : UsersOutsideAcl store)
    (returned : requestor.request notify mailer idValue emailMsgId approvalCcAddress now store = .ok urn store') :
    urn = requestor.buildApprovalUrn (approvalId idValue) ∧
      urn ∈ store'.listChildren (approvalsRootUrn requestor.subjectUrn requestor.token.username) ∧
      store'.cells urn = { store.cells urn with
        type := (store.cells urn).type.add requestor.kind.approvalType now
        requestor := (store.cells urn).requestor.add requestor.token.username now
        approver := (store.cells urn).approver.add requestor.token.username now
        subject := (store.cells urn).subject.add requestor.subjectUrn now
        reason := (store.cells urn).reason.add requestor.reason now
        emailMsgId := (store.cells urn).emailMsgId.add emailMsgId now
        emailCc := (store.cells urn).emailCc.add
          (replyCc requestor.approver requestor.emailCcAddress approvalCcAddress) now
        notifiedUsers := (store.cells urn).notifiedUsers.add requestor.approver now } ∧
      ∀ other, InAcl other → other ≠ urn → store'.cells other = store.cells other := by
  rcases request_cases notify mailer requestor idValue emailMsgId approvalCcAddress now store with
    ⟨_, raised⟩ | ⟨subjectTitle, ended⟩
  · rw [raised] at returned
    cases returned
  rw [ended, sendApprovalEmail_ok_iff] at returned
  obtain ⟨rfl, rfl, -⟩ := returned
  -- The approval URN is the listed URN and the approval id, which creating it enters in the index.
  have below : (requestor.buildApprovalUrn (approvalId idValue)).components =
      (approvalsRootUrn requestor.subjectUrn requestor.token.username).components ++ [approvalId idValue] :=
    RDFURN.add_components_of_valid _ (approvalId_valid idValue)
  have onPath : Store.childOnPath (requestor.buildApprovalUrn (approvalId idValue))
      (approvalsRootUrn requestor.subjectUrn requestor.token.username) = some (approvalId idValue) := by
    simp [Store.childOnPath, below]
  have frame := requestedStore_frame notify requestor (requestor.buildApprovalUrn (approvalId idValue))
    (buildApprovalSymlinksUrns_outside requestor (approvalId idValue)) emailMsgId approvalCcAddress now subjectTitle
    outside
  refine ⟨rfl, (Store.mem_listChildren _ _ _).mpr ⟨approvalId idValue, frame.kept _ _ ?_, rfl⟩, ?_,
    fun other inAcl apart => ?_⟩
  · simp [Store.create, Store.mem_updateChildIndex_index, onPath]
  · rw [frame.cells (requestor.buildApprovalUrn (approvalId idValue)) (approvalUrnBuilder_inAcl _ _ _)]
    simp [Store.create, requestCells]
  · rw [frame.cells other inAcl]
    simp [Store.create, apart]

/-- Nothing is stored in an empty store, so no user is in the namespace. -/
theorem Store.empty_usersOutsideAcl : UsersOutsideAcl Store.empty := fun _ _ version newest => by
  cases newest

/-- `alice` asking `bob` for access to the hunt `H1`. -/
def huntRequestor : ApprovalRequestor :=
  ⟨.hunt, "triage", ApprovalKind.hunt.subjectUrn "H1", "bob", none, { username := "alice", reason := none }⟩

/-- `alice`'s request for the hunt `H1` on an empty store lists its approval under the user's approvals of the hunt. -/
theorem huntRequestor_lists_approval :
    UsersOutsideAcl Store.empty ∧
      ∃ urn store', huntRequestor.request (fun cells _ _ => cells) Mailer.disabled 3054 "msg" none 10 Store.empty =
        .ok urn store' ∧
      (urn = huntRequestor.buildApprovalUrn (approvalId 3054) ∧
        urn ∈ store'.listChildren (approvalsRootUrn huntRequestor.subjectUrn huntRequestor.token.username) ∧
        store'.cells urn = { Store.empty.cells urn with
          type := (Store.empty.cells urn).type.add huntRequestor.kind.approvalType 10
          requestor := (Store.empty.cells urn).requestor.add huntRequestor.token.username 10
          approver := (Store.empty.cells urn).approver.add huntRequestor.token.username 10
          subject := (Store.empty.cells urn).subject.add huntRequestor.subjectUrn 10
          reason := (Store.empty.cells urn).reason.add huntRequestor.reason 10
          emailMsgId := (Store.empty.cells urn).emailMsgId.add "msg" 10
          emailCc := (Store.empty.cells urn).emailCc.add
            (replyCc huntRequestor.approver huntRequestor.emailCcAddress none) 10
          notifiedUsers := (Store.empty.cells urn).notifiedUsers.add huntRequestor.approver 10 } ∧
        ∀ other, InAcl other → other ≠ urn → store'.cells other = Store.empty.cells other) :=
  ⟨Store.empty_usersOutsideAcl, _, _, rfl,
    request_lists_approval (fun cells _ _ => cells) Mailer.disabled _ _ _ _ _ _ _ _ Store.empty_usersOutsideAcl rfl⟩

end GrrAcl
