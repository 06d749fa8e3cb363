import GrrAcl.Proofs.Access

/-! On the stores runs of requests and grants reach, `Grant` adds its approver to the newest approval of its reason. -/

namespace GrrAcl

/-- The components a kind's subjects begin with: none for a client, `hunts` or `cron` for the others. -/
def ApprovalKind.subjectPrefix : ApprovalKind → List String
  | .client => []
  | .hunt => ["hunts"]
  | .cronJob => ["cron"]

/-- A kind's subject is its prefix and then the id, a single component. -/
theorem ApprovalKind.subjectUrn_components {kind : ApprovalKind} {subjectId : String}
    (named : kind.SubjectId subjectId) :
    (kind.subjectUrn subjectId).components = kind.subjectPrefix ++ [subjectId] := by
  cases kind
  · simp [subjectUrn, subjectPrefix, validateClientId_valid named]
  all_goals simp [subjectUrn, subjectPrefix, show ValidComponent "hunts" by decide,
    show ValidComponent "cron" by decide, show ValidComponent subjectId from named]

/-- Two kinds' subjects of well-formed ids differ, their prefixes being different. -/
theorem ApprovalKind.eq_of_subjectUrn {kind other : ApprovalKind} {subjectId otherId : String}
    (named : kind.SubjectId subjectId) (otherNamed : other.SubjectId otherId)
    (same : kind.subjectUrn subjectId = other.subjectUrn otherId) : kind = other := by
  have layout := congrArg RDFURN.components same
  rw [subjectUrn_components named, subjectUrn_components otherNamed] at layout
  have prefixes := List.append_inj_left' layout rfl
  cases kind <;> cases other <;> first | rfl | simp [subjectPrefix] at prefixes

/-- A grantor whose subject is of its kind and named by an id of the kind, and whose delegate is one component. -/
def ApprovalGrantor.WellFormed (grantor : ApprovalGrantor) : Prop :=
  (∃ subjectId, grantor.kind.SubjectId subjectId ∧ grantor.subjectUrn = grantor.kind.subjectUrn subjectId) ∧
    ValidComponent grantor.delegate

/-- Every object of the namespace that has a class has a reason. -/
def ReasonsSet (store : Store) : Prop :=
  ∀ urn, InAcl urn → (store.cells urn).type.newest.isSome → (store.cells urn).reason.newest.isSome

namespace ReasonsSet

variable {store : Store}

/-- A store with nothing in the namespace has every reason it needs. -/
theorem of_clean (clean : AclInvariant [] store) : ReasonsSet store := fun urn inAcl typed => by
  obtain ⟨version, newest⟩ := Option.isSome_iff_exists.mp typed
  obtain ⟨_, made, _⟩ := clean.approvals urn version inAcl newest
  cases made

/-- Changes outside the namespace keep every reason. -/
theorem frame (reasons : ReasonsSet store) {store' : Store} (framed : AclFrame store store') : ReasonsSet store' := by
  intro urn inAcl typed
  rw [framed.cells urn inAcl] at typed ⊢
  exact reasons urn inAcl typed

/-- A write that keeps the class and the reason keeps every reason. -/
theorem write (reasons : ReasonsSet store) (urn : RDFURN) {update : Cells → Cells}
    (keeps : ∀ cells, (update cells).type = cells.type ∧ (update cells).reason = cells.reason) :
    ReasonsSet (store.write urn update) := by
  intro other inAcl typed
  by_cases same : other = urn
  · subst same
    simp only [Store.write_cells_self, (keeps _).1, (keeps _).2] at typed ⊢
    exact reasons other inAcl typed
  · simp only [Store.write_cells_other _ _ same] at typed ⊢
    exact reasons other inAcl typed

/-- Creating an object with a reason keeps every reason. -/
theorem create (reasons : ReasonsSet store) (urn : RDFURN) (aff4Type : AFF4Type) (now : Int) {update : Cells → Cells}
    (reasoned : ∀ cells, (update cells).reason.newest.isSome) : ReasonsSet (store.create urn aff4Type now update) := by
  intro other inAcl typed
  by_cases same : other = urn
  · subst same
    simp only [Store.create, Store.write_cells_self]
    exact reasoned _
  · simp only [Store.create, Store.write_cells_other _ _ same, Store.updateChildIndex_cells] at typed ⊢
    exact reasons other inAcl typed

/-- One operation keeps every reason: a request writes its approval's, and a grant only adds an approver. -/
theorem apply (reasons : ReasonsSet store) {requests : List (ApprovalRequestor × Nat)}
    (invariant : AclInvariant requests store) (notify : Cells → Notification → Int → Cells) (operation : Operation) :
    ReasonsSet (operation.apply notify store) := by
  cases operation with
  | request requestor idValue emailMsgId approvalCcAddress now =>
    rcases apply_request notify requestor idValue emailMsgId approvalCcAddress now store with same | ⟨_, returned⟩
    · rw [same]
      exact reasons
    · rw [returned]
      refine frame ?_ (requestedStore_frame notify requestor _ (buildApprovalSymlinksUrns_outside requestor _) _ _ _ _
        invariant.usersOutsideAcl)
      exact reasons.create _ _ now fun _ => History.newest_add_isSome _ _ _
  | grant grantor now =>
    rcases apply_grant notify grantor now store with same | ⟨approval, -, _, returned⟩
    · rw [same]
      exact reasons
    · rw [returned]
      refine frame ?_ (grantedStore_frame notify grantor now _ approval.urn store)
      exact reasons.write approval.urn fun _ => ⟨rfl, rfl⟩

/-- Every run from a store of the invariant keeps every reason. -/
theorem runOperations (reasons : ReasonsSet store) {requests : List (ApprovalRequestor × Nat)}
    (invariant : AclInvariant requests store) (notify : Cells → Notification → Int → Cells)
    (operations : List Operation) : ReasonsSet (GrrAcl.runOperations notify operations store) := by
  induction operations generalizing requests store with
  | nil => exact reasons
  | cons operation rest carried =>
    exact carried (reasons.apply invariant notify operation) (invariant.apply notify operation)

end ReasonsSet

/--
An approval listed under a well-formed subject of a kind and a one-component user, on a store of the
invariant, is the approval of a request of that kind, subject and user.
-/
theorem AclInvariant.listed_of_subject {requests : List (ApprovalRequestor × Nat)} {store : Store}
    (invariant : AclInvariant requests store) (wellFormed : ∀ request ∈ requests, request.1.WellFormed)
    {kind : ApprovalKind} {subjectId user : String} {age : Age} {approval : AFF4Object}
    (named : kind.SubjectId subjectId) (userValid : ValidComponent user)
    (member : approval ∈ store.multiOpen (store.listChildren (approvalsRootUrn (kind.subjectUrn subjectId) user))
      (some .approval) age) :
    ∃ request ∈ requests, request.1.kind = kind ∧ request.1.subjectUrn = kind.subjectUrn subjectId ∧
      request.1.token.username = user ∧ approval.urn = request.1.buildApprovalUrn (approvalId request.2) ∧
      approval.aff4Type = kind.approvalType := by
  obtain ⟨name, indexed, request, made, urnIs, location, typeIs⟩ := invariant.listed member
  obtain ⟨⟨requestId, requestNamed, subjectIs⟩, requestUserValid⟩ := wellFormed request made
  -- Below the namespace both URNs are a subject, a user and one more component, so the two agree.
  have layout := congrArg RDFURN.components (urnIs.symm.trans location)
  rw [RDFURN.add_components_of_valid _ (invariant.index _ name indexed), approvalsRootUrn_components _ userValid,
    ApprovalRequestor.buildApprovalUrn,
    approvalUrnBuilder_components _ requestUserValid (approvalId_valid request.2)] at layout
  simp only [List.cons_append, List.cons.injEq, true_and, List.append_assoc, List.singleton_append] at layout
  have sameSubject := RDFURN.eq_of_components (List.append_inj_left' layout rfl)
  have sameUser : user = request.1.token.username := (List.cons.inj (List.append_inj_right' layout rfl)).1
  have sameKind := ApprovalKind.eq_of_subjectUrn requestNamed named (subjectIs.symm.trans sameSubject.symm)
  exact ⟨request, made, sameKind, sameSubject.symm, sameUser.symm, location, sameKind ▸ typeIs⟩

/--
An approval listed on a store of the invariant is in the namespace, loads from its own URN, and that
URN's newest class is the approval's, which is not a symlink.
-/
theorem AclInvariant.listed_loads {requests : List (ApprovalRequestor × Nat)} {store : Store}
    (invariant : AclInvariant requests store) {objectUrn : RDFURN} {user : String} {age : Age}
    {approval : AFF4Object}
    (member : approval ∈ store.multiOpen (store.listChildren (approvalsRootUrn objectUrn user)) (some .approval) age) :
    InAcl approval.urn ∧ store.load approval.urn age = some approval ∧
      ∃ version, (store.cells approval.urn).type.newest = some version ∧ version.value = approval.aff4Type ∧
        version.value ≠ .aff4Symlink := by
  obtain ⟨child, listed, opened⟩ := (Store.mem_multiOpen _ _ _ _ _).mp member
  obtain ⟨name, -, rfl⟩ := (Store.mem_listChildren _ _ _).mp listed
  have inAcl := approvalUrnBuilder_inAcl objectUrn.path user name
  obtain ⟨version, newest, itself⟩ := Store.open_ok_type opened
  -- A class in the namespace is a request's approval class, never the symlink class.
  obtain ⟨_, _, _, typeIs⟩ := invariant.approvals _ version inAcl newest
  have notLink : version.value ≠ .aff4Symlink := typeIs ▸ approvalType_ne_symlink _
  obtain ⟨urnIs, aff4TypeIs⟩ := itself notLink
  rw [urnIs]
  exact ⟨inAcl, Store.open_ok_load opened newest notLink, version, newest, aff4TypeIs.symm, notLink⟩

/-- What a grant does on a store where every approval it lists has a reason and opens again as itself. -/
structure GrantsNewest (notify : Cells → Notification → Int → Cells) (mailer : Mailer) (grantor : ApprovalGrantor)
    (now : Int) (store : Store) : Prop where
  /-- With no approval of the grant's reason listed, the grant is refused and the store is as it was. -/
  refused : (∀ approval ∈ grantor.listedApprovals store, reasonAge grantor.reason approval = none) →
    grantor.grant notify mailer now store = .error (.unauthorizedAccess
      (if store.listChildren (approvalsRootUrn grantor.subjectUrn grantor.delegate) = [] then
        "No approval found for user " ++ grantor.token.username
      else "No approval with reason '" ++ grantor.reason ++ "' found for user " ++ grantor.token.username)
      (some grantor.subjectUrn) (some "?")) store
  /-- When the subject's title does not build, the grant raises that, and the store is as it was. -/
  untitled : ∀ approval error, approvalToGrant grantor.reason (grantor.listedApprovals store) = some approval →
    buildSubjectTitle store grantor.kind grantor.subjectUrn = .error error →
    grantor.grant notify mailer now store = .error error store
  /--
  Otherwise the approval to grant is in the namespace, and the grant adds the approver to it and notifies
  the delegate; it then returns the approval's URN, unless approval mails are on and sending the mail
  over that approval raises: then that is raised, the writes made.
  -/
  granted : ∀ approval subjectTitle, approvalToGrant grantor.reason (grantor.listedApprovals store) = some approval →
    buildSubjectTitle store grantor.kind grantor.subjectUrn = .ok subjectTitle →
    InAcl approval.urn ∧ ∃ store', GrantWrites notify grantor now subjectTitle approval.urn store store' ∧
      (grantor.grant notify mailer now store = .ok approval.urn store' ↔
        mailer.sendApprovalEmails = false ∨ mailer.sendEmail (grantor.grantEmail subjectTitle approval) = .ok ()) ∧
      ∀ error, grantor.grant notify mailer now store = .error error store' ↔
        mailer.sendApprovalEmails = true ∧ mailer.sendEmail (grantor.grantEmail subjectTitle approval) = .error error

/--
On every store a run of requests and grants reaches from a store with nothing in the `ACL` namespace, a
well-formed grantor finds every approval it lists with a reason and opening again as itself, so `Grant`
refuses only when no approval has the reason, raises before writing when the title does not build, and
otherwise adds the approver to the approval to grant and ends as its mail ends.
-/
theorem grant_grantsNewest (notify : Cells → Notification → Int → Cells) (mailer : Mailer) (operations : List Operation)
    (initial : Store) (clean : AclInvariant [] initial)
    (wellFormed : ∀ request ∈ operations.flatMap Operation.requested, request.1.WellFormed)
    (grantor : ApprovalGrantor) (grantorWellFormed : grantor.WellFormed) (now : Int) :
    GrantsNewest notify mailer grantor now (runOperations notify operations initial) := by
  have invariant : AclInvariant (operations.flatMap Operation.requested) (runOperations notify operations initial) := by
    simpa using clean.runOperations notify operations
  have reasons := (ReasonsSet.of_clean clean).runOperations clean notify operations
  generalize runOperations notify operations initial = store at invariant reasons ⊢
  obtain ⟨⟨subjectId, named, subjectIs⟩, delegateValid⟩ := grantorWellFormed
  -- Each listed approval is a request's of the grantor's kind, in the namespace with a reason, and opens as itself.
  have listed : ∀ approval ∈ grantor.listedApprovals store, approval.cells.reason.newest.isSome ∧
      InAcl approval.urn ∧ store.open approval.urn (some grantor.kind.approvalType) .newestTime = .ok approval := by
    intro approval member
    rw [ApprovalGrantor.listedApprovals, subjectIs] at member
    obtain ⟨inAcl, loaded, version, newest, typeIs, notLink⟩ := invariant.listed_loads member
    obtain ⟨_, _, _, _, _, _, kindType⟩ := invariant.listed_of_subject wellFormed named delegateValid member
    refine ⟨?_, inAcl, Store.open_of_load loaded (typeIs ▸ notLink) (by rw [kindType, AFF4Type.isinstance_self])⟩
    rw [Store.load_reason loaded]
    exact reasons _ inAcl (by rw [newest]; rfl)
  have reasonsRead : ∀ approval ∈ grantor.listedApprovals store,
      approval.cells.reason.newest = none → grantor.reason ≠ "None" :=
    fun approval member missing => absurd (listed approval member).1 (by simp [missing])
  refine ⟨ApprovalGrantor.grant_refused reasonsRead,
    fun _ _ chosen untitled => ApprovalGrantor.grant_untitled reasonsRead chosen untitled,
    fun approval subjectTitle chosen titled => ?_⟩
  obtain ⟨-, inAcl, opens⟩ := listed approval (approvalToGrant_mem chosen)
  exact ⟨inAcl, ApprovalGrantor.grant_outcome (ApprovalGrantor.grant_of_chosen reasonsRead chosen titled opens)⟩

/-- `bob`'s grant of `alice`'s hunt approval is a well-formed grantor's. -/
theorem huntGrantor_wellFormed : huntGrantor.WellFormed :=
  ⟨⟨"H1", by decide, rfl⟩, by decide⟩

/-- After `alice`'s request alone, `bob`'s grant finds the approval `alice` asked for, the mail server unreachable. -/
theorem huntGrantor_grantsNewest :
    AclInvariant [] adminStore ∧
      (∀ request ∈ [Operation.request aliceHuntRequestor 1 "msg" none 10].flatMap Operation.requested,
        request.1.WellFormed) ∧
      huntGrantor.WellFormed ∧
      GrantsNewest (fun cells _ _ => cells) unreachableMailer huntGrantor 30
        (runOperations (fun cells _ _ => cells) [Operation.request aliceHuntRequestor 1 "msg" none 10] adminStore) :=
  ⟨adminStore_clean, aliceRequest_wellFormed, huntGrantor_wellFormed,
    grant_grantsNewest _ _ _ _ adminStore_clean aliceRequest_wellFormed _ huntGrantor_wellFormed _⟩

end GrrAcl
