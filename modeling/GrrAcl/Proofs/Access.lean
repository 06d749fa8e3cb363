import GrrAcl.Proofs.Runs

/-! On the stores runs of requests and grants reach, `GetApprovalForObject` finds every approval that admits the user. -/

namespace GrrAcl

/-- An outcome `GetApprovalForObject` moves past when it is not a pass: every exception is `UnauthorizedAccess`. -/
def UnauthorizedOnly (outcome : Except Error ACLToken) : Prop :=
  ∀ error, outcome = .error error → ∃ message subject requestedAccess,
    error = .unauthorizedAccess message subject requestedAccess

/--
For an approval of the namespace whose URN decodes, the generic check refuses only with
`UnauthorizedAccess`, and passes once the decoded user is the token's and the approval is approved.
-/
theorem ApprovalWithApproversAndReason.checkAccess_of_decoded {config : Config} {store : Store}
    {approval : AFF4Object} {token : ACLToken} {now : Int} {rest user : String} {subject : RDFURN}
    (splitIs : approval.urn.split 2 = some ["ACL", rest])
    (decoded : inferUserAndSubjectFromUrn approval = .ok (user, subject)) :
    UnauthorizedOnly (ApprovalWithApproversAndReason.checkAccess config store approval token now) ∧
      (user = token.username →
        (breakGlassActive approval now = true ∨
          (config.approversRequired ≤ (getNonExpiredApprovers config approval now).length ∧
            ∀ label, checkedApproversLabel approval.aff4Type = some label →
              minApproversWithLabel ≤
                ((getNonExpiredApprovers config approval now).filter (approverHasLabel store label)).length)) →
        ∃ granted, ApprovalWithApproversAndReason.checkAccess config store approval token now = .ok granted) := by
  -- Past the namespace and the decoding, every test left raises `UnauthorizedAccess` or lets the token through.
  unfold ApprovalWithApproversAndReason.checkAccess
  simp only [splitIs, ne_eq, not_true_eq_false, if_false, decoded, bind, Except.bind]
  refine ⟨fun error raised => ?_, fun same approved => ?_⟩
  · -- The user's, the approvers' and the label's refusals are the only exceptions left.
    repeat' split at raised
    all_goals cases raised
    all_goals exact ⟨_, _, _, rfl⟩
  · rw [if_neg (not_not_intro same)]
    rcases approved with active | ⟨enough, labelled⟩
    · exact ⟨_, by rw [if_pos active]⟩
    split
    · exact ⟨_, rfl⟩
    rw [if_neg (by omega)]
    split
    · exact ⟨_, rfl⟩
    · rename_i label labelIs
      exact ⟨_, by rw [if_neg (by have := labelled label labelIs; omega)]⟩

/-- With label approvals switched off, a client approval is checked by the generic check alone. -/
theorem ClientApproval.checkAccess_of_inactive {config : Config} {auth : ClientApprovalAuthManager} {store : Store}
    {approval : AFF4Object} {token : ACLToken} {now : Int} (inactive : auth.isActive = false) :
    ClientApproval.checkAccess config auth store approval token now =
      ApprovalWithApproversAndReason.checkAccess config store approval token now := by
  unfold ClientApproval.checkAccess
  cases ApprovalWithApproversAndReason.checkAccess config store approval token now <;>
    simp [inactive, bind, Except.bind, pure, Except.pure]

/-- An approval whose URN its class decodes is checked by the generic check, label approvals switched off. -/
theorem checkAccess_of_decoded {config : Config} {auth : ClientApprovalAuthManager} {store : Store}
    {approval : AFF4Object} {token : ACLToken} {now : Int} {pair : String × RDFURN} (inactive : auth.isActive = false)
    (decoded : inferUserAndSubjectFromUrn approval = .ok pair) :
    checkAccess config auth store approval token now =
      ApprovalWithApproversAndReason.checkAccess config store approval token now := by
  -- Only the three concrete approval classes decode, and the abstract ones raise.
  cases type : approval.aff4Type <;> simp only [inferUserAndSubjectFromUrn, type, reduceCtorEq] at decoded <;>
    simp only [checkAccess, type]
  exact ClientApproval.checkAccess_of_inactive inactive

/-- When every check only passes or refuses, the loop returns a token as soon as some approval passes. -/
theorem approvalLoop_of_passes {check : AFF4Object → ACLToken → Except Error ACLToken} {username : String}
    {exhausted : Option Error → Except Error ACLToken} :
    ∀ {approvals : List AFF4Object} (lastError : Option Error),
      (∀ approval ∈ approvals, UnauthorizedOnly (check approval (testToken username approval))) →
      (∃ approval ∈ approvals, ∃ granted, check approval (testToken username approval) = .ok granted) →
        ∃ granted, approvalLoop check username exhausted approvals lastError = .ok granted
  | [], _, _, ⟨_, member, _⟩ => by cases member
  | approval :: rest, _, refusing, ⟨passing, member, granted, passed⟩ => by
    -- The head passes, or it is refused and the passing approval is further on.
    unfold approvalLoop
    cases headChecked : check approval (testToken username approval) with
    | ok token => exact ⟨token, rfl⟩
    | error error =>
      obtain ⟨message, subject, requestedAccess, rfl⟩ := refusing approval (List.mem_cons_self _ _) _ headChecked
      have later : passing ∈ rest := by
        rcases List.mem_cons.mp member with rfl | later
        · rw [headChecked] at passed
          cases passed
        · exact later
      exact approvalLoop_of_passes _ (fun other member => refusing other (List.mem_cons_of_mem _ member))
        ⟨passing, later, granted, passed⟩

/-- The approval of a well-formed request is in the namespace, and its class decodes it to the request's user. -/
theorem ApprovalRequestor.WellFormed.decoded {requestor : ApprovalRequestor} (wellFormed : requestor.WellFormed)
    (value : Nat) {approval : AFF4Object} (urnIs : approval.urn = requestor.buildApprovalUrn (approvalId value))
    (typeIs : approval.aff4Type = requestor.kind.approvalType) :
    (∃ rest, approval.urn.split 2 = some ["ACL", rest]) ∧
      ∃ subject, inferUserAndSubjectFromUrn approval = .ok (requestor.token.username, subject) := by
  obtain ⟨⟨subjectId, named, subjectIs⟩, userValid⟩ := wellFormed
  obtain ⟨urn, symlinkUrn, aff4Type, cells⟩ := approval
  dsimp only at urnIs typeIs
  subst urnIs typeIs
  obtain ⟨-, split, decoded⟩ := requestor.buildApprovalUrn_decoded value named subjectIs userValid symlinkUrn cells
  exact ⟨split, _, decoded⟩

/--
What lets an approval admit `user` at `now`: its URN decodes to the user, and it is under unexpired
break-glass access or approved by enough distinct non-expired users, enough of them carrying the label
its class asks for.
-/
structure Admits (config : Config) (store : Store) (now : Int) (user : String) (approval : AFF4Object) : Prop where
  /-- The approval's class decodes its URN to the user. -/
  decoded : ∃ subject, inferUserAndSubjectFromUrn approval = .ok (user, subject)
  /-- Break-glass access, or enough approvers with the label the class asks for. -/
  approved : breakGlassActive approval now = true ∨
    (config.approversRequired ≤ (nonExpiredApprovers config approval now).card ∧
      ∀ label, checkedApproversLabel approval.aff4Type = some label →
        minApproversWithLabel ≤ ((nonExpiredApprovers config approval now).filter (approverHasLabel store label ·)).card)

/-- A token comes only through a listed approval that admits the effective user. -/
theorem admits_of_getApprovalForObject {config : Config} {auth : ClientApprovalAuthManager} {store : Store}
    {now : Int} {objectUrn : RDFURN} {token : ACLToken} {username : String} {granted : ACLToken}
    (returned : getApprovalForObject config auth store now objectUrn (some token) username = .ok granted) :
    ∃ approval ∈ store.multiOpen (store.listChildren
        (approvalsRootUrn objectUrn (if username = "" then token.username else username))) (some .approval) .allTimes,
      Admits config store now (if username = "" then token.username else username) approval := by
  -- The approval whose check passed admits the user, since passing asks what admitting does.
  obtain ⟨approval, member, passed⟩ := getApprovalForObject_ok returned
  obtain ⟨-, decoded, outcome⟩ := ApprovalWithApproversAndReason.checkAccess_ok (checkAccess_ok passed)
  refine ⟨approval, member, decoded, ?_⟩
  rcases outcome with ⟨active, -⟩ | ⟨-, enough, labelled⟩
  · exact .inl active
  · rw [← getNonExpiredApprovers_length]
    exact .inr ⟨enough, fun label labelIs => by
      rw [← getNonExpiredApprovers_filter_length]
      exact labelled label labelIs⟩

/--
On a store whose namespace holds only approvals of well-formed requests, with label approvals switched
off, a listed approval that admits the effective user gives a token.
-/
theorem getApprovalForObject_of_admits {requests : List (ApprovalRequestor × Nat)} {store : Store}
    (invariant : AclInvariant requests store) (wellFormed : ∀ request ∈ requests, request.1.WellFormed)
    {config : Config} {auth : ClientApprovalAuthManager} (inactive : auth.isActive = false) {now : Int}
    {objectUrn : RDFURN} {token : ACLToken} {username : String}
    (admitted : ∃ approval ∈ store.multiOpen (store.listChildren
        (approvalsRootUrn objectUrn (if username = "" then token.username else username))) (some .approval) .allTimes,
      Admits config store now (if username = "" then token.username else username) approval) :
    ∃ granted, getApprovalForObject config auth store now objectUrn (some token) username = .ok granted := by
  obtain ⟨approval, member, ⟨subject, decoded⟩, approved⟩ := admitted
  simp only [getApprovalForObject]
  generalize (if username = "" then token.username else username) = user at member decoded approved ⊢
  have nonempty : store.listChildren (approvalsRootUrn objectUrn user) ≠ [] := fun empty => by
    simp [empty, Store.multiOpen] at member
  rw [if_neg nonempty]
  -- Each listed approval is in the namespace and decodes, as the approval of a well-formed request.
  have checked : ∀ other ∈ store.multiOpen (store.listChildren (approvalsRootUrn objectUrn user))
      (some .approval) .allTimes, ∃ rest pair, other.urn.split 2 = some ["ACL", rest] ∧
        inferUserAndSubjectFromUrn other = .ok pair := fun other listed => by
    obtain ⟨-, -, request, made, -, urnIs, typeIs⟩ := invariant.listed listed
    obtain ⟨⟨rest, splitIs⟩, _, otherDecoded⟩ := (wellFormed request made).decoded request.2 urnIs typeIs
    exact ⟨rest, _, splitIs, otherDecoded⟩
  -- So its check only passes or refuses, and the admitting one passes.
  refine approvalLoop_of_passes none (fun other listed => ?_) ⟨approval, member, ?_⟩
  · obtain ⟨rest, pair, splitIs, otherDecoded⟩ := checked other listed
    rw [checkAccess_of_decoded inactive otherDecoded]
    exact (ApprovalWithApproversAndReason.checkAccess_of_decoded splitIs otherDecoded).1
  · obtain ⟨rest, pair, splitIs, -⟩ := checked approval member
    rw [checkAccess_of_decoded inactive decoded]
    refine (ApprovalWithApproversAndReason.checkAccess_of_decoded splitIs decoded).2 rfl ?_
    rw [getNonExpiredApprovers_length]
    exact approved.imp id fun ⟨enough, labelled⟩ => ⟨enough, fun label labelIs => by
      rw [getNonExpiredApprovers_filter_length]
      exact labelled label labelIs⟩

/--
On every store a run of requests and grants reaches from a store with nothing in the `ACL` namespace,
with label approvals switched off, `GetApprovalForObject` returns a token exactly when one of the
approvals it lists for the object and the effective user admits that user.
-/
theorem getApprovalForObject_iff_admits (notify : Cells → Notification → Int → Cells) (operations : List Operation)
    (initial : Store) (clean : AclInvariant [] initial)
    (wellFormed : ∀ request ∈ operations.flatMap Operation.requested, request.1.WellFormed)
    (config : Config) (auth : ClientApprovalAuthManager) (inactive : auth.isActive = false) (now : Int)
    (objectUrn : RDFURN) (token : ACLToken) (username : String) :
    (∃ granted, getApprovalForObject config auth (runOperations notify operations initial) now objectUrn (some token)
        username = .ok granted) ↔
      ∃ approval ∈ (runOperations notify operations initial).multiOpen
          ((runOperations notify operations initial).listChildren
            (approvalsRootUrn objectUrn (if username = "" then token.username else username))) (some .approval) .allTimes,
        Admits config (runOperations notify operations initial) now (if username = "" then token.username else username)
          approval := by
  have invariant : AclInvariant (operations.flatMap Operation.requested) (runOperations notify operations initial) := by
    simpa using clean.runOperations notify operations
  exact ⟨fun ⟨_, returned⟩ => admits_of_getApprovalForObject returned,
    getApprovalForObject_of_admits invariant wellFormed inactive⟩

/-- The one request of `alice`'s run is well formed. -/
theorem aliceRequest_wellFormed :
    ∀ request ∈ [Operation.request aliceHuntRequestor 1 "msg" none 10].flatMap Operation.requested,
      request.1.WellFormed := fun request made => by
  simp only [List.flatMap, Operation.requested, List.map, List.flatten, List.append_nil, List.mem_singleton] at made
  exact made ▸ aliceHuntRequestor_wellFormed

/-- After `alice`'s request alone, access of `alice` to the hunt comes exactly from an approval that admits that user. -/
theorem getApprovalForObject_iff_admits_alice :
    AclInvariant [] adminStore ∧
      (∀ request ∈ [Operation.request aliceHuntRequestor 1 "msg" none 10].flatMap Operation.requested,
        request.1.WellFormed) ∧
      (⟨false, fun _ _ _ _ _ => .ok ()⟩ : ClientApprovalAuthManager).isActive = false ∧
      ((∃ granted, getApprovalForObject ⟨1, 100⟩ ⟨false, fun _ _ _ _ _ => .ok ()⟩
          (runOperations (fun cells _ _ => cells) [Operation.request aliceHuntRequestor 1 "msg" none 10] adminStore)
          20 ((rootUrn.add "hunts").add "H1") (some { username := "alice", reason := none }) "" = .ok granted) ↔
        ∃ approval ∈ (runOperations (fun cells _ _ => cells) [Operation.request aliceHuntRequestor 1 "msg" none 10]
            adminStore).multiOpen ((runOperations (fun cells _ _ => cells)
              [Operation.request aliceHuntRequestor 1 "msg" none 10] adminStore).listChildren
                (approvalsRootUrn ((rootUrn.add "hunts").add "H1")
                  (if "" = "" then ({ username := "alice", reason := none } : ACLToken).username else "")))
            (some .approval) .allTimes,
          Admits ⟨1, 100⟩ (runOperations (fun cells _ _ => cells) [Operation.request aliceHuntRequestor 1 "msg" none 10]
            adminStore) 20 (if "" = "" then ({ username := "alice", reason := none } : ACLToken).username else "")
            approval) :=
  ⟨adminStore_clean, aliceRequest_wellFormed, rfl,
    getApprovalForObject_iff_admits _ _ _ adminStore_clean aliceRequest_wellFormed _ ⟨false, fun _ _ _ _ _ => .ok ()⟩
      rfl _ _ _ _⟩

end GrrAcl
