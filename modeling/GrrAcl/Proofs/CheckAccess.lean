import GrrAcl.Security.Approval
import Mathlib.Data.Finset.Card

/-! A token comes back from `GetApprovalForObject` only through an approval that passes every check made on it. -/

namespace GrrAcl

/-- The distinct users among an approval's grants that are younger than its lifetime at `now`. -/
def nonExpiredApprovers (config : Config) (approval : AFF4Object) (now : Int) : Finset String :=
  ((approval.cells.approver.versions.filter fun version =>
    now < plusDuration version.age (lifetimeOf config approval)).map (·.value)).toFinset

/-- Adding kept names to a set one at a time leaves a list without repeats holding exactly the kept names. -/
theorem foldl_insert_spec (keep : Versioned String → Prop) [DecidablePred keep] :
    ∀ (versions : List (Versioned String)) (approvers : List String), approvers.Nodup →
      (versions.foldl (fun approvers approver =>
        if keep approver then approvers.insert approver.value else approvers) approvers).Nodup ∧
      ∀ name, name ∈ versions.foldl (fun approvers approver =>
          if keep approver then approvers.insert approver.value else approvers) approvers ↔
        name ∈ approvers ∨ name ∈ (versions.filter (keep ·)).map (·.value)
  | [], approvers, distinct => by simpa using distinct
  | version :: rest, approvers, distinct => by
    -- A kept version is inserted, which keeps the list free of repeats, and the rest follow.
    simp only [List.foldl_cons]
    by_cases kept : keep version
    · obtain ⟨nodup, mem⟩ := foldl_insert_spec keep rest _ distinct.insert
      refine ⟨by simpa [kept] using nodup, fun name => ?_⟩
      simpa [kept, mem, List.filter_cons, or_assoc] using or_left_comm
    · obtain ⟨nodup, mem⟩ := foldl_insert_spec keep rest _ distinct
      refine ⟨by simpa [kept] using nodup, fun name => ?_⟩
      simp [kept, mem, List.filter_cons]

/-- The collected approvers are the distinct non-expired ones, each listed once. -/
theorem collectApprovers_spec (config : Config) (approval : AFF4Object) (now : Int) :
    (collectApprovers config approval now).Nodup ∧
      (collectApprovers config approval now).toFinset = nonExpiredApprovers config approval now := by
  obtain ⟨nodup, mem⟩ := foldl_insert_spec
    (fun version => now < plusDuration version.age (lifetimeOf config approval))
    approval.cells.approver.versions [] List.nodup_nil
  exact ⟨nodup, by ext name; simp [collectApprovers, nonExpiredApprovers, mem]⟩

/-- Counting the non-expired approvers counts distinct users. -/
theorem getNonExpiredApprovers_length (config : Config) (approval : AFF4Object) (now : Int) :
    (getNonExpiredApprovers config approval now).length = (nonExpiredApprovers config approval now).card := by
  obtain ⟨nodup, same⟩ := collectApprovers_spec config approval now
  rw [← same, List.toFinset_card_of_nodup nodup]
  rfl

/-- Counting the non-expired approvers that pass a test counts distinct users that pass it. -/
theorem getNonExpiredApprovers_filter_length (config : Config) (approval : AFF4Object) (now : Int)
    (keep : String → Bool) :
    ((getNonExpiredApprovers config approval now).filter keep).length =
      ((nonExpiredApprovers config approval now).filter (keep ·)).card := by
  obtain ⟨nodup, same⟩ := collectApprovers_spec config approval now
  rw [← same, ← List.toFinset_filter, List.toFinset_card_of_nodup (nodup.filter _)]
  rfl

/-- Break-glass access is on when a break-glass date is stored that is not zero and lies ahead. -/
theorem breakGlassActive_eq_true {approval : AFF4Object} {now : Int} :
    breakGlassActive approval now = true ↔
      ∃ date, approval.cells.breakGlass.newest = some date ∧ date.value ≠ 0 ∧ now < date.value := by
  unfold breakGlassActive
  split <;> simp_all

/-- A URN that splits into two parts begins with the first of them. -/
theorem split_two_head {urn : RDFURN} {first rest : String} (splitIs : urn.split 2 = some [first, rest]) :
    urn.components.head? = some first := by
  rcases components : urn.components with _ | ⟨head, tail⟩
  · simp [RDFURN.split, components] at splitIs
  · simp [RDFURN.split, components] at splitIs
    simp [splitIs.2.1]

/--
What passing `ApprovalWithApproversAndReason.CheckAccess` takes: an `ACL` URN decoded to the token's user,
then either break-glass access or enough non-expired approvers, with the label the class asks for.
-/
theorem ApprovalWithApproversAndReason.checkAccess_ok {config : Config} {store : Store}
    {approval : AFF4Object} {token granted : ACLToken} {now : Int}
    (passed : ApprovalWithApproversAndReason.checkAccess config store approval token now = .ok granted) :
    (∃ rest, approval.urn.split 2 = some ["ACL", rest]) ∧
      (∃ subject, inferUserAndSubjectFromUrn approval = .ok (token.username, subject)) ∧
      ((breakGlassActive approval now = true ∧ granted = { token with isEmergency := true }) ∨
        (granted = token ∧ config.approversRequired ≤ (getNonExpiredApprovers config approval now).length ∧
          ∀ label, checkedApproversLabel approval.aff4Type = some label →
            minApproversWithLabel ≤
              ((getNonExpiredApprovers config approval now).filter (approverHasLabel store label)).length)) := by
  -- Each test of the check either raises or narrows down what the approval is.
  unfold ApprovalWithApproversAndReason.checkAccess at passed
  split at passed
  case h_2 => cases passed
  rename_i urnNamespace rest splitIs
  obtain rfl : urnNamespace = "ACL" := by
    by_contra other
    rw [if_pos other] at passed
    cases passed
  rw [if_neg (not_not_intro rfl)] at passed
  cases inferred : inferUserAndSubjectFromUrn approval with
  | error error => simp [inferred, bind, Except.bind] at passed
  | ok pair =>
    obtain ⟨user, subjectUrn⟩ := pair
    simp only [inferred, bind, Except.bind] at passed
    obtain rfl : user = token.username := by
      by_contra other
      rw [if_pos other] at passed
      cases passed
    rw [if_neg (not_not_intro rfl)] at passed
    refine ⟨⟨rest, splitIs⟩, ⟨subjectUrn, rfl⟩, ?_⟩
    split at passed
    · exact .inl ⟨‹_›, (Except.ok.inj passed).symm⟩
    split at passed
    · cases passed
    -- Enough approvers; a class with a label then needs enough of them to carry it.
    rename_i enough
    split at passed
    · rename_i noLabel
      exact .inr ⟨(Except.ok.inj passed).symm, by omega, fun _ labelIs => by simp [noLabel] at labelIs⟩
    · rename_i label labelIs
      split at passed
      · cases passed
      refine .inr ⟨(Except.ok.inj passed).symm, by omega, fun other otherIs => ?_⟩
      obtain rfl : label = other := Option.some.inj (labelIs.symm.trans otherIs)
      omega

/-- The client check passes only once the generic check has, and returns the token that check left. -/
theorem ClientApproval.checkAccess_ok {config : Config} {auth : ClientApprovalAuthManager} {store : Store}
    {approval : AFF4Object} {token granted : ACLToken} {now : Int}
    (passed : ClientApproval.checkAccess config auth store approval token now = .ok granted) :
    ApprovalWithApproversAndReason.checkAccess config store approval token now = .ok granted := by
  unfold ClientApproval.checkAccess at passed
  cases generic : ApprovalWithApproversAndReason.checkAccess config store approval token now with
  | error error => simp [generic, bind, Except.bind] at passed
  | ok checked =>
    simp only [generic, bind, Except.bind] at passed
    -- Every path past the generic check either raises or returns the token it left.
    cases active : auth.isActive
    · simpa [active, pure, Except.pure] using passed
    · cases labels : ClientApproval.checkClientLabels config auth store approval checked now
      · simp [active, labels, bind, Except.bind, pure, Except.pure] at passed
      · simpa [active, labels, bind, Except.bind, pure, Except.pure] using passed

/-- Any approval class passes `CheckAccess` only through the generic check. -/
theorem checkAccess_ok {config : Config} {auth : ClientApprovalAuthManager} {store : Store}
    {approval : AFF4Object} {token granted : ACLToken} {now : Int}
    (passed : checkAccess config auth store approval token now = .ok granted) :
    ApprovalWithApproversAndReason.checkAccess config store approval token now = .ok granted := by
  -- The abstract `Approval` and the classes outside the hierarchy raise.
  unfold checkAccess at passed
  split at passed
  · exact ClientApproval.checkAccess_ok passed
  all_goals first | exact passed | cases passed

/-- The loop returns a token only from an approval whose check passed with it. -/
theorem approvalLoop_ok {check : AFF4Object → ACLToken → Except Error ACLToken} {username : String}
    {exhausted : Option Error → Except Error ACLToken} :
    ∀ {approvals : List AFF4Object} {lastError : Option Error} {granted : ACLToken},
      approvalLoop check username exhausted approvals lastError = .ok granted →
      (∀ lastError, ∃ error, exhausted lastError = .error error) →
        ∃ approval ∈ approvals, check approval (testToken username approval) = .ok granted
  | [], lastError, granted, returned, refuses => by
    obtain ⟨error, refused⟩ := refuses lastError
    simp [approvalLoop, refused] at returned
  | approval :: rest, _, granted, returned, refuses => by
    -- The head either passes, is refused and the loop goes on, or raises.
    unfold approvalLoop at returned
    split at returned
    · rename_i passed
      exact ⟨approval, by simp, by rw [passed, returned]⟩
    · obtain ⟨other, member, passed⟩ := approvalLoop_ok returned refuses
      exact ⟨other, by simp [member], passed⟩
    · cases returned

/-- `GetApprovalForObject` returns only the test token of a listed approval whose check passed with it. -/
theorem getApprovalForObject_ok {config : Config} {auth : ClientApprovalAuthManager} {store : Store} {now : Int}
    {objectUrn : RDFURN} {token : ACLToken} {username : String} {granted : ACLToken}
    (returned : getApprovalForObject config auth store now objectUrn (some token) username = .ok granted) :
    ∃ approval ∈ store.multiOpen (store.listChildren
        (approvalsRootUrn objectUrn (if username = "" then token.username else username))) (some .approval) .allTimes,
      checkAccess config auth store approval
        (testToken (if username = "" then token.username else username) approval) now = .ok granted := by
  simp only [getApprovalForObject] at returned
  generalize (if username = "" then token.username else username) = user at returned ⊢
  by_cases empty : store.listChildren (approvalsRootUrn objectUrn user) = []
  · rw [if_pos empty] at returned
    cases returned
  · -- Every way the loop runs out raises, so a token comes from an approval whose check passed.
    rw [if_neg empty] at returned
    exact approvalLoop_ok returned fun lastError => by cases lastError <;> exact ⟨_, rfl⟩

/--
What an approval shows when `GetApprovalForObject` hands `user` the token `granted` through it at `now`.
-/
structure ApprovalAdmits (config : Config) (store : Store) (now : Int) (user : String) (approval : AFF4Object)
    (granted : ACLToken) : Prop where
  /-- The token carries the approval's reason. -/
  reason : granted.reason = approval.cells.reason.newest.map (·.value)
  /-- The approval's URN is in the `ACL` namespace. -/
  inNamespace : approval.urn.components.head? = some "ACL"
  /-- The approval's URN decodes to the user. -/
  decoded : ∃ subject, inferUserAndSubjectFromUrn approval = .ok (user, subject)
  /--
  The approval is under unexpired break-glass access, the token then marked as an emergency, or approved
  by enough distinct non-expired approvers, enough of them carrying the label its class asks for.
  -/
  admitted : ((∃ date, approval.cells.breakGlass.newest = some date ∧ now < date.value) ∧
      granted.isEmergency = true) ∨
    (config.approversRequired ≤ (nonExpiredApprovers config approval now).card ∧
      ∀ label, checkedApproversLabel approval.aff4Type = some label →
        minApproversWithLabel ≤ ((nonExpiredApprovers config approval now).filter (approverHasLabel store label ·)).card)

/--
A token from `GetApprovalForObject` is the effective user's, the token's own for an empty username, and is
admitted by an approval listed for the object and that user.
-/
theorem getApprovalForObject_sound (config : Config) (auth : ClientApprovalAuthManager) (store : Store)
    (now : Int) (objectUrn : RDFURN) (token : ACLToken) (username : String) (granted : ACLToken)
    (returned : getApprovalForObject config auth store now objectUrn (some token) username = .ok granted) :
    granted.username = (if username = "" then token.username else username) ∧
      ∃ approval ∈ store.multiOpen (store.listChildren
          (approvalsRootUrn objectUrn (if username = "" then token.username else username))) (some .approval) .allTimes,
        ApprovalAdmits config store now (if username = "" then token.username else username) approval granted := by
  obtain ⟨approval, member, passed⟩ := getApprovalForObject_ok returned
  generalize (if username = "" then token.username else username) = user at member passed ⊢
  obtain ⟨⟨rest, splitIs⟩, ⟨subject, inferred⟩, outcome⟩ :=
    ApprovalWithApproversAndReason.checkAccess_ok (checkAccess_ok passed)
  refine ⟨?_, approval, member, ?_, split_two_head splitIs, ⟨subject, inferred⟩, ?_⟩
  all_goals rcases outcome with ⟨active, rfl⟩ | ⟨rfl, enough, labelled⟩
  any_goals rfl
  · -- Break-glass access marks the token as an emergency.
    obtain ⟨date, newest, -, ahead⟩ := breakGlassActive_eq_true.mp active
    exact .inl ⟨⟨date, newest, ahead⟩, rfl⟩
  · -- The code's counts of collected approvers are counts of distinct users.
    rw [← getNonExpiredApprovers_length]
    refine .inr ⟨enough, fun label labelIs => ?_⟩
    rw [← getNonExpiredApprovers_filter_length]
    exact labelled label labelIs

/-- A store holding one hunt approval of `alice`'s for the hunt `H1`, under break-glass access until the date 100. -/
def breakGlassStore : Store :=
  ⟨fun urn => if urn = (approvalsRootUrn ((rootUrn.add "hunts").add "H1") "alice").add "approval:1" then
      { Cells.empty with
        type := Cells.empty.type.add .huntApproval 1
        breakGlass := Cells.empty.breakGlass.add 100 1 }
    else .empty,
   fun urn => if urn = approvalsRootUrn ((rootUrn.add "hunts").add "H1") "alice" then ["approval:1"] else []⟩

/-- `alice`'s access to the hunt `H1` at the date 50 comes through the break-glass approval. -/
theorem getApprovalForObject_sound_breakGlass :
    getApprovalForObject ⟨2, 100⟩ ⟨false, fun _ _ _ _ _ => .ok ()⟩ breakGlassStore 50 ((rootUrn.add "hunts").add "H1")
        (some { username := "alice", reason := none }) "alice" =
      .ok { username := "alice", reason := none, isEmergency := true } ∧
    ({ username := "alice", reason := none, isEmergency := true } : ACLToken).username = "alice" ∧
      ∃ approval ∈ breakGlassStore.multiOpen (breakGlassStore.listChildren
          (approvalsRootUrn ((rootUrn.add "hunts").add "H1") "alice")) (some .approval) .allTimes,
        ApprovalAdmits ⟨2, 100⟩ breakGlassStore 50 "alice" approval { username := "alice", reason := none, isEmergency := true } :=
  ⟨rfl, getApprovalForObject_sound _ ⟨false, fun _ _ _ _ _ => .ok ()⟩ _ _ _ { username := "alice", reason := none }
    "alice" _ rfl⟩

/-- An empty username makes the lookup the token's own, so the token returned is not for the empty username. -/
theorem getApprovalForObject_empty_username :
    ∃ granted, getApprovalForObject ⟨2, 100⟩ ⟨false, fun _ _ _ _ _ => .ok ()⟩ breakGlassStore 50
        ((rootUrn.add "hunts").add "H1") (some { username := "alice", reason := none }) "" = .ok granted ∧
      granted.username ≠ "" :=
  ⟨{ username := "alice", reason := none, isEmergency := true }, rfl, by decide⟩

end GrrAcl
