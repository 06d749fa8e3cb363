import GrrAcl.Security.Workflow
import Mathlib.Order.MinMax

/-! `Grant` adds its approver to the newest approval of its reason, and refuses without a write when there is none. -/

namespace GrrAcl

/-- The age of an approval's newest reason, when that reason reads as `reason`. -/
def reasonAge (reason : String) (approval : AFF4Object) : Option Int :=
  approval.cells.reason.newest.bind fun version => if version.value = reason then some version.age else none

/-- The greatest age among the approvals' reasons that read as `reason`. -/
def newestReasonAge (reason : String) (approvals : List AFF4Object) : Option Int :=
  (approvals.filterMap (reasonAge reason)).max?

/--
The approval a grant with the reason is meant for: the first listed of those whose reason is `reason`
at the greatest age any of them has.
-/
def approvalToGrant (reason : String) (approvals : List AFF4Object) : Option AFF4Object :=
  (newestReasonAge reason approvals).bind fun age =>
    approvals.find? fun approval => reasonAge reason approval = some age

/--
What the loop of `Grant` carries past one approval whose reason can be read: the approval's URN and its
reason's age when its reason is the grant's and newer than what was found, and what was found otherwise.
-/
def chooseNewer (reason : String) (found : Option (RDFURN × Int)) (approval : AFF4Object) :
    Option (RDFURN × Int) :=
  match reasonAge reason approval, found with
  | some age, some (urn, foundAge) => if foundAge < age then some (approval.urn, age) else some (urn, foundAge)
  | some age, none => some (approval.urn, age)
  | none, found => found

/-- Past an approval whose reason can be read, the loop of `Grant` goes on with what `chooseNewer` carries. -/
theorem findApproval_cons {reason : String} {approval : AFF4Object} (rest : List AFF4Object)
    (found : Option (RDFURN × Int)) (readable : approval.cells.reason.newest = none → reason ≠ "None") :
    findApproval reason (approval :: rest) found = findApproval reason rest (chooseNewer reason found approval) := by
  -- The approval's reason is missing and passed over, or is compared with what was found.
  unfold chooseNewer reasonAge
  rw [findApproval]
  cases newest : approval.cells.reason.newest with
  | none => simp [readable newest]
  | some version =>
    by_cases same : version.value = reason
    · rcases found with _ | ⟨urn, foundAge⟩
      · simp [same]
      · by_cases newer : foundAge < version.age <;> simp [same, newer]
    · simp [same]

/-- The loop raises only on an approval with no reason when the grant's reason reads as `None`. -/
theorem findApproval_eq_foldl {reason : String} :
    ∀ {approvals : List AFF4Object} (found : Option (RDFURN × Int)),
      (∀ approval ∈ approvals, approval.cells.reason.newest = none → reason ≠ "None") →
        findApproval reason approvals found = .ok (approvals.foldl (chooseNewer reason) found)
  | [], found, _ => rfl
  | approval :: rest, found, reasonsRead => by
    rw [findApproval_cons rest found (reasonsRead approval (List.mem_cons_self _ _)), List.foldl_cons]
    exact findApproval_eq_foldl _ fun other member => reasonsRead other (List.mem_cons_of_mem approval member)

/-- The greatest of a list with one more element is the greater of the two. -/
theorem max?_append_singleton (ages : List Int) (age : Int) :
    (ages ++ [age]).max? = some (ages.max?.elim age (max · age)) := by
  cases ages <;> simp [List.max?, List.foldl_append]

/-- What the loop has carried past the approvals `done`: the URN of the approval to grant, and the newest age. -/
def Tracks (reason : String) (done : List AFF4Object) (found : Option (RDFURN × Int)) : Prop :=
  found.map Prod.fst = (approvalToGrant reason done).map (·.urn) ∧
    found.map Prod.snd = newestReasonAge reason done

/-- Every reason of the grant's among the approvals is no newer than the newest. -/
theorem le_of_newestReasonAge {reason : String} {done : List AFF4Object} {newest : Int}
    (isNewest : newestReasonAge reason done = some newest) {approval : AFF4Object} (member : approval ∈ done)
    {age : Int} (aged : reasonAge reason approval = some age) : age ≤ newest :=
  (List.max?_le_iff (fun _ _ _ => Int.max_le) isNewest).mp le_rfl age
    (List.mem_filterMap.mpr ⟨approval, member, aged⟩)

/-- The newest age is some approval's, so the search for it finds one. -/
theorem approvalToGrant_isSome {reason : String} {done : List AFF4Object} {newest : Int}
    (isNewest : newestReasonAge reason done = some newest) : (approvalToGrant reason done).isSome := by
  obtain ⟨approval, member, aged⟩ := List.mem_filterMap.mp (List.max?_mem (fun a b => max_choice a b) isNewest)
  simp only [approvalToGrant, isNewest, Option.some_bind]
  exact List.find?_isSome.mpr ⟨approval, member, by simpa using aged⟩

/-- With no newest age, no approval has the reason. -/
theorem reasonAge_eq_none_of_newestReasonAge {reason : String} {done : List AFF4Object}
    (noneBefore : newestReasonAge reason done = none) : ∀ other ∈ done, reasonAge reason other = none := by
  simpa [newestReasonAge, List.max?_eq_none_iff, List.filterMap_eq_nil_iff] using noneBefore

/-- The search for the approval to grant, once an approval is appended. -/
theorem approvalToGrant_append (reason : String) (done : List AFF4Object) (approval : AFF4Object) :
    approvalToGrant reason (done ++ [approval]) =
      (newestReasonAge reason (done ++ [approval])).bind fun age =>
        (done.find? fun other => reasonAge reason other = some age).or
          (if reasonAge reason approval = some age then some approval else none) := by
  simp only [approvalToGrant, List.find?_append, List.find?_singleton]
  congr! 3
  simp

/-- The newest age once an approval of the reason is appended is the greater of its age and the newest before. -/
theorem newestReasonAge_append {reason : String} {done : List AFF4Object} {approval : AFF4Object} {age : Int}
    (aged : reasonAge reason approval = some age) :
    newestReasonAge reason (done ++ [approval]) = some ((newestReasonAge reason done).elim age (max · age)) := by
  simp only [newestReasonAge, List.filterMap_append, List.filterMap_cons, aged, List.filterMap_nil,
    max?_append_singleton]

/-- An appended approval of another reason changes neither the newest age nor the approval to grant. -/
theorem approvalToGrant_append_other {reason : String} (done : List AFF4Object) {approval : AFF4Object}
    (aged : reasonAge reason approval = none) :
    newestReasonAge reason (done ++ [approval]) = newestReasonAge reason done ∧
      approvalToGrant reason (done ++ [approval]) = approvalToGrant reason done := by
  have same : newestReasonAge reason (done ++ [approval]) = newestReasonAge reason done := by
    simp [newestReasonAge, aged]
  exact ⟨same, by simp [approvalToGrant_append, same, aged, approvalToGrant]⟩

/-- An appended approval whose reason is newer than every one before it is the approval to grant. -/
theorem approvalToGrant_append_newer {reason : String} (done : List AFF4Object) {approval : AFF4Object}
    {age : Int} (aged : reasonAge reason approval = some age)
    (older : ∀ other ∈ done, ∀ otherAge, reasonAge reason other = some otherAge → otherAge < age) :
    newestReasonAge reason (done ++ [approval]) = some age ∧
      approvalToGrant reason (done ++ [approval]) = some approval := by
  -- The newest before, if any, is some earlier approval's age, so it is older.
  have newest : newestReasonAge reason (done ++ [approval]) = some age := by
    rw [newestReasonAge_append aged]
    cases before : newestReasonAge reason done with
    | none => rfl
    | some newestBefore =>
      obtain ⟨other, member, otherAged⟩ :=
        List.mem_filterMap.mp (List.max?_mem (fun a b => max_choice a b) before)
      simp [(older other member _ otherAged).le]
  have searched : done.find? (fun other => reasonAge reason other = some age) = none :=
    List.find?_eq_none.mpr fun other member same => by
      simpa using older other member age (by simpa using same)
  exact ⟨newest, by simp [approvalToGrant_append, newest, searched, aged]⟩

/-- An appended approval whose reason is no newer than the newest leaves the approval to grant in place. -/
theorem approvalToGrant_append_older {reason : String} {done : List AFF4Object} {approval : AFF4Object}
    {age newestBefore : Int} (aged : reasonAge reason approval = some age)
    (before : newestReasonAge reason done = some newestBefore) (notNewer : age ≤ newestBefore) :
    newestReasonAge reason (done ++ [approval]) = some newestBefore ∧
      approvalToGrant reason (done ++ [approval]) = approvalToGrant reason done := by
  have newest : newestReasonAge reason (done ++ [approval]) = some newestBefore := by
    simp [newestReasonAge_append aged, before, notNewer]
  -- Some approval before has the newest age, so the search stops before the appended one.
  obtain ⟨chosen, chosenIs⟩ := Option.isSome_iff_exists.mp (approvalToGrant_isSome before)
  simp only [approvalToGrant, before, Option.some_bind] at chosenIs
  exact ⟨newest, by simp [approvalToGrant_append, newest, chosenIs, approvalToGrant, before]⟩

/-- Past one more approval, the loop still carries the approval to grant and the newest age. -/
theorem tracks_append {reason : String} {done : List AFF4Object} {found : Option (RDFURN × Int)}
    (tracks : Tracks reason done found) (approval : AFF4Object) :
    Tracks reason (done ++ [approval]) (chooseNewer reason found approval) := by
  obtain ⟨urnIs, ageIs⟩ := tracks
  cases aged : reasonAge reason approval with
  | none =>
    obtain ⟨newest, chosen⟩ := approvalToGrant_append_other done aged
    simpa [Tracks, chooseNewer, aged, newest, chosen] using ⟨urnIs, ageIs⟩
  | some age =>
    rcases found with _ | ⟨urn, foundAge⟩
    · -- Nothing of the reason before: the appended approval is the one to grant.
      have passed := reasonAge_eq_none_of_newestReasonAge (by simpa using ageIs.symm)
      obtain ⟨newest, chosen⟩ := approvalToGrant_append_newer done aged fun other member _ same => by
        simp [passed other member] at same
      simp [Tracks, chooseNewer, aged, newest, chosen]
    · have before : newestReasonAge reason done = some foundAge := by simpa using ageIs.symm
      by_cases newer : foundAge < age
      · obtain ⟨newest, chosen⟩ := approvalToGrant_append_newer done aged fun other member _ same =>
          (le_of_newestReasonAge before member same).trans_lt newer
        simp [Tracks, chooseNewer, aged, newer, newest, chosen]
      · obtain ⟨newest, chosen⟩ := approvalToGrant_append_older aged before (not_lt.mp newer)
        simpa [Tracks, chooseNewer, aged, newer, newest, chosen] using urnIs

/-- Past every approval, the loop carries the approval to grant and the newest age of the reason. -/
theorem tracks_foldl (reason : String) (approvals : List AFF4Object) :
    Tracks reason approvals (approvals.foldl (chooseNewer reason) none) := by
  induction approvals using List.reverseRecOn with
  | nil => exact ⟨rfl, rfl⟩
  | append_singleton done approval carried =>
    rw [List.foldl_append, List.foldl_cons, List.foldl_nil]
    exact tracks_append carried approval

/-- Unless a missing reason raises, the loop of `Grant` finds the URN of the approval to grant. -/
theorem findApproval_spec {reason : String} {approvals : List AFF4Object}
    (reasonsRead : ∀ approval ∈ approvals, approval.cells.reason.newest = none → reason ≠ "None") :
    ∃ found, findApproval reason approvals none = .ok found ∧
      found.map Prod.fst = (approvalToGrant reason approvals).map (·.urn) :=
  ⟨_, findApproval_eq_foldl none reasonsRead, (tracks_foldl reason approvals).1⟩

/-- The approval to grant is one of the approvals searched. -/
theorem approvalToGrant_mem {reason : String} {approvals : List AFF4Object} {approval : AFF4Object}
    (chosen : approvalToGrant reason approvals = some approval) : approval ∈ approvals := by
  obtain ⟨_, -, found⟩ := Option.bind_eq_some.mp chosen
  exact List.mem_of_find?_eq_some found

/-- With no approval of the reason there is none to grant. -/
theorem approvalToGrant_eq_none {reason : String} {approvals : List AFF4Object}
    (noneListed : ∀ approval ∈ approvals, reasonAge reason approval = none) :
    approvalToGrant reason approvals = none := by
  have empty : approvals.filterMap (reasonAge reason) = [] := List.filterMap_eq_nil_iff.mpr noneListed
  simp [approvalToGrant, newestReasonAge, empty]

/-- The URN the loop of `Grant` finds is that of one of the approvals it searched, or the one it started with. -/
theorem findApproval_mem {reason : String} {urn : RDFURN} {age : Int} :
    ∀ {approvals : List AFF4Object} {found : Option (RDFURN × Int)},
      findApproval reason approvals found = .ok (some (urn, age)) →
        (∃ approval ∈ approvals, approval.urn = urn) ∨ found = some (urn, age)
  | [], found, finished => .inr (Except.ok.inj finished)
  | approval :: rest, found, finished => by
    -- The approval is taken, and then the URN is its own or a later one, or it is passed over.
    have later : ∀ {found'}, findApproval reason rest found' = .ok (some (urn, age)) →
        (found' = found ∨ ∃ age', found' = some (approval.urn, age')) →
        (∃ other ∈ approval :: rest, other.urn = urn) ∨ found = some (urn, age) := fun passed carried => by
      rcases findApproval_mem passed with ⟨other, member, same⟩ | taken
      · exact .inl ⟨other, .tail _ member, same⟩
      · rcases carried with rfl | ⟨age', rfl⟩
        · exact .inr taken
        · cases taken
          exact .inl ⟨approval, .head _, rfl⟩
    rw [findApproval] at finished
    split at finished
    · dsimp only at finished
      split at finished
      · exact later finished (.inr ⟨_, rfl⟩)
      · exact later finished (.inl rfl)
    · split at finished
      · cases finished
      · exact later finished (.inl rfl)

/-- An approval `Grant` lists opens again at its own URN as an object of that URN. -/
theorem ApprovalGrantor.reopen_listed_urn {grantor : ApprovalGrantor} {store : Store} {approval : AFF4Object}
    (listed : approval ∈ grantor.listedApprovals store) {cls : Option AFF4Type} {age : Age} {opened : AFF4Object}
    (again : store.open approval.urn cls age = .ok opened) : opened.urn = approval.urn := by
  -- It opened as an approval, so it is no symlink.
  obtain ⟨child, -, first⟩ := (Store.mem_multiOpen _ _ _ _ _).mp listed
  have notLink : approval.aff4Type ≠ .aff4Symlink := fun link => by
    have isApproval := Store.open_isinstance first
    rw [link] at isApproval
    cases isApproval
  exact Store.open_reopen_urn first notLink again

/-- A grant that gets past its tests on the URN its loop found ends as its mail ends, its writes made. -/
theorem ApprovalGrantor.grant_of_found {notify : Cells → Notification → Int → Cells} {mailer : Mailer}
    {grantor : ApprovalGrantor} {now : Int} {store : Store} {urn : RDFURN} {age : Int} {subjectTitle : String}
    {opened : AFF4Object} (listing : store.listChildren (approvalsRootUrn grantor.subjectUrn grantor.delegate) ≠ [])
    (found : findApproval grantor.reason (grantor.listedApprovals store) none = .ok (some (urn, age)))
    (titled : buildSubjectTitle store grantor.kind grantor.subjectUrn = .ok subjectTitle)
    (openedIs : store.open urn (some grantor.kind.approvalType) .newestTime = .ok opened) :
    grantor.grant notify mailer now store = sendApprovalEmail mailer (grantor.grantEmail subjectTitle opened) urn
      (grantor.grantedStore notify now subjectTitle opened.urn store) := by
  unfold ApprovalGrantor.grant
  rw [if_neg listing, found]
  simp only [titled, openedIs]

/--
A grant either raises with the store as it was, or gets past its tests on the URN of a listed approval
its loop found: the subject's title builds and the approval opens as the grantor's class, and the grant
ends as its mail ends, with the approver added to that approval and the delegate notified.
-/
theorem grant_cases (notify : Cells → Notification → Int → Cells) (mailer : Mailer) (grantor : ApprovalGrantor)
    (now : Int) (store : Store) :
    (∃ error, grantor.grant notify mailer now store = .error error store) ∨
      ∃ approval ∈ grantor.listedApprovals store, ∃ age subjectTitle opened,
        findApproval grantor.reason (grantor.listedApprovals store) none = .ok (some (approval.urn, age)) ∧
        buildSubjectTitle store grantor.kind grantor.subjectUrn = .ok subjectTitle ∧
        store.open approval.urn (some grantor.kind.approvalType) .newestTime = .ok opened ∧
        grantor.grant notify mailer now store = sendApprovalEmail mailer (grantor.grantEmail subjectTitle opened)
          approval.urn (grantor.grantedStore notify now subjectTitle approval.urn store) := by
  -- Every test before the writes raises with the store untouched.
  by_cases listing : store.listChildren (approvalsRootUrn grantor.subjectUrn grantor.delegate) = []
  · exact .inl ⟨_, by simp only [ApprovalGrantor.grant, listing, if_true]; rfl⟩
  cases search : findApproval grantor.reason (grantor.listedApprovals store) none with
  | error error => exact .inl ⟨error, by simp only [ApprovalGrantor.grant, listing, if_false, search]⟩
  | ok found =>
    rcases found with _ | ⟨urn, age⟩
    · exact .inl ⟨_, by simp only [ApprovalGrantor.grant, listing, if_false, search]; rfl⟩
    cases titled : buildSubjectTitle store grantor.kind grantor.subjectUrn with
    | error error => exact .inl ⟨error, by simp only [ApprovalGrantor.grant, listing, if_false, search, titled]⟩
    | ok subjectTitle =>
      cases openedIs : store.open urn (some grantor.kind.approvalType) .newestTime with
      | error error =>
        exact .inl ⟨_, by simp only [ApprovalGrantor.grant, listing, if_false, search, titled, openedIs]; rfl⟩
      | ok opened =>
        -- The URN found is a listed approval's, which reopens as an object of that URN.
        obtain ⟨approval, listed, rfl⟩ := (findApproval_mem search).resolve_right nofun
        refine .inr ⟨approval, listed, age, subjectTitle, opened, rfl, rfl, openedIs, ?_⟩
        rw [ApprovalGrantor.grant_of_found listing search titled openedIs,
          ApprovalGrantor.reopen_listed_urn listed openedIs]

/--
The writes of a grant of the approval at `approvalUrn`: the granting user is added as an approver of it at
`now` and nothing else of it changes, and the delegate's user object gets the user class at `now` and the
notification; unless the approval is that user object, no other URN changes, and the index only gains the
delegate's user object.
-/
structure GrantWrites (notify : Cells → Notification → Int → Cells) (grantor : ApprovalGrantor) (now : Int)
    (subjectTitle : String) (approvalUrn : RDFURN) (store store' : Store) : Prop where
  /-- The approval gains one approver version, the granting user's at `now`, and keeps every other cell. -/
  approval : approvalUrn ≠ (rootUrn.add "users").add grantor.delegate →
    store'.cells approvalUrn =
      { store.cells approvalUrn with approver := (store.cells approvalUrn).approver.add grantor.token.username now }
  /-- The delegate's user object is written as a user at `now`, and then notified of the grant. -/
  delegate : approvalUrn ≠ (rootUrn.add "users").add grantor.delegate →
    store'.cells ((rootUrn.add "users").add grantor.delegate) =
      notify { store.cells ((rootUrn.add "users").add grantor.delegate) with
          type := (store.cells ((rootUrn.add "users").add grantor.delegate)).type.add .grrUser now }
        ⟨"ViewObject", grantor.subjectUrn, grantor.token.username ++ " has granted you access to " ++ subjectTitle ++ ".",
          ""⟩ now
  /-- Every other URN keeps its cells. -/
  others : ∀ urn, urn ≠ approvalUrn → urn ≠ (rootUrn.add "users").add grantor.delegate →
    store'.cells urn = store.cells urn
  /-- The child index gains the delegate's user object alone. -/
  index : store'.index = (store.updateChildIndex ((rootUrn.add "users").add grantor.delegate)).index

/-- A grant's writes are the approver added to the approval, then the delegate's user object written and notified. -/
theorem ApprovalGrantor.grantedStore_writes (notify : Cells → Notification → Int → Cells) (grantor : ApprovalGrantor)
    (now : Int) (subjectTitle : String) (approvalUrn : RDFURN) (store : Store) :
    GrantWrites notify grantor now subjectTitle approvalUrn store
      (grantor.grantedStore notify now subjectTitle approvalUrn store) := by
  refine ⟨fun apart => ?_, fun apart => ?_, fun urn other otherUser => ?_, rfl⟩
  · simp [ApprovalGrantor.grantedStore, Store.create, apart, grantCells]
  · simp [ApprovalGrantor.grantedStore, Store.create, Ne.symm apart]
  · simp [ApprovalGrantor.grantedStore, Store.create, other, otherUser]

/-- With approval mails off, or sent, the mail step returns the URN with the store as the writes left it. -/
theorem sendApprovalEmail_ok_iff (mailer : Mailer) (email : ApprovalEmail) (urn urn' : RDFURN) (store store' : Store) :
    sendApprovalEmail mailer email urn store = .ok urn' store' ↔
      urn' = urn ∧ store' = store ∧ (mailer.sendApprovalEmails = false ∨ mailer.sendEmail email = .ok ()) := by
  unfold sendApprovalEmail
  cases mailer.sendApprovalEmails <;> cases mailer.sendEmail email <;> simp [eq_comm, and_comm]

/-- The mail step raises only what sending the mail raises with approval mails on, the store as the writes left it. -/
theorem sendApprovalEmail_error_iff (mailer : Mailer) (email : ApprovalEmail) (urn : RDFURN) (error : Error)
    (store store' : Store) :
    sendApprovalEmail mailer email urn store = .error error store' ↔
      store' = store ∧ mailer.sendApprovalEmails = true ∧ mailer.sendEmail email = .error error := by
  unfold sendApprovalEmail
  cases mailer.sendApprovalEmails <;> cases mailer.sendEmail email <;> simp [eq_comm, and_comm]

/-- What a grant does with the approvals it lists, when reading their reasons raises on none of them. -/
structure GrantBehaviour (notify : Cells → Notification → Int → Cells) (mailer : Mailer) (grantor : ApprovalGrantor)
    (now : Int) (store : Store) : Prop where
  /-- With no approval of the grant's reason listed, the grant is refused and the store is as it was. -/
  refused : (∀ approval ∈ grantor.listedApprovals store, reasonAge grantor.reason approval = none) →
    grantor.grant notify mailer now store = .error (.unauthorizedAccess
      (if store.listChildren (approvalsRootUrn grantor.subjectUrn grantor.delegate) = [] then
        "No approval found for user " ++ grantor.token.username
      else "No approval with reason '" ++ grantor.reason ++ "' found for user " ++ grantor.token.username)
      (some grantor.subjectUrn) (some "?")) store
  /--
  Once the approval to grant opens as the grantor's class and the subject's title builds, the grant adds
  the approver to that approval and notifies the delegate, and then returns the approval's URN, unless
  approval mails are on and sending the mail raises: then that is raised, the writes made.
  -/
  granted : ∀ approval subjectTitle opened,
    approvalToGrant grantor.reason (grantor.listedApprovals store) = some approval →
    buildSubjectTitle store grantor.kind grantor.subjectUrn = .ok subjectTitle →
    store.open approval.urn (some grantor.kind.approvalType) .newestTime = .ok opened →
    ∃ store', GrantWrites notify grantor now subjectTitle approval.urn store store' ∧
      (grantor.grant notify mailer now store = .ok approval.urn store' ↔
        mailer.sendApprovalEmails = false ∨ mailer.sendEmail (grantor.grantEmail subjectTitle opened) = .ok ()) ∧
      ∀ error, grantor.grant notify mailer now store = .error error store' ↔
        mailer.sendApprovalEmails = true ∧ mailer.sendEmail (grantor.grantEmail subjectTitle opened) = .error error
  /-- Otherwise the grant raises before any write, and the store is as it was. -/
  unchanged : (¬ ∃ approval subjectTitle opened,
      approvalToGrant grantor.reason (grantor.listedApprovals store) = some approval ∧
      buildSubjectTitle store grantor.kind grantor.subjectUrn = .ok subjectTitle ∧
      store.open approval.urn (some grantor.kind.approvalType) .newestTime = .ok opened) →
    ∃ error, grantor.grant notify mailer now store = .error error store

section Reasons

variable {notify : Cells → Notification → Int → Cells} {mailer : Mailer} {grantor : ApprovalGrantor} {now : Int}
  {store : Store}
  (reasonsRead : ∀ approval ∈ grantor.listedApprovals store,
    approval.cells.reason.newest = none → grantor.reason ≠ "None")
include reasonsRead

/-- With no approval of the grant's reason listed, the grant is refused and the store is as it was. -/
theorem ApprovalGrantor.grant_refused
    (noneListed : ∀ approval ∈ grantor.listedApprovals store, reasonAge grantor.reason approval = none) :
    grantor.grant notify mailer now store = .error (.unauthorizedAccess
      (if store.listChildren (approvalsRootUrn grantor.subjectUrn grantor.delegate) = [] then
        "No approval found for user " ++ grantor.token.username
      else "No approval with reason '" ++ grantor.reason ++ "' found for user " ++ grantor.token.username)
      (some grantor.subjectUrn) (some "?")) store := by
  -- The listing is empty, or the loop found nothing.
  obtain ⟨found, search, foundIs⟩ := findApproval_spec reasonsRead
  have nothing : found = none := by
    simpa [approvalToGrant_eq_none noneListed] using foundIs
  unfold ApprovalGrantor.grant
  by_cases empty : store.listChildren (approvalsRootUrn grantor.subjectUrn grantor.delegate) = []
  · simp [empty]
  · simp [empty, search, nothing]

/-- The loop finds the approval to grant, which was listed, so the listing was not empty. -/
theorem ApprovalGrantor.found_of_chosen {approval : AFF4Object}
    (chosen : approvalToGrant grantor.reason (grantor.listedApprovals store) = some approval) :
    store.listChildren (approvalsRootUrn grantor.subjectUrn grantor.delegate) ≠ [] ∧
      ∃ age, findApproval grantor.reason (grantor.listedApprovals store) none = .ok (some (approval.urn, age)) := by
  obtain ⟨found, search, foundIs⟩ := findApproval_spec reasonsRead
  have listed := approvalToGrant_mem chosen
  refine ⟨fun empty => by simp [ApprovalGrantor.listedApprovals, empty, Store.multiOpen] at listed, ?_⟩
  rw [chosen] at foundIs
  obtain ⟨⟨urn, age⟩, rfl, same⟩ := Option.map_eq_some'.mp foundIs
  exact ⟨age, by rw [search, show urn = approval.urn from same]⟩

/-- When the subject's title does not build, a grant of the approval to grant raises that, the store as it was. -/
theorem ApprovalGrantor.grant_untitled {approval : AFF4Object} {error : Error}
    (chosen : approvalToGrant grantor.reason (grantor.listedApprovals store) = some approval)
    (untitled : buildSubjectTitle store grantor.kind grantor.subjectUrn = .error error) :
    grantor.grant notify mailer now store = .error error store := by
  obtain ⟨listing, age, search⟩ := ApprovalGrantor.found_of_chosen reasonsRead chosen
  unfold ApprovalGrantor.grant
  rw [if_neg listing, search]
  simp only [untitled]

/--
Once the subject's title builds and the approval to grant opens as the grantor's class, the grant adds
the approver to that approval and notifies the delegate, and then ends as the mail ends.
-/
theorem ApprovalGrantor.grant_of_chosen {approval opened : AFF4Object} {subjectTitle : String}
    (chosen : approvalToGrant grantor.reason (grantor.listedApprovals store) = some approval)
    (titled : buildSubjectTitle store grantor.kind grantor.subjectUrn = .ok subjectTitle)
    (openedIs : store.open approval.urn (some grantor.kind.approvalType) .newestTime = .ok opened) :
    grantor.grant notify mailer now store = sendApprovalEmail mailer (grantor.grantEmail subjectTitle opened)
      approval.urn (grantor.grantedStore notify now subjectTitle approval.urn store) := by
  obtain ⟨listing, age, search⟩ := ApprovalGrantor.found_of_chosen reasonsRead chosen
  rw [ApprovalGrantor.grant_of_found listing search titled openedIs,
    ApprovalGrantor.reopen_listed_urn (approvalToGrant_mem chosen) openedIs]

/-- Unless the approval to grant opens as the grantor's class and the subject's title builds, the grant raises before any write. -/
theorem ApprovalGrantor.grant_untested
    (untested : ¬ ∃ approval subjectTitle opened,
      approvalToGrant grantor.reason (grantor.listedApprovals store) = some approval ∧
      buildSubjectTitle store grantor.kind grantor.subjectUrn = .ok subjectTitle ∧
      store.open approval.urn (some grantor.kind.approvalType) .newestTime = .ok opened) :
    ∃ error, grantor.grant notify mailer now store = .error error store := by
  -- A grant that got past its tests did so on the approval to grant.
  obtain ⟨found, search, foundIs⟩ := findApproval_spec reasonsRead
  rcases grant_cases notify mailer grantor now store with raised | ⟨approval, -, age, subjectTitle, opened, found',
    titled, openedIs, -⟩
  · exact raised
  rw [search] at found'
  cases found'
  obtain ⟨chosen, chosenIs, same⟩ := Option.map_eq_some'.mp foundIs.symm
  exact absurd ⟨chosen, subjectTitle, opened, chosenIs, titled, same ▸ openedIs⟩ untested

end Reasons

/-- A grant that ends as the mail over its writes makes those writes, and returns unless sending the mail raises. -/
theorem ApprovalGrantor.grant_outcome {notify : Cells → Notification → Int → Cells} {mailer : Mailer}
    {grantor : ApprovalGrantor} {now : Int} {store : Store} {subjectTitle : String} {urn : RDFURN}
    {email : ApprovalEmail}
    (ended : grantor.grant notify mailer now store =
      sendApprovalEmail mailer email urn (grantor.grantedStore notify now subjectTitle urn store)) :
    ∃ store', GrantWrites notify grantor now subjectTitle urn store store' ∧
      (grantor.grant notify mailer now store = .ok urn store' ↔
        mailer.sendApprovalEmails = false ∨ mailer.sendEmail email = .ok ()) ∧
      ∀ error, grantor.grant notify mailer now store = .error error store' ↔
        mailer.sendApprovalEmails = true ∧ mailer.sendEmail email = .error error := by
  refine ⟨_, ApprovalGrantor.grantedStore_writes notify grantor now subjectTitle urn store, ?_, fun error => ?_⟩ <;>
    rw [ended]
  · simp [sendApprovalEmail_ok_iff]
  · simp [sendApprovalEmail_error_iff]

/-- `Grant` behaves so on every store where no approval it lists lacks a reason while its own reads `None`. -/
theorem grant_behaviour (notify : Cells → Notification → Int → Cells) (mailer : Mailer) (grantor : ApprovalGrantor)
    (now : Int) (store : Store)
    (reasonsRead : ∀ approval ∈ grantor.listedApprovals store,
      approval.cells.reason.newest = none → grantor.reason ≠ "None") :
    GrantBehaviour notify mailer grantor now store :=
  ⟨ApprovalGrantor.grant_refused reasonsRead,
    fun _ _ _ chosen titled openedIs =>
      ApprovalGrantor.grant_outcome (ApprovalGrantor.grant_of_chosen reasonsRead chosen titled openedIs),
    ApprovalGrantor.grant_untested reasonsRead⟩

/-- `bob` granting `alice` access to the hunt `H1` for the reason `triage`. -/
def huntGrantor : ApprovalGrantor :=
  ⟨.hunt, "triage", (rootUrn.add "hunts").add "H1", "alice", { username := "bob", reason := none }⟩

/-- A store holding, under `alice`'s approvals of the hunt `H1`, one approval of the class given for `triage`. -/
def oneApprovalStore (aff4Type : AFF4Type) : Store :=
  ⟨fun urn => if urn = (approvalsRootUrn ((rootUrn.add "hunts").add "H1") "alice").add "approval:1" then
      { Cells.empty with
        type := Cells.empty.type.add aff4Type 1
        reason := Cells.empty.reason.add "triage" 1 }
    else .empty,
   fun urn => if urn = approvalsRootUrn ((rootUrn.add "hunts").add "H1") "alice" then ["approval:1"] else []⟩

/-- A mailer with approval mails on whose server cannot be reached. -/
def unreachableMailer : Mailer :=
  ⟨true, fun _ => .error (.emailNotSent "Could not connect to the mail server.")⟩

/-- The grant behaves so for `bob`'s grant over `alice`'s hunt approval, with the mail server unreachable. -/
theorem huntGrantor_behaviour :
    (∀ approval ∈ huntGrantor.listedApprovals (oneApprovalStore .huntApproval),
      approval.cells.reason.newest = none → huntGrantor.reason ≠ "None") ∧
      GrantBehaviour (fun cells _ _ => cells) unreachableMailer huntGrantor 5 (oneApprovalStore .huntApproval) :=
  ⟨by decide, grant_behaviour _ _ _ _ _ (by decide)⟩

/- The grant adds `bob` to the approval and then raises what sending the mail raised. -/
example : ∃ store', huntGrantor.grant (fun cells _ _ => cells) unreachableMailer 5 (oneApprovalStore .huntApproval) =
    .error (.emailNotSent "Could not connect to the mail server.") store' ∧
    (store'.cells ((approvalsRootUrn ((rootUrn.add "hunts").add "H1") "alice").add "approval:1")).approver.versions =
      [⟨"bob", 5⟩] :=
  ⟨_, rfl, rfl⟩

/-- The cron job approval is the one of the grant's reason, yet the hunt's grantor refuses it and writes nothing. -/
theorem grant_refuses_approval_of_other_class :
    (approvalToGrant huntGrantor.reason (huntGrantor.listedApprovals (oneApprovalStore .cronJobApproval))).isSome ∧
      huntGrantor.grant (fun cells _ _ => cells) Mailer.disabled 5 (oneApprovalStore .cronJobApproval) =
        .error (.unauthorizedAccess "Approval object does not exist." none (some "rw"))
          (oneApprovalStore .cronJobApproval) :=
  ⟨by decide, rfl⟩

/-- Reading the reason `None` off an approval that has none raises, whatever was found before it. -/
theorem findApproval_missing_reason :
    ∀ {approvals : List AFF4Object} (found : Option (RDFURN × Int)),
      (∃ approval ∈ approvals, approval.cells.reason.newest = none) →
        findApproval "None" approvals found = .error (.attributeError "'NoneType' object has no attribute 'age'")
  | [], _, ⟨_, member, _⟩ => by cases member
  | approval :: rest, found, ⟨missing, member, noReason⟩ => by
    -- The head raises when it is the one with no reason; otherwise the loop goes on to the rest.
    unfold findApproval
    cases newest : approval.cells.reason.newest with
    | none => rfl
    | some version =>
      have later : missing ∈ rest := by
        rcases List.mem_cons.mp member with rfl | later
        · rw [newest] at noReason
          cases noReason
        · exact later
      dsimp only
      split <;> exact findApproval_missing_reason _ ⟨missing, later, noReason⟩

/--
With the reason `None`, a grant that lists an approval with no reason raises `AttributeError`, and not
`UnauthorizedAccess`: the missing reason reads as `None` too, and then its age is read.
-/
theorem grant_missing_reason_raises (notify : Cells → Notification → Int → Cells) (mailer : Mailer)
    (grantor : ApprovalGrantor) (now : Int) (store : Store) (noneReason : grantor.reason = "None")
    (missing : ∃ approval ∈ grantor.listedApprovals store, approval.cells.reason.newest = none) :
    grantor.grant notify mailer now store =
      .error (.attributeError "'NoneType' object has no attribute 'age'") store := by
  obtain ⟨approval, listed, noReason⟩ := missing
  -- An approval is listed, so the listing is not empty and the loop runs into it.
  have nonempty : store.listChildren (approvalsRootUrn grantor.subjectUrn grantor.delegate) ≠ [] := by
    intro empty
    simp [ApprovalGrantor.listedApprovals, empty, Store.multiOpen] at listed
  unfold ApprovalGrantor.grant
  rw [if_neg nonempty, noneReason, findApproval_missing_reason none ⟨approval, listed, noReason⟩]

/-- `bob` granting `alice` the hunt `H1` for the reason `None`. -/
def noneReasonGrantor : ApprovalGrantor :=
  ⟨.hunt, "None", (rootUrn.add "hunts").add "H1", "alice", { username := "bob", reason := none }⟩

/-- A store holding, under `alice`'s approvals of the hunt `H1`, one hunt approval with no reason. -/
def reasonlessApprovalStore : Store :=
  ⟨fun urn => if urn = (approvalsRootUrn ((rootUrn.add "hunts").add "H1") "alice").add "approval:1" then
      { Cells.empty with type := Cells.empty.type.add .huntApproval 1 }
    else .empty,
   fun urn => if urn = approvalsRootUrn ((rootUrn.add "hunts").add "H1") "alice" then ["approval:1"] else []⟩

/-- `bob`'s grant for the reason `None` over the approval with no reason raises `AttributeError`. -/
theorem noneReasonGrantor_raises :
    noneReasonGrantor.reason = "None" ∧
      (∃ approval ∈ noneReasonGrantor.listedApprovals reasonlessApprovalStore,
        approval.cells.reason.newest = none) ∧
      noneReasonGrantor.grant (fun cells _ _ => cells) Mailer.disabled 5 reasonlessApprovalStore =
        .error (.attributeError "'NoneType' object has no attribute 'age'") reasonlessApprovalStore :=
  have missing : ∃ approval ∈ noneReasonGrantor.listedApprovals reasonlessApprovalStore,
      approval.cells.reason.newest = none := by
    refine ⟨_, List.mem_singleton_self _, ?_⟩
    rfl
  ⟨rfl, missing, grant_missing_reason_raises _ _ _ _ _ rfl missing⟩

end GrrAcl
