import GrrAcl.Gui.ApiCallRouter
import GrrAcl.Proofs.UrnLayout

/-! The API router's checks: granting more access never takes a call away, and a client is checked under its normal id. -/

namespace GrrAcl

/-- A second outcome of a check passes whenever the first does: it passes, or it is the first again. -/
def PassesMore (check check' : Except Error Unit) : Prop :=
  check' = .ok () ∨ check' = check

/-- A check that passed passes again under an outcome that passes more. -/
theorem PassesMore.ok {check check' : Except Error Unit} (more : PassesMore check check')
    (passed : check = .ok ()) : check' = .ok () :=
  more.elim id fun same => same.trans passed

/--
A second router environment grants at least what the first does: each check of its managers passes
where the first's passes, and it reads the same hunts.
-/
structure RouterEnv.GrantsMore (env env' : RouterEnv) : Prop where
  /-- `CheckClientAccess` of the legacy manager. -/
  clientAccess : ∀ token urn,
    PassesMore (env.legacyManager.checkClientAccess token urn) (env'.legacyManager.checkClientAccess token urn)
  /-- `CheckHuntAccess` of the legacy manager. -/
  huntAccess : ∀ token urn,
    PassesMore (env.legacyManager.checkHuntAccess token urn) (env'.legacyManager.checkHuntAccess token urn)
  /-- `CheckCronJobAccess` of the legacy manager. -/
  cronJobAccess : ∀ token urn,
    PassesMore (env.legacyManager.checkCronJobAccess token urn) (env'.legacyManager.checkCronJobAccess token urn)
  /-- `CheckIfCanStartFlow` of the legacy manager. -/
  startFlow : ∀ token flowName,
    PassesMore (env.legacyManager.checkIfCanStartFlow token flowName) (env'.legacyManager.checkIfCanStartFlow token flowName)
  /-- `CheckUserForLabels`. -/
  labels : ∀ username labels, PassesMore (env.checkUserForLabels username labels) (env'.checkUserForLabels username labels)
  /-- The hunts are the same, with the same creators. -/
  huntCreator : env'.huntCreator = env.huntCreator

/-- A list of checks passes exactly when each of its checks passes. -/
theorem runChecks_ok_iff (env : RouterEnv) (args : ApiArgs) (token : ACLToken) :
    ∀ {checks : List AccessCheck},
      runChecks env args token checks = .ok () ↔ ∀ check ∈ checks, check.run env args token = .ok ()
  | [] => by simp [runChecks]
  | check :: rest => by
    cases first : check.run env args token with
    | error error => simp [runChecks, first, bind, Except.bind]
    | ok _ => simp [runChecks, first, bind, Except.bind, runChecks_ok_iff env args token]

namespace RouterEnv.GrantsMore

variable {env env' : RouterEnv} (more : env.GrantsMore env')
include more

/-- Each single check passes under the environment that grants more where it passed. -/
theorem run (args : ApiArgs) (token : ACLToken) :
    ∀ check : AccessCheck, PassesMore (check.run env args token) (check.run env' args token)
  | .client => by
    unfold AccessCheck.run ApiCallRouterWithApprovalChecks.checkClientAccess
    cases clientURN args.clientId with
    | error error => exact .inr rfl
    | ok clientUrn => exact more.clientAccess token clientUrn
  | .hunt => more.huntAccess _ _
  | .cronJob => more.cronJobAccess _ _
  | .startFlow => more.startFlow _ _
  | .admin => more.labels _ _

/-- A list of checks passes under the environment that grants more where it passed. -/
theorem runChecks {args : ApiArgs} {token : ACLToken} {checks : List AccessCheck}
    (passed : runChecks env args token checks = .ok ()) : GrrAcl.runChecks env' args token checks = .ok () :=
  (runChecks_ok_iff env' args token).mpr fun check member =>
    (more.run args token check).ok ((runChecks_ok_iff env args token).mp passed check member)

end RouterEnv.GrantsMore

/-- A router whose managers refuse every check: a user with no approval and no label. -/
def refusingEnv : RouterEnv where
  legacyManager :=
    { checkClientAccess := fun _ urn => .error (.unauthorizedAccess "No approval found." (some urn) none)
      checkHuntAccess := fun _ urn => .error (.unauthorizedAccess "No approval found." (some urn) none)
      checkCronJobAccess := fun _ urn => .error (.unauthorizedAccess "No approval found." (some urn) none)
      checkIfCanStartFlow := fun _ _ => .error (.unauthorizedAccess "No approval found." none none) }
  checkUserForLabels := fun _ _ => .error (.unauthorizedAccess "User is not an admin." none none)
  huntCreator := fun _ => some "alice"

/-- A router over the same hunts whose managers pass every check. -/
def grantingEnv : RouterEnv where
  legacyManager := ⟨fun _ _ => .ok (), fun _ _ => .ok (), fun _ _ => .ok (), fun _ _ => .ok ()⟩
  checkUserForLabels := fun _ _ => .ok ()
  huntCreator := fun _ => some "alice"

/-- The router that passes every check grants more than the one that refuses every check. -/
theorem refusingEnv_grantsMore : refusingEnv.GrantsMore grantingEnv :=
  ⟨fun _ _ => .inl rfl, fun _ _ => .inl rfl, fun _ _ => .inl rfl, fun _ _ => .inl rfl, fun _ _ => .inl rfl, rfl⟩

/-- The arguments of a call on client `C.1000000000000000`, hunt `H:123456` and cron job `job`. -/
def bobArgs : ApiArgs := ⟨"C.1000000000000000", "H:123456", "job", "", ""⟩

/-- The token of `bob`, who created no hunt. -/
def bobToken : ACLToken := { username := "bob", reason := none }

example : ApiCallRouterWithApprovalChecks.call refusingEnv .createFlow bobArgs bobToken =
    .error (.unauthorizedAccess "No approval found." (some (rootUrn.add "C.1000000000000000")) none) := rfl

example : ApiCallRouterWithApprovalChecks.call refusingEnv .deleteHunt bobArgs { bobToken with username := "alice" } =
    .ok (.delegated .deleteHunt) := rfl

/-- `ToClientURN` either raises a type error or names the normal form of a valid client id. -/
theorem clientURN_cases (value : String) :
    (∃ message, clientURN value = .error (.typeValueError message)) ∨
      ∃ clientId, validateClientId clientId = true ∧
        clientURN value = .ok (rootUrn.add (normalizeClientId clientId)) := by
  unfold clientURN
  simp only
  split
  · rename_i clientId _
    split
    · rename_i valid
      exact .inr ⟨clientId, valid, rfl⟩
    · exact .inl ⟨_, rfl⟩
  · exact .inl ⟨_, rfl⟩

/-- A valid client id's normal form is its own normal form. -/
theorem normalizeClientId_normalizeClientId {clientId : String} (valid : validateClientId clientId = true) :
    normalizeClientId (normalizeClientId clientId) = normalizeClientId clientId := by
  obtain ⟨letter, digits, layout, lettered, -, hex⟩ := validateClientId_data valid
  have upper : letter.toUpper.toUpper = letter.toUpper := by rcases lettered with rfl | rfl <;> rfl
  have lower : (digits.map Char.toLower).map Char.toLower = digits.map Char.toLower := by
    rw [List.map_map]
    exact List.map_congr_left fun digit member => (hexDigits_plain digit (hex digit member)).2.2.2
  apply String.ext
  change (normalizeClientId _).toList = (normalizeClientId _).toList
  rw [normalizeClientId_data (normalizeClientId_data layout), normalizeClientId_data layout, upper, lower]

end GrrAcl
