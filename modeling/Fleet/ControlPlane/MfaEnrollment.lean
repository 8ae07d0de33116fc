import Fleet.ControlPlane.Auth
import Fleet.Shared.Execution

set_option autoImplicit false

namespace Fleet.MfaEnrollment

open Identity Auth Execution

section Tokens

variable {world : World} {now : Nat} {bearer : Option Token}

theorem principalOf_ok {accepts : Scope → Bool} {refusal : String} {principal : Principal}
    {scope : Scope}
    (admitted : principalOf world now bearer accepts refusal = .ok (principal, scope)) :
    world.accounts.find? principal.id = some principal := by
  obtain ⟨-, -, -, -, -, -, found, -⟩ := principalOf_holds admitted
  exact found

-- The routes that name no node ask for the global role.
theorem guarded_admin {route : Routes.Request} {admin : Principal}
    (unscoped : route.nodeId? = none) (need : Routes.requiredRole route = .admin)
    (granted : guarded world now bearer route = .ok admin) :
    ∃ scope, getCurrentPrincipal world now bearer = .ok (admin, scope) ∧
      roleAtLeast admin.globalRole .admin = true := by
  obtain ⟨scope, current, held⟩ := guarded_eq_ok.1 granted
  rw [unscoped, need] at held
  exact ⟨scope, current, held⟩

end Tokens

section Requests

variable (primitives : Primitives) (settings : Settings) (world : World) (request : Request)

/-- An admin's request that resets the principal's MFA or deletes it. -/
def AdminReset (id : String) : Prop :=
  (∃ admin scope, getCurrentPrincipal world request.now request.bearer = .ok (admin, scope) ∧
      roleAtLeast admin.globalRole .admin = true) ∧
    match request.body with
    | .updatePrincipal principalId _ payload => principalId = id ∧ payload.resets = true
    | .deletePrincipal principalId => principalId = id
    | _ => False

/-- Who is enrolled stays enrolled with the same secret, unless an admin resets it. -/
def Undisturbed : Prop :=
  ∀ id principal, world.accounts.find? id = some principal → principal.mfaEnabled = true →
    (∃ after, (handle primitives settings world request).1.accounts.find? id = some after ∧
        after.mfaEnabled = true ∧ after.totpSecret = principal.totpSecret) ∨
      AdminReset world request id

/-- No enrolment is admitted for a principal that is enrolled by now. -/
def Timely (world : World) (request : Request) : Prop :=
  match request.body with
  | .mfaEnroll _ =>
      ∀ principal,
        getPreauthPrincipal world request.now request.bearer = .ok (principal, .enroll) →
          principal.mfaEnabled = false
  | _ => True

variable {primitives settings world request}

theorem requiredRole_updatePrincipal (id : String) :
    Routes.requiredRole (.updatePrincipal id) = .admin := by
  have template : Routes.isAdminRoute .patch "/api/v1/principals/{principal_id}" = true := by
    decide +kernel
  simp [Routes.requiredRole, Routes.Request.method, Routes.Request.template, template]

theorem requiredRole_deletePrincipal (id : String) :
    Routes.requiredRole (.deletePrincipal id) = .admin := by
  have template : Routes.isAdminRoute .delete "/api/v1/principals/{principal_id}" = true := by
    decide +kernel
  simp [Routes.requiredRole, Routes.Request.method, Routes.Request.template, template]

theorem login_accounts (now : Nat) (limiterKey username password : String) :
    (login primitives settings world now limiterKey username password).1.accounts =
      world.accounts := by
  unfold login
  dsimp only
  split
  · rfl
  · split <;> rfl

theorem createPrincipal_find? {actor newId salt : String} {payload : PrincipalCreateIn}
    {id : String} {principal : Principal} (found : world.accounts.find? id = some principal) :
    (createPrincipal primitives world actor newId salt payload).1.accounts.find? id =
      some principal := by
  unfold createPrincipal
  split
  · exact found
  · dsimp only
    split
    · exact found
    next inserted => exact world.accounts.find?_insert inserted found

theorem checkCode_cases {accounts after : Accounts} {principal : Principal} {scope : Scope}
    {code : String} {now : Nat}
    (checked : checkCode primitives accounts principal scope code now = .ok after) :
    after = accounts ∨
      after = accounts.amend principal.id confirmed := by
  unfold checkCode at checked
  split at checked
  · cases checked
  · cases checked
  · split at checked
    · exact .inr (Except.ok.inj checked).symm
    · exact .inl (Except.ok.inj checked).symm

-- A verified code only ever turns MFA on.
theorem mfaVerify_find? {now : Nat} {bearer : Option Token} {limiterKey : String → String}
    {code id : String} {principal : Principal}
    (found : world.accounts.find? id = some principal) (enabled : principal.mfaEnabled = true) :
    ∃ after, (mfaVerify primitives settings world now bearer limiterKey code).1.accounts.find? id =
        some after ∧ after.mfaEnabled = true ∧ after.totpSecret = principal.totpSecret := by
  unfold mfaVerify
  split
  · exact ⟨principal, found, enabled, rfl⟩
  next holder scope _ =>
    dsimp only
    split
    · exact ⟨principal, found, enabled, rfl⟩
    · split
      · exact ⟨principal, found, enabled, rfl⟩
      next accounts checked =>
        rcases checkCode_cases checked with rfl | rfl
        · exact ⟨principal, found, enabled, rfl⟩
        · by_cases here : id = holder.id
          · refine ⟨confirmed.change principal, ?_, rfl, rfl⟩
            simp [Accounts.find?_amend, here ▸ found, here]
          · refine ⟨principal, ?_, enabled, rfl⟩
            simp [Accounts.find?_amend, found, here]

theorem mfaEnroll_find? {now : Nat} {bearer : Option Token} {secret id : String}
    {principal : Principal} (found : world.accounts.find? id = some principal)
    (timely : ∀ holder, getPreauthPrincipal world now bearer = .ok (holder, .enroll) →
      holder.id ≠ id) :
    (mfaEnroll primitives world now bearer secret).1.accounts.find? id = some principal := by
  unfold mfaEnroll
  split
  · exact found
  next holder scope admitted =>
    split
    · exact found
    next enrolls =>
      obtain rfl : scope = .enroll := by simpa using enrolls
      dsimp only [beginEnrollment]
      rw [Accounts.find?_amend, if_neg (Ne.symm (timely holder admitted)), found]

theorem updatePrincipal_find? {actor principalId salt id : String} {payload : PrincipalUpdateIn}
    {principal : Principal} (found : world.accounts.find? id = some principal)
    (kept : principalId = id → payload.resets = false) :
    ∃ after,
      (updatePrincipal primitives world actor principalId salt payload).1.accounts.find? id =
        some after ∧
      after.mfaEnabled = principal.mfaEnabled ∧ after.totpSecret = principal.totpSecret := by
  unfold updatePrincipal
  split
  · exact ⟨principal, found, rfl, rfl⟩
  · split
    · exact ⟨principal, found, rfl, rfl⟩
    · by_cases here : id = principalId
      · refine ⟨(updated primitives payload salt).change principal, ?_, ?_, ?_⟩
        · simp [Accounts.find?_amend, here ▸ found, here]
        · simp [updated, kept here.symm]
        · simp [updated, kept here.symm]
      · refine ⟨principal, ?_, rfl, rfl⟩
        simp [Accounts.find?_amend, found, here]

theorem deletePrincipal_find? {actor principalId id : String} {principal : Principal}
    (found : world.accounts.find? id = some principal) (apart : id ≠ principalId) :
    (deletePrincipal world actor principalId).1.accounts.find? id = some principal := by
  unfold deletePrincipal
  split
  · exact found
  · rw [World.log_accounts, Accounts.find?_remove _ _ _ apart, found]

theorem updatePrincipal_undisturbed {now : Nat} {bearer : Option Token} {principalId salt : String}
    {payload : PrincipalUpdateIn} {forwarded : String} {peer : Option String} :
    Undisturbed primitives settings world
      ⟨now, bearer, forwarded, peer, .updatePrincipal principalId salt payload⟩ := by
  intro id principal found enabled
  unfold handle
  dsimp only
  split
  · exact .inl ⟨principal, found, enabled, rfl⟩
  next admin granted =>
    by_cases reset : principalId = id ∧ payload.resets = true
    · obtain ⟨scope, current, held⟩ :=
        guarded_admin rfl (requiredRole_updatePrincipal principalId) granted
      exact .inr ⟨⟨admin, scope, current, held⟩, reset⟩
    · have kept : principalId = id → payload.resets = false := fun same =>
        Bool.eq_false_iff.2 fun resets => reset ⟨same, resets⟩
      obtain ⟨after, stored, sameFlag, sameSecret⟩ := updatePrincipal_find? found kept
      exact .inl ⟨after, stored, sameFlag.trans enabled, sameSecret⟩

theorem deletePrincipal_undisturbed {now : Nat} {bearer : Option Token} {principalId : String}
    {forwarded : String} {peer : Option String} :
    Undisturbed primitives settings world
      ⟨now, bearer, forwarded, peer, .deletePrincipal principalId⟩ := by
  intro id principal found enabled
  unfold handle
  dsimp only
  split
  · exact .inl ⟨principal, found, enabled, rfl⟩
  next admin granted =>
    by_cases same : principalId = id
    · obtain ⟨scope, current, held⟩ :=
        guarded_admin rfl (requiredRole_deletePrincipal principalId) granted
      exact .inr ⟨⟨admin, scope, current, held⟩, same⟩
    · exact .inl ⟨principal, deletePrincipal_find? found (Ne.symm same), enabled, rfl⟩

-- An enrolment that is admitted always turns MFA off until its code is verified.
theorem mfaEnroll_disturbs (primitives : Primitives) (secret : String) {now : Nat}
    {bearer : Option Token} {holder : Principal}
    (admitted : getPreauthPrincipal world now bearer = .ok (holder, .enroll)) :
    ((mfaEnroll primitives world now bearer secret).1.accounts.find? holder.id).map
      Principal.mfaEnabled = some false := by
  have found := principalOf_ok admitted
  simp [mfaEnroll, admitted, beginEnrollment, Accounts.find?_amend, found, enrolling]

theorem undisturbed_iff : Undisturbed primitives settings world request ↔ Timely world request := by
  obtain ⟨now, bearer, forwarded, peer, body⟩ := request
  cases body with
  | login username password =>
      refine iff_of_true (fun id principal found enabled => ?_) trivial
      exact .inl ⟨principal, (congrArg (·.find? id) (login_accounts ..)).trans found, enabled, rfl⟩
  | mfaVerify code =>
      exact iff_of_true (fun id principal found enabled => .inl (mfaVerify_find? found enabled))
        trivial
  | createPrincipal newId salt payload =>
      refine iff_of_true (fun id principal found enabled => ?_) trivial
      refine .inl ⟨principal, ?_, enabled, rfl⟩
      unfold handle
      dsimp only
      split
      · exact found
      · exact createPrincipal_find? found
  | updatePrincipal => exact iff_of_true updatePrincipal_undisturbed trivial
  | deletePrincipal => exact iff_of_true deletePrincipal_undisturbed trivial
  | mfaEnroll secret =>
      constructor
      · intro undisturbed holder admitted
        by_contra enrolled
        have disturbed := mfaEnroll_disturbs primitives secret admitted
        rcases undisturbed holder.id holder (principalOf_ok admitted) (by simpa using enrolled) with
          ⟨after, stored, enabled, -⟩ | ⟨-, impossible⟩
        · have stored : (mfaEnroll primitives world now bearer secret).1.accounts.find? holder.id =
              some after := stored
          simp [stored, enabled] at disturbed
        · exact impossible
      · intro timely id principal found enabled
        refine .inl ⟨principal, mfaEnroll_find? found ?_, enabled, rfl⟩
        rintro holder admitted rfl
        have same := found.symm.trans (principalOf_ok admitted)
        rw [Option.some.inj same, timely holder admitted] at enabled
        cases enabled

theorem enrollment_sticks_iff (primitives : Primitives) (settings : Settings) (world : World)
    (requests : List Request) :
    Along (Undisturbed primitives settings) (step primitives settings) world requests ↔
      Along Timely (step primitives settings) world requests :=
  ⟨Along.mono fun _ _ => undisturbed_iff.1, Along.mono fun _ _ => undisturbed_iff.2⟩

end Requests

section Replay

def EnrollmentSticks : Prop :=
  ∀ (primitives : Primitives) (settings : Settings) (world : World) (requests : List Request),
    Along (Undisturbed primitives settings) (step primitives settings) world requests

def primitives : Primitives where
  verifyPassword := fun passwordHash password => passwordHash = "argon2:" ++ password
  hashPassword := fun password _ => "argon2:" ++ password
  verifyTotp := fun secret code now => code = secret ++ toString (now / 30)
  provisioningUri := fun secret name => "otpauth://totp/" ++ name ++ "?secret=" ++ secret

def newcomer : Principal := { id := "p-1", username := "eve", passwordHash := "argon2:pw" }

def fresh : World :=
  ⟨⟨[newcomer], by simp [Keyed.Unique], by simp [Keyed.Unique]⟩, [], [], []⟩

def stepToken : Token := ⟨"p-1", .enroll, 1000, 1600⟩

def enrolled : List Request :=
  [{ now := 1000, body := .login "eve" "pw" },
    { now := 1010, bearer := some stepToken, body := .mfaEnroll "JBSWY3DP" },
    { now := 1020, bearer := some stepToken, body := .mfaVerify "JBSWY3DP34" }]

-- The token of the login is good for ten minutes, also after the enrolment it was issued for.
def replay : Request := { now := 1500, bearer := some stepToken, body := .mfaEnroll "NB2W45DF" }

def secured : World := (run (step primitives {}) fresh enrolled).getD fresh

theorem replay_replaces_secret :
    (secured.accounts.find? "p-1").map Principal.mfaEnabled = some true ∧
      ((handle primitives {} secured replay).1.accounts.find? "p-1").map
        (fun principal => (principal.mfaEnabled, principal.totpSecret)) =
          some (false, some "NB2W45DF") := by
  decide +kernel

theorem enrollment_undone : ¬ EnrollmentSticks := by
  intro sticks
  have along := sticks primitives {} fresh (enrolled ++ [replay])
  obtain ⟨-, late⟩ := (along_append _ _ _ _ _).1 along
  have undisturbed : Undisturbed primitives {} secured replay := (late secured rfl).1
  obtain ⟨enabledBefore, replaced⟩ := replay_replaces_secret
  obtain ⟨holder, found, enabled⟩ := Option.map_eq_some_iff.1 enabledBefore
  obtain ⟨changed, stored, same⟩ := Option.map_eq_some_iff.1 replaced
  rcases undisturbed "p-1" holder found enabled with ⟨after, kept, stays, -⟩ | ⟨-, impossible⟩
  · obtain rfl := Option.some.inj (stored.symm.trans kept)
    rw [(Prod.mk.inj same).1] at stays
    cases stays
  · exact impossible

end Replay

end Fleet.MfaEnrollment
