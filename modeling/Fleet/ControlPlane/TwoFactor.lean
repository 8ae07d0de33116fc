import Fleet.ControlPlane.ApiEffects
import Fleet.ControlPlane.MfaEnrollment
import Fleet.ControlPlane.ResponseContract

set_option autoImplicit false

namespace Fleet.TwoFactor

open Identity Api Execution

-- A request with the world that serves it.
abbrev Event := World × Request

section Factors

variable (primitives : Auth.Primitives)

/-- A login that is given the password of the principal, by the hash it has at that time. -/
def PasswordVerified (id : String) (event : Event) : Prop :=
  ∃ username password principal, event.2.target = .login username password ∧
    event.1.accounts.find? id = some principal ∧ principal.username = username ∧
      primitives.verifyPassword principal.passwordHash password = true

/-- A verification that is given a code of the secret stored for the principal at that time. -/
def CodeVerified (id : String) (event : Event) : Prop :=
  ∃ code principal secret, event.2.target = .mfaVerify code ∧
    event.1.accounts.find? id = some principal ∧ principal.totpSecret = some secret ∧
      primitives.verifyTotp secret code event.2.now = true

def Earned (past : List Event) (token : Auth.Token) : Prop :=
  (∃ event ∈ past, PasswordVerified primitives token.sub event) ∧
    (token.scope = .full →
      InOrder (PasswordVerified primitives token.sub) (CodeVerified primitives token.sub) past)

end Factors

section Issuing

variable {primitives : Auth.Primitives} {settings : Auth.Settings} {world : Auth.World}

theorem authenticate_verifies {accounts : Auth.Accounts} {username password : String}
    {principal : Principal}
    (admitted : Auth.authenticate primitives accounts username password = some principal) :
    accounts.find? principal.id = some principal ∧ principal.username = username ∧
      primitives.verifyPassword principal.passwordHash password = true := by
  unfold Auth.authenticate at admitted
  split at admitted
  · cases admitted
  next found =>
    split at admitted
    · cases admitted
    next passed =>
      cases admitted
      refine ⟨accounts.ids.lookup_of_mem (Keyed.mem_of_lookup found), Keyed.lookup_key found, ?_⟩
      simpa using (not_or.1 passed).2

theorem login_issued {now : Nat} {limiterKey username password : String} {token : Auth.Token}
    (issued : token ∈
      (Auth.login primitives settings world now limiterKey username password).1.issued) :
    token ∈ world.issued ∨ token.scope ≠ .full ∧ ∃ principal,
      Auth.authenticate primitives world.accounts username password = some principal ∧
        token.sub = principal.id := by
  unfold Auth.login at issued
  dsimp only at issued
  split at issued
  · exact .inl issued
  · split at issued
    · exact .inl issued
    next principal admitted =>
      rcases List.mem_append.1 issued with earlier | here
      · exact .inl earlier
      · obtain rfl := List.mem_singleton.1 here
        refine .inr ⟨?_, principal, admitted, rfl⟩
        unfold Auth.createToken
        split <;> simp

theorem mfaEnroll_issued (now : Nat) (bearer : Option Auth.Token) (secret : String) :
    (Auth.mfaEnroll primitives world now bearer secret).1.issued = world.issued := by
  unfold Auth.mfaEnroll
  split
  · rfl
  · split <;> rfl

theorem checkCode_verifies {accounts after : Auth.Accounts} {principal : Principal}
    {scope : Auth.Scope} {code : String} {now : Nat}
    (checked : Auth.checkCode primitives accounts principal scope code now = .ok after) :
    ∃ secret, principal.totpSecret = some secret ∧
      primitives.verifyTotp secret code now = true := by
  unfold Auth.checkCode Auth.verifyTotp at checked
  cases stored : principal.totpSecret with
  | none => simp [stored] at checked
  | some secret =>
      cases verified : primitives.verifyTotp secret code now with
      | false => simp [stored, verified] at checked
      | true => exact ⟨secret, rfl, verified⟩

theorem mfaVerify_issued {now : Nat} {bearer : Option Auth.Token} {limiterKey : String → String}
    {code : String} {token : Auth.Token}
    (issued : token ∈
      (Auth.mfaVerify primitives settings world now bearer limiterKey code).1.issued) :
    token ∈ world.issued ∨ ∃ principal secret, token.sub = principal.id ∧
      (∃ step ∈ world.issued, step.sub = principal.id) ∧
        world.accounts.find? principal.id = some principal ∧
          principal.totpSecret = some secret ∧ primitives.verifyTotp secret code now = true := by
  unfold Auth.mfaVerify at issued
  split at issued
  · exact .inl issued
  next principal scope admitted =>
    dsimp only at issued
    split at issued
    · exact .inl issued
    · split at issued
      · exact .inl issued
      next accounts checked =>
        rcases List.mem_append.1 issued with earlier | here
        · exact .inl earlier
        · obtain rfl := List.mem_singleton.1 here
          obtain ⟨step, held, -, sub, -, -, found, -⟩ := Auth.principalOf_holds admitted
          obtain ⟨secret, stored, verified⟩ := checkCode_verifies checked
          exact .inr ⟨principal, secret, rfl, ⟨step, held, sub⟩, found, stored, verified⟩

end Issuing

section Runs

variable {Moment : Type} (platform : Platform Moment)

-- A new token is a step token of a login or the full token of a verified step token.
theorem handle_issued {world : World} {request : Request} {token : Auth.Token}
    (issued : token ∈ (handle platform world request).world.issued) :
    token ∈ world.issued ∨
      (token.scope ≠ .full ∧ PasswordVerified platform.primitives token.sub (world, request)) ∨
        (CodeVerified platform.primitives token.sub (world, request) ∧
          ∃ step ∈ world.issued, step.sub = token.sub) := by
  unfold handle at issued
  dsimp only at issued
  split at issued
  · exact .inl issued
  · exact .inl issued
  next username password asked =>
    rcases login_issued issued with earlier | ⟨stepScope, principal, admitted, sub⟩
    · exact .inl earlier
    · obtain ⟨found, named, verified⟩ := authenticate_verifies admitted
      refine .inr (.inl ⟨stepScope, username, password, principal, asked, ?_, named, verified⟩)
      rw [sub]
      exact found
  · simp only [unguarded, ofAuth, leave, mfaEnroll_issued] at issued
    exact .inl issued
  next code asked =>
    rcases mfaVerify_issued issued with earlier | ⟨principal, secret, sub, step, found, rest⟩
    · exact .inl earlier
    · rw [sub]
      exact .inr (.inr ⟨⟨code, principal, secret, asked, found, rest⟩, step⟩)
  · split at issued <;> exact .inl issued
  · split at issued
    · exact .inl issued
    · split at issued
      · exact .inl issued
      next ran => exact .inl ((handler_effect ran).issued ▸ issued)

theorem handle_ranAs {world : World} {request : Request} {principal : Principal}
    (ran : (handle platform world request).ranAs = some principal) :
    ∃ token ∈ world.issued, request.bearer = some token ∧ token.sub = principal.id ∧
      token.scope = .full ∧ world.accounts.find? principal.id = some principal ∧
        principal.disabled = false := by
  unfold handle at ran
  dsimp only at ran
  split at ran
  · cases ran
  · cases ran
  · cases ran
  · cases ran
  · cases ran
  · split at ran
    · cases ran
    next current =>
      cases ran
      exact current_full current
  · split at ran
    · cases ran
    next granted =>
      split at ran
      · cases ran
      · cases ran
        exact guarded_full granted

theorem earned_step (past : List Event) (world : World) (request : Request) (next : World)
    (earned : ∀ token ∈ world.issued, Earned platform.primitives past token)
    (taken : step platform world request = some next) :
    ∀ token ∈ next.issued, Earned platform.primitives (past ++ [(world, request)]) token := by
  cases taken
  intro token issued
  rcases handle_issued platform issued with earlier | ⟨stepScope, verified⟩ | ⟨verified, held⟩
  · obtain ⟨⟨event, member, login⟩, ordered⟩ := earned token earlier
    exact ⟨⟨event, by simp [member], login⟩, fun full => (ordered full).append _⟩
  · exact ⟨⟨_, by simp, verified⟩, fun full => absurd full stepScope⟩
  · obtain ⟨stepToken, present, same⟩ := held
    obtain ⟨⟨event, member, login⟩, -⟩ := earned stepToken present
    rw [same] at login
    exact ⟨⟨event, by simp [member], login⟩, fun _ => inOrder_of_last member login verified⟩

theorem session_has_two_factors (initial : World) (unissued : initial.issued = [])
    (requests : List Request) (world : World)
    (reached : run (step platform) initial requests = some world) (request : Request)
    (principal : Principal) (ran : (handle platform world request).ranAs = some principal) :
    (world.accounts.find? principal.id = some principal ∧ principal.disabled = false) ∧
      InOrder (PasswordVerified platform.primitives principal.id)
        (CodeVerified platform.primitives principal.id)
        (history (step platform) initial requests) := by
  have earned := run_history
    (fun past world => ∀ token ∈ world.issued, Earned platform.primitives past token)
    (earned_step platform) [] (by simp [unissued]) reached
  obtain ⟨token, issued, -, sub, full, found, active⟩ := handle_ranAs platform ran
  have ordered := (earned token issued).2 full
  rw [sub] at ordered
  exact ⟨⟨found, active⟩, ordered⟩

end Runs

section Session

open MfaEnrollment (primitives stepToken)

def platform : Platform String :=
  ⟨primitives, ShimResponses.bareRuntime, fun _ => "", {}, ⟨3⟩⟩

def noon : Datetime := ⟨2026, 9, 22, 12, 0, 0, 0, 0⟩

-- No node answers and nothing is drawn but the secret.
def quiet (secret : String) : Environment where
  ts := noon
  newId := ""
  salt := ""
  secret := secret
  escapes := false
  actions := ⟨fun _ => ⟨.error (.adapterError ""), noon⟩, .notConfigured⟩
  created := fun _ => ⟨.error "", noon, noon⟩
  removed := fun _ => ⟨.error "", noon, noon⟩
  profiles := fun _ => .error ""
  listings := fun _ => ⟨.error "", noon⟩
  visit := ⟨.timedOut, none, noon⟩

def asked (now : Nat) (bearer : Option Auth.Token) (target : Target) : Request :=
  { now := now, bearer := bearer, target := target, environment := quiet "JBSWY3DP" }

def fresh : World where
  accounts := MfaEnrollment.fresh.accounts
  issued := []
  limits := []
  database := ⟨⟨[], [], [], []⟩, by decide⟩
  vitals := []

def fullToken : Auth.Token := ⟨"p-1", .full, 1020, 44220⟩

def signIn : List Request :=
  [asked 1000 none (.login "eve" "pw"), asked 1010 (some stepToken) .mfaEnroll,
    asked 1020 (some stepToken) (.mfaVerify "JBSWY3DP34")]

def signedIn : World := (run (step platform) fresh signIn).getD fresh

theorem eve_has_two_factors :
    InOrder (PasswordVerified primitives "p-1") (CodeVerified primitives "p-1")
      (history (step platform) fresh signIn) := by
  have ran : ((handle platform signedIn (asked 1100 (some fullToken) .me)).ranAs).map Principal.id =
      some "p-1" := by decide +kernel
  obtain ⟨eve, here, same⟩ := Option.map_eq_some_iff.1 ran
  have ordered := (session_has_two_factors platform fresh rfl signIn signedIn rfl
    (asked 1100 (some fullToken) .me) eve here).2
  rwa [same] at ordered

end Session

end Fleet.TwoFactor
