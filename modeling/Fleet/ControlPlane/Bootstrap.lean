import Fleet.ControlPlane.NoEscalation

set_option autoImplicit false

namespace Fleet.Bootstrap

open Identity Api Execution

structure Settings where
  bootstrapAdminUser : Option String := none
  bootstrapAdminPassword : Option String := none

inductive Event where
  | request (request : Request)
  -- The process starts on what is stored; the limiter was in memory.
  | start (newId salt : String)

section Lifespan

variable (primitives : Auth.Primitives) (settings : Settings)

-- `None` and the empty string are both unset.
def configured : Option (String × String) :=
  match settings.bootstrapAdminUser, settings.bootstrapAdminPassword with
  | some user, some password => if user ≠ "" ∧ password ≠ "" then some (user, password) else none
  | _, _ => none

def bootstrapAdmin (accounts : Auth.Accounts) (newId salt : String) : Auth.Accounts :=
  if accounts.principals.length > 0 then accounts
  else
    match configured settings with
    | none => accounts
    | some (user, password) =>
        let admin : Principal :=
          { id := newId, username := user, passwordHash := primitives.hashPassword password salt,
            globalRole := .admin, mfaEnabled := false }
        (accounts.insert admin).getD accounts

variable {Moment : Type} (platform : Platform Moment)

def step (world : World) : Event → Option World
  | .request request => Api.step platform world request
  | .start newId salt =>
      some { world with
        accounts := bootstrapAdmin platform.primitives settings world.accounts newId salt
        limits := [] }

end Lifespan

inductive Right where
  | role (principalId : String) (role : Role)
  | binding (principalId nodeId : String) (role : Role)

def Held (accounts : Auth.Accounts) : Right → Prop
  | .role id role => ∃ principal ∈ accounts.principals,
      principal.id = id ∧ principal.globalRole = role
  | .binding id nodeId role => ∃ principal ∈ accounts.principals,
      principal.id = id ∧ ⟨nodeId, role⟩ ∈ principal.bindings

/-- What the request asks to be given. -/
def Gives (request : Request) : Right → Prop
  | .role id role =>
      (∃ payload : Auth.PrincipalCreateIn,
        request.target = .guarded .createPrincipal (.principalCreate payload) ∧
          request.environment.newId = id ∧ payload.globalRole = role) ∨
        ∃ payload : Auth.PrincipalUpdateIn,
          request.target = .guarded (.updatePrincipal id) (.principalUpdate payload) ∧
            payload.globalRole = some (some role)
  | .binding id nodeId role =>
      request.target = .guarded (.setBinding id) (.roleBinding ⟨nodeId, role⟩)

/-- The request comes with the session of an admin who is enabled. -/
structure ActsAs (world : World) (request : Request) (principal : Principal) : Prop where
  member : principal ∈ world.accounts.principals
  enabled : principal.disabled = false
  admin : principal.globalRole = .admin
  admitted : ∃ route body, request.target = .guarded route body ∧
    Auth.guarded (enter world) request.now request.bearer route = .ok principal

/-- Along what happened, the right was given by somebody who was an admin then, whose own right was
given in the same way, back to the bootstrap of an empty table. -/
inductive Vouched (settings : Settings) : List (World × Event) → Right → Prop where
  | booted {past : List (World × Event)} {world : World} {newId salt : String}
      {given : String × String} (vacant : world.accounts.principals = [])
      (set : configured settings = some given) :
      Vouched settings (past ++ [(world, .start newId salt)]) (.role newId .admin)
  | granted {past : List (World × Event)} {world : World} {request : Request}
      {principal : Principal} {right : Right}
      (trusted : Vouched settings past (.role principal.id .admin))
      (acts : ActsAs world request principal) (gives : Gives request right) :
      Vouched settings (past ++ [(world, .request request)]) right
  | later {past : List (World × Event)} {right : Right} (vouched : Vouched settings past right)
      (moment : World × Event) : Vouched settings (past ++ [moment]) right

/-- Nobody is new, and nobody holds more. -/
def Shrinks (before after : Auth.Accounts) : Prop :=
  ∀ new ∈ after.principals, ∃ old ∈ before.principals,
    new.id = old.id ∧ new.globalRole = old.globalRole ∧ new.bindings ⊆ old.bindings

section Rights

variable {before after accounts : Auth.Accounts} {right : Right}

theorem Shrinks.held (shrinks : Shrinks before after) (held : Held after right) :
    Held before right := by
  cases right with
  | role id role =>
      obtain ⟨new, member, rfl, rfl⟩ := held
      obtain ⟨old, present, same, role, -⟩ := shrinks new member
      exact ⟨old, present, same.symm, role.symm⟩
  | binding id nodeId role =>
      obtain ⟨new, member, rfl, bound⟩ := held
      obtain ⟨old, present, same, -, bindings⟩ := shrinks new member
      exact ⟨old, present, same.symm, bindings bound⟩

theorem shrinks_refl (accounts : Auth.Accounts) : Shrinks accounts accounts :=
  fun principal member => ⟨principal, member, rfl, rfl, List.Subset.refl _⟩

theorem shrinks_amend {amendment : Auth.Amendment}
    (narrows : ∀ principal, (amendment.change principal).globalRole = principal.globalRole ∧
      (amendment.change principal).bindings ⊆ principal.bindings) (id : String) :
    Shrinks accounts (accounts.amend id amendment) := by
  intro new member
  obtain ⟨old, present, rfl⟩ := List.mem_map.1 member
  refine ⟨old, present, ?_⟩
  split
  · exact ⟨amendment.ids old, narrows old⟩
  · exact ⟨rfl, rfl, List.Subset.refl _⟩

theorem shrinks_amendAll {amendment : Auth.Amendment}
    (narrows : ∀ principal, (amendment.change principal).globalRole = principal.globalRole ∧
      (amendment.change principal).bindings ⊆ principal.bindings) :
    Shrinks accounts (accounts.amendAll amendment) := by
  intro new member
  obtain ⟨old, present, rfl⟩ := List.mem_map.1 member
  exact ⟨old, present, amendment.ids old, narrows old⟩

theorem shrinks_unbound (nodeId : String) (principal : Principal) :
    ((unbound nodeId).change principal).globalRole = principal.globalRole ∧
      ((unbound nodeId).change principal).bindings ⊆ principal.bindings :=
  ⟨rfl, List.filter_subset_self _⟩

end Rights

section Handlers

variable {Moment : Type} {platform : Platform Moment} {world : World} {right : Right}

theorem mfaEnroll_shrinks {before : Auth.World} (now : Nat) (bearer : Option Auth.Token)
    (secret : String) :
    Shrinks before.accounts
      (Auth.mfaEnroll platform.primitives before now bearer secret).1.accounts := by
  unfold Auth.mfaEnroll
  split
  · exact shrinks_refl _
  · split
    · exact shrinks_refl _
    · exact shrinks_amend (fun _ => ⟨rfl, List.Subset.refl _⟩) _

theorem mfaVerify_shrinks {before : Auth.World} (now : Nat) (bearer : Option Auth.Token)
    (limiterKey : String → String) (code : String) :
    Shrinks before.accounts (Auth.mfaVerify platform.primitives platform.auth before now bearer
      limiterKey code).1.accounts := by
  unfold Auth.mfaVerify
  split
  · exact shrinks_refl _
  · dsimp only
    split
    · exact shrinks_refl _
    · split
      · exact shrinks_refl _
      next checked =>
        rcases MfaEnrollment.checkCode_cases checked with rfl | rfl
        · exact shrinks_refl _
        · exact shrinks_amend (fun _ => ⟨rfl, List.Subset.refl _⟩) _

-- What a new row holds is its role.
theorem insert_held {before after : Auth.Accounts} {principal : Principal}
    (unbound : principal.bindings = []) (inserted : before.insert principal = some after)
    (held : Held after right) :
    Held before right ∨ right = .role principal.id principal.globalRole := by
  unfold Auth.Accounts.insert at inserted
  split at inserted
  · obtain rfl := Option.some.inj inserted
    cases right with
    | role id role =>
        obtain ⟨holder, member, rfl, rfl⟩ := held
        rcases List.mem_append.1 member with old | new
        · exact .inl ⟨holder, old, rfl, rfl⟩
        · obtain rfl := List.mem_singleton.1 new
          exact .inr rfl
    | binding id nodeId role =>
        obtain ⟨holder, member, rfl, bound⟩ := held
        rcases List.mem_append.1 member with old | new
        · exact .inl ⟨holder, old, rfl, bound⟩
        · obtain rfl := List.mem_singleton.1 new
          rw [unbound] at bound
          cases bound
  · cases inserted

theorem createPrincipal_held {before : Auth.World} {actor newId salt : String}
    {payload : Auth.PrincipalCreateIn}
    (held : Held (Auth.createPrincipal platform.primitives before actor newId salt payload).1.accounts
      right) : Held before.accounts right ∨ right = .role newId payload.globalRole := by
  unfold Auth.createPrincipal at held
  split at held
  · exact .inl held
  · dsimp only at held
    split at held
    · exact .inl held
    next inserted => exact insert_held rfl inserted held

theorem updatePrincipal_held {before : Auth.World} {actor principalId salt : String}
    {payload : Auth.PrincipalUpdateIn}
    (held : Held (Auth.updatePrincipal platform.primitives before actor principalId salt
      payload).1.accounts right) :
    Held before.accounts right ∨
      ∃ role, payload.globalRole = some (some role) ∧ right = .role principalId role := by
  unfold Auth.updatePrincipal at held
  split at held
  · exact .inl held
  · split at held
    · exact .inl held
    · cases right with
      | role id role =>
          obtain ⟨_, member, rfl, rfl⟩ := held
          obtain ⟨old, present, rfl⟩ := List.mem_map.1 member
          by_cases here : old.id = principalId
          · simp only [here, if_true]
            rcases given : payload.globalRole with _ | _ | role
            · exact .inl ⟨old, present, by simp [Auth.updated, here], by simp [Auth.updated, given]⟩
            · exact .inl ⟨old, present, by simp [Auth.updated, here], by simp [Auth.updated, given]⟩
            · exact .inr ⟨role, rfl, by simp [Auth.updated, here, given]⟩
          · simp only [here, if_false]
            exact .inl ⟨old, present, rfl, rfl⟩
      | binding id nodeId role =>
          obtain ⟨_, member, rfl, bound⟩ := held
          obtain ⟨old, present, rfl⟩ := List.mem_map.1 member
          refine .inl ⟨old, present, ?_⟩
          split
          · exact ⟨rfl, by simpa [Auth.updated, *] using bound⟩
          · exact ⟨rfl, by simpa [*] using bound⟩

theorem deletePrincipal_shrinks {before : Auth.World} (actor principalId : String) :
    Shrinks before.accounts (Auth.deletePrincipal before actor principalId).1.accounts := by
  unfold Auth.deletePrincipal
  split
  · exact shrinks_refl _
  · intro principal member
    exact ⟨principal, List.mem_of_mem_filter member, rfl, rfl, List.Subset.refl _⟩

theorem setBinding_held {ts : Datetime} {actor principalId : String} {payload : RoleBindingIn}
    (held : Held (setBinding world ts actor principalId payload).1.accounts right) :
    Held world.accounts right ∨ right = .binding principalId payload.nodeId payload.role := by
  unfold setBinding at held
  split at held
  · exact .inl held
  · split at held
    · cases right with
      | role id role =>
          obtain ⟨_, member, rfl, rfl⟩ := held
          obtain ⟨old, present, rfl⟩ := List.mem_map.1 member
          refine .inl ⟨old, present, ?_⟩
          split <;> exact ⟨rfl, rfl⟩
      | binding id nodeId role =>
          obtain ⟨_, member, rfl, kept⟩ := held
          obtain ⟨old, present, rfl⟩ := List.mem_map.1 member
          split at kept
          next here =>
            rw [if_pos here]
            have site : ((bound payload).change old).id = principalId := here
            unfold bound at kept
            dsimp only at kept
            split at kept
            · obtain ⟨binding, inside, same⟩ := List.mem_map.1 kept
              split at same
              next targeted =>
                obtain ⟨rfl, rfl⟩ := RoleBinding.mk.inj same
                exact .inr (by rw [site, targeted])
              · exact .inl ⟨old, present, rfl, same ▸ inside⟩
            · rcases List.mem_append.1 kept with inside | new
              · exact .inl ⟨old, present, rfl, inside⟩
              · obtain ⟨rfl, rfl⟩ := RoleBinding.mk.inj (List.mem_singleton.1 new)
                exact .inr (by rw [site])
          next other =>
            rw [if_neg other]
            exact .inl ⟨old, present, rfl, kept⟩
    · exact .inl held

end Handlers

section Requests

variable {Moment : Type} {platform : Platform Moment} {world : World} {right : Right}

theorem manages_cases {route : Routes.Request} (manages : managesAccounts route = true) :
    route = .createPrincipal ∨ (∃ id, route = .updatePrincipal id) ∨
      (∃ id, route = .deletePrincipal id) ∨ ∃ id, route = .setBinding id := by
  unfold managesAccounts at manages
  split at manages <;> simp_all

theorem ran_world {handled : Handled} {after : World} {reply : Reply}
    (ran : some handled = some (after, reply)) : handled.1 = after :=
  congrArg Prod.fst (Option.some.inj ran)

-- Only the routes that manage accounts give a right, each the one its payload says.
theorem handler_held {request : Request} {actor : String} {route : Routes.Request} {body : Body}
    {after : World} {reply : Reply} (asks : request.target = .guarded route body)
    (ran : handler platform world actor request.environment route body = some (after, reply))
    (held : Held after.accounts right) :
    Held world.accounts right ∨ managesAccounts route = true ∧ Gives request right := by
  rcases (handler_effect ran).accounts with same | ⟨nodeId, removed⟩ |
    ⟨principalId, nodeId, removed⟩ | manages
  · exact .inl (same ▸ held)
  · rw [removed] at held
    exact .inl ((shrinks_amendAll (shrinks_unbound nodeId)).held held)
  · rw [removed] at held
    exact .inl ((shrinks_amend (shrinks_unbound nodeId) principalId).held held)
  · rcases manages_cases manages with rfl | ⟨principalId, rfl⟩ | ⟨principalId, rfl⟩ |
      ⟨principalId, rfl⟩
    · cases body with
      | principalCreate payload =>
          obtain rfl := ran_world ran
          refine (createPrincipal_held held).imp_right ?_
          rintro rfl
          exact ⟨rfl, .inl ⟨payload, asks, rfl, rfl⟩⟩
      | _ => cases ran
    · cases body with
      | principalUpdate payload =>
          obtain rfl := ran_world ran
          refine (updatePrincipal_held held).imp_right ?_
          rintro ⟨role, set, rfl⟩
          exact ⟨rfl, .inr ⟨payload, asks, set⟩⟩
      | _ => cases ran
    · obtain rfl := ran_world ran
      exact .inl ((deletePrincipal_shrinks actor principalId).held held)
    · cases body with
      | roleBinding payload =>
          obtain rfl := ran_world ran
          refine (setBinding_held held).imp_right ?_
          rintro rfl
          exact ⟨rfl, asks⟩
      | _ => cases ran

theorem handle_held {request : Request}
    (held : Held (handle platform world request).world.accounts right) :
    Held world.accounts right ∨
      ∃ principal, ActsAs world request principal ∧ Gives request right := by
  unfold handle at held
  dsimp only at held
  split at held
  · exact .inl held
  · exact .inl held
  · exact .inl (by rwa [unguarded, ofAuth, leave, MfaEnrollment.login_accounts] at held)
  · exact .inl ((mfaEnroll_shrinks _ _ _).held held)
  · exact .inl ((mfaVerify_shrinks _ _ _ _).held held)
  · split at held <;> exact .inl held
  next route body asks =>
    split at held
    · exact .inl held
    next principal granted =>
      split at held
      · exact .inl held
      next after reply ran =>
        rcases handler_held asks ran held with before | ⟨manages, gives⟩
        · exact .inl before
        · obtain ⟨need, unscoped⟩ := NoEscalation.requiredRole_manages manages
          obtain ⟨-, -, power⟩ := MfaEnrollment.guarded_admin unscoped need granted
          obtain ⟨token, -, -, -, -, found, active⟩ := guarded_full granted
          have admin : principal.globalRole = .admin := by
            revert power
            cases principal.globalRole <;> decide
          exact .inr ⟨principal, ⟨Keyed.mem_of_lookup found, active, admin, route, body, asks, granted⟩,
            gives⟩

end Requests

section Runs

variable {Moment : Type} {settings : Settings}

theorem bootstrapAdmin_held {primitives : Auth.Primitives} {accounts : Auth.Accounts}
    {newId salt : String} {right : Right}
    (held : Held (bootstrapAdmin primitives settings accounts newId salt) right) :
    Held accounts right ∨ accounts.principals = [] ∧ right = .role newId .admin ∧
      ∃ given, configured settings = some given := by
  unfold bootstrapAdmin at held
  split at held
  · exact .inl held
  next vacant =>
    have none : accounts.principals = [] := by simpa using vacant
    split at held
    · exact .inl held
    next user password set =>
      dsimp only at held
      cases inserted : accounts.insert _ with
      | none =>
          rw [inserted] at held
          exact .inl held
      | some after =>
          rw [inserted] at held
          refine (insert_held rfl inserted held).imp_right fun given => ⟨none, given, _, set⟩

theorem step_held (platform : Platform Moment) {world next : World} {event : Event} {right : Right}
    (taken : step settings platform world event = some next) (held : Held next.accounts right)
    {past : List (World × Event)}
    (vouched : ∀ right, Held world.accounts right → Vouched settings past right) :
    Vouched settings (past ++ [(world, event)]) right := by
  cases event with
  | request request =>
      obtain rfl := Option.some.inj taken
      rcases handle_held held with before | ⟨principal, acts, gives⟩
      · exact .later (vouched right before) _
      · exact .granted (vouched _ ⟨principal, acts.member, rfl, acts.admin⟩) acts gives
  | start newId salt =>
      obtain rfl := Option.some.inj taken
      rcases bootstrapAdmin_held held with before | ⟨vacant, rfl, given, set⟩
      · exact .later (vouched right before) _
      · exact .booted vacant set

theorem unvouched (unset : configured settings = none) {past : List (World × Event)} {right : Right}
    (vouched : Vouched settings past right) : False := by
  induction vouched with
  | booted vacant set =>
      rw [unset] at set
      cases set
  | granted trusted acts gives ih => exact ih
  | later vouched moment ih => exact ih

-- From an empty table, through whatever requests and starts.
theorem rights_vouched (settings : Settings) (platform : Platform Moment) (initial final : World)
    (vacant : initial.accounts.principals = []) (events : List Event)
    (reached : run (step settings platform) initial events = some final) :
    (∀ right, Held final.accounts right →
        Vouched settings (history (step settings platform) initial events) right) ∧
      (configured settings = none → final.accounts.principals = []) := by
  have good := run_history (fun past world =>
      ∀ right, Held world.accounts right → Vouched settings past right)
    (fun past world event next vouched taken right held => step_held platform taken held vouched)
    [] (fun right held => by cases right <;> simp [Held, vacant] at held) reached
  refine ⟨good, fun unset => List.eq_nil_iff_forall_not_mem.2 fun principal member => ?_⟩
  exact unvouched unset (good (.role principal.id principal.globalRole) ⟨principal, member, rfl, rfl⟩)

end Runs

section Instance

open TwoFactor (platform signIn asked fullToken)

def settings : Settings := ⟨some "eve", some "pw"⟩

theorem vacant_ids : Keyed.Unique Principal.id [] := .nil

theorem vacant_usernames : Keyed.Unique Principal.username [] := .nil

def vacant : World := { TwoFactor.fresh with accounts := ⟨[], vacant_ids, vacant_usernames⟩ }

def appointed : Request :=
  { asked 1100 (some fullToken)
      (.guarded .createPrincipal (.principalCreate ⟨"ops", none, "pw", .operator⟩)) with
    environment := { TwoFactor.quiet "" with newId := "p-2" } }

-- The second start finds the admin of the first one.
def events : List Event :=
  .start "p-1" "s" :: signIn.map .request ++
    [.request appointed, .start "p-3" "s"]

def outcome : World := (run (step settings platform) vacant events).getD vacant

example : outcome.accounts.principals.map (fun principal => (principal.id, principal.globalRole)) =
    [("p-1", .admin), ("p-2", .operator)] := by decide +kernel

theorem rights_vouched_events :
    (∀ right, Held outcome.accounts right →
        Vouched settings (history (step settings platform) vacant events) right) ∧
      (configured settings = none → outcome.accounts.principals = []) :=
  rights_vouched settings platform vacant outcome rfl events rfl

end Instance

end Fleet.Bootstrap
