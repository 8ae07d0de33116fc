import Fleet.ControlPlane.Api

set_option autoImplicit false

namespace Fleet.Api

open Identity Db NodeAdapter

-- The requests that write principals or grant them roles.
def managesAccounts : Routes.Request → Bool
  | .createPrincipal | .updatePrincipal _ | .deletePrincipal _ | .setBinding _ => true
  | _ => false

/-- The sessions and the accounts are as they were. -/
structure Keeps (world after : World) : Prop where
  accounts : after.accounts = world.accounts
  issued : after.issued = world.issued

/-- The audit log, too, is as it was. -/
structure KeepsLog (world after : World) : Prop extends Keeps world after where
  audit : after.database.tables.audit = world.database.tables.audit

section Guards

variable {world : Auth.World} {now : Nat} {bearer : Option Auth.Token}

theorem current_full {principal : Principal} {scope : Auth.Scope}
    (admitted : Auth.getCurrentPrincipal world now bearer = .ok (principal, scope)) :
    ∃ token ∈ world.issued, bearer = some token ∧ token.sub = principal.id ∧
      token.scope = .full ∧ world.accounts.find? principal.id = some principal ∧
        principal.disabled = false := by
  obtain ⟨token, issued, borne, sub, same, accepted, found, active⟩ := Auth.principalOf_holds admitted
  have full : scope = .full := by simpa using accepted
  exact ⟨token, issued, borne, sub, same.trans full, found, active⟩

theorem guarded_full {principal : Principal} {route : Routes.Request}
    (granted : Auth.guarded world now bearer route = .ok principal) :
    ∃ token ∈ world.issued, bearer = some token ∧ token.sub = principal.id ∧
      token.scope = .full ∧ world.accounts.find? principal.id = some principal ∧
        principal.disabled = false := by
  obtain ⟨scope, current, -⟩ := Auth.guarded_eq_ok.1 granted
  exact current_full current

end Guards

section Handlers

variable {world : World}

theorem keeps_refl : Keeps world world := ⟨rfl, rfl⟩

theorem keepsLog_refl : KeepsLog world world := ⟨keeps_refl, rfl⟩

theorem store_tables {tables : Tables} {database : Database}
    (stored : store tables = some database) : database.tables = tables := by
  unfold store at stored
  split at stored
  · cases stored
    rfl
  · cases stored

-- A handler of the node registry stores tables that differ in their nodes alone.
theorem keepsLog_of_store {nodes : List Node} {vitals : List Vitals} {database : Database}
    (stored : store { world.database.tables with nodes := nodes } = some database) :
    KeepsLog world { world with database := database, vitals := vitals } := by
  have audit : database.tables.audit = world.database.tables.audit := by rw [store_tables stored]
  exact ⟨⟨rfl, rfl⟩, audit⟩

theorem createNode_keeps (newId : String) (payload : NodeCreate) :
    KeepsLog world (createNode world newId payload).1 := by
  unfold createNode
  dsimp only
  split
  · exact keepsLog_refl
  · split
    · exact keepsLog_refl
    next stored => exact keepsLog_of_store stored

theorem updateNode_keeps (nodeId : String) (payload : NodeUpdate) :
    KeepsLog world (updateNode world nodeId payload).1 := by
  unfold updateNode
  dsimp only
  split
  · exact keepsLog_refl
  · split
    · exact keepsLog_refl
    · split
      · exact keepsLog_refl
      · split
        · exact keepsLog_refl
        next stored => exact keepsLog_of_store stored

theorem checkNode_keeps {Moment : Type} (platform : Platform Moment) (nodeId : String)
    (visit : Health.Visit) : KeepsLog world (checkNode world platform nodeId visit).1 := by
  unfold checkNode
  dsimp only
  split
  · exact keepsLog_refl
  · split
    · exact keepsLog_refl
    · split
      · exact keepsLog_refl
      next stored => exact keepsLog_of_store stored

theorem settle_keeps (environment : Environment) (missing : String) (database : Database)
    (raised : Option Error) :
    Keeps world (settle world environment missing database raised).1 := by
  unfold settle
  split
  · exact keeps_refl
  · exact ⟨rfl, rfl⟩

theorem identityProfiles_keeps (environment : Environment) (actor logicalUserId : String) :
    Keeps world (identityProfiles world environment actor logicalUserId).1 := by
  unfold identityProfiles
  split <;> exact settle_keeps ..

theorem deleteNode_accounts (world : World) (nodeId : String) :
    (deleteNode world nodeId).1.issued = world.issued ∧
      ((deleteNode world nodeId).1.accounts = world.accounts ∨
        (deleteNode world nodeId).1.accounts = world.accounts.amendAll (unbound nodeId)) := by
  unfold deleteNode
  dsimp only
  split
  · exact ⟨rfl, .inl rfl⟩
  · split
    · exact ⟨rfl, .inl rfl⟩
    · exact ⟨rfl, .inr rfl⟩

theorem setBinding_issued (ts : Datetime) (actor principalId : String) (payload : RoleBindingIn) :
    (setBinding world ts actor principalId payload).1.issued = world.issued := by
  unfold setBinding
  split
  · rfl
  · split <;> rfl

theorem deleteBinding_accounts (world : World) (ts : Datetime) (actor principalId nodeId : String) :
    (deleteBinding world ts actor principalId nodeId).1.issued = world.issued ∧
      ((deleteBinding world ts actor principalId nodeId).1.accounts = world.accounts ∨
        (deleteBinding world ts actor principalId nodeId).1.accounts =
          world.accounts.amend principalId (unbound nodeId)) := by
  unfold deleteBinding
  split
  · exact ⟨rfl, .inl rfl⟩
  · split
    · exact ⟨rfl, .inr rfl⟩
    · exact ⟨rfl, .inl rfl⟩

variable {primitives : Auth.Primitives} {before : Auth.World}

theorem createPrincipal_issued (actor newId salt : String) (payload : Auth.PrincipalCreateIn) :
    (Auth.createPrincipal primitives before actor newId salt payload).1.issued = before.issued := by
  unfold Auth.createPrincipal
  split
  · rfl
  · dsimp only
    split <;> rfl

theorem updatePrincipal_issued (actor principalId salt : String)
    (payload : Auth.PrincipalUpdateIn) :
    (Auth.updatePrincipal primitives before actor principalId salt payload).1.issued =
      before.issued := by
  unfold Auth.updatePrincipal
  split
  · rfl
  · split <;> rfl

theorem deletePrincipal_issued (actor principalId : String) :
    (Auth.deletePrincipal before actor principalId).1.issued = before.issued := by
  unfold Auth.deletePrincipal
  split <;> rfl

end Handlers

section Dispatch

/-- What a guarded handler can do to the accounts and the sessions. -/
structure Effect (route : Routes.Request) (world after : World) : Prop where
  issued : after.issued = world.issued
  accounts : after.accounts = world.accounts ∨
    (∃ nodeId, after.accounts = world.accounts.amendAll (unbound nodeId)) ∨
      (∃ principalId nodeId,
        after.accounts = world.accounts.amend principalId (unbound nodeId)) ∨
        managesAccounts route = true

variable {Moment : Type} {platform : Platform Moment} {world after : World} {actor : String}
  {environment : Environment} {route : Routes.Request} {body : Body} {reply : Reply}

theorem effect_of_keeps {handled : Handled} (keeps : Keeps world handled.1)
    (ran : some handled = some (after, reply)) : Effect route world after := by
  cases ran
  exact ⟨keeps.issued, .inl keeps.accounts⟩

theorem effect_of_manages {handled : Handled} (manages : managesAccounts route = true)
    (issued : handled.1.issued = world.issued) (ran : some handled = some (after, reply)) :
    Effect route world after := by
  cases ran
  exact ⟨issued, .inr (.inr (.inr manages))⟩

theorem handler_effect
    (ran : handler platform world actor environment route body = some (after, reply)) :
    Effect route world after := by
  unfold handler at ran
  split at ran
  · exact effect_of_keeps (createNode_keeps ..).toKeeps ran
  · exact effect_of_keeps (updateNode_keeps ..).toKeeps ran
  next nodeId =>
    obtain ⟨issued, accounts⟩ := deleteNode_accounts world nodeId
    rw [congrArg Prod.fst (Option.some.inj ran)] at issued accounts
    exact ⟨issued, accounts.imp_right fun removed => .inl ⟨nodeId, removed⟩⟩
  · exact effect_of_keeps (checkNode_keeps ..).toKeeps ran
  · exact effect_of_keeps (settle_keeps ..) ran
  · exact effect_of_keeps (settle_keeps ..) ran
  · exact effect_of_keeps (identityProfiles_keeps ..) ran
  · exact effect_of_keeps (settle_keeps ..) ran
  · exact effect_of_keeps ⟨rfl, rfl⟩ ran
  · exact effect_of_manages rfl (createPrincipal_issued ..) ran
  · exact effect_of_manages rfl (updatePrincipal_issued ..) ran
  · exact effect_of_manages rfl (deletePrincipal_issued ..) ran
  · exact effect_of_manages rfl (setBinding_issued ..) ran
  next principalId nodeId =>
    obtain ⟨issued, accounts⟩ :=
      deleteBinding_accounts world environment.ts actor principalId nodeId
    rw [congrArg Prod.fst (Option.some.inj ran)] at issued accounts
    exact ⟨issued, accounts.imp_right fun removed => .inr (.inl ⟨principalId, nodeId, removed⟩)⟩
  -- A body that does not validate, then the action handlers and the reading routes.
  · cases ran
  · cases ran
  · cases ran
  · cases ran
  · cases ran
  · split at ran
    · exact effect_of_keeps ⟨rfl, rfl⟩ ran
    · split at ran
      · cases ran
      · exact effect_of_keeps keeps_refl ran

end Dispatch

end Fleet.Api
