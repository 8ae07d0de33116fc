import Fleet.ControlPlane.ActionEffects
import Fleet.ControlPlane.TwoFactor

set_option autoImplicit false

namespace Fleet.SecretFreeAudit

open Identity Db NodeAdapter Api

/-- Two requests to one route that differ in nothing but their secrets. -/
inductive Alike : Target → Target → Prop where
  | same (target : Target) : Alike target target
  | login (username password other : String) :
      Alike (.login username password) (.login username other)
  | mfaVerify (code other : String) : Alike (.mfaVerify code) (.mfaVerify other)
  | createNode (payload : NodeCreate) (other : Credentials) :
      Alike (.guarded .createNode (.nodeCreate payload))
        (.guarded .createNode (.nodeCreate { payload with credentials := other }))
  | updateNode (nodeId : String) (payload : NodeUpdate) (other : Option (Option Credentials)) :
      Alike (.guarded (.updateNode nodeId) (.nodeUpdate payload))
        (.guarded (.updateNode nodeId) (.nodeUpdate { payload with credentials := other }))
  | createPrincipal (payload : Auth.PrincipalCreateIn) (other : String) :
      Alike (.guarded .createPrincipal (.principalCreate payload))
        (.guarded .createPrincipal (.principalCreate { payload with password := other }))
  | updatePrincipal (principalId : String) (payload : Auth.PrincipalUpdateIn)
      (other : Option (Option String)) :
      Alike (.guarded (.updatePrincipal principalId) (.principalUpdate payload))
        (.guarded (.updatePrincipal principalId)
          (.principalUpdate { payload with password := other }))
  | setUserPolicy (nodeId userId : String) (payload : Routes.UserPolicyIn) (body : Body)
      (other : Option String) :
      Alike (.guarded (.setUserPolicy nodeId userId payload) body)
        (.guarded (.setUserPolicy nodeId userId { payload with pin := other }) body)

def pin : Target → Option String
  | .guarded (.setUserPolicy _ _ payload) _ => payload.pin
  | _ => none

section Requests

variable {Moment : Type} (platform : Platform Moment) (world : World) (request : Request)

-- Of the secrets only a password and a code are tested while the request is served.
def accepted : Bool :=
  match request.target with
  | .login username password =>
      (Auth.authenticate platform.primitives world.accounts username password).isSome
  | .mfaVerify code =>
      match Auth.getPreauthPrincipal (enter world) request.now request.bearer with
      | .error _ => false
      | .ok (principal, _) =>
          match Auth.verifyTotp platform.primitives principal code request.now with
          | .error _ => false
          | .ok verified => verified
  | _ => true

/-- The entries that serving the request appends. -/
def appended : List AuditLog.Fields :=
  ((handle platform world request).world.database.tables.audit.drop
    world.database.tables.audit.length).map Prod.snd

/-- A policy is set, and the outcome of the one call is recorded. -/
def SetsPolicy : Prop :=
  match request.target with
  | .guarded (.setUserPolicy nodeId userId payload) _ =>
      (∃ principal, Auth.guarded (enter world) request.now request.bearer
          (.setUserPolicy nodeId userId payload) = .ok principal) ∧
        ∃ node, world.database.tables.node? nodeId = some node ∧
          node.Serves (.setUserPolicy userId payload.orgId payload.policy) ∧
            Actions.Unescaped (request.environment.actions.answers 0).completion
  | _ => False

end Requests

section Appending

variable {before : Auth.World} {primitives : Auth.Primitives}

theorem createPrincipal_audit (actor newId salt : String) (payload : Auth.PrincipalCreateIn)
    (other : String) :
    (Auth.createPrincipal primitives before actor newId salt
        { payload with password := other }).1.audit =
      (Auth.createPrincipal primitives before actor newId salt payload).1.audit := by
  unfold Auth.createPrincipal Auth.Accounts.insert
  dsimp only
  cases Keyed.lookup Principal.username payload.username before.accounts.principals with
  | some _ => rfl
  | none =>
      dsimp only
      by_cases fresh : newId ∉ before.accounts.principals.map Principal.id ∧
          payload.username ∉ before.accounts.principals.map Principal.username
      · simp only [fresh, not_false_eq_true, and_self, dite_true]
        rfl
      · simp only [fresh, dite_false]

theorem updatePrincipal_audit (actor principalId salt : String) (payload : Auth.PrincipalUpdateIn)
    (other : Option (Option String)) :
    (Auth.updatePrincipal primitives before actor principalId salt
        { payload with password := other }).1.audit =
      (Auth.updatePrincipal primitives before actor principalId salt payload).1.audit := by
  unfold Auth.updatePrincipal
  cases before.accounts.find? principalId with
  | none => rfl
  | some principal =>
      have same : ({ payload with password := other } : Auth.PrincipalUpdateIn).nulls =
          payload.nulls := rfl
      simp only [same]
      cases payload.nulls <;> rfl

theorem login_audit (settings : Auth.Settings) (now : Nat) (limiterKey : String)
    {username password other : String}
    (same : (Auth.authenticate primitives before.accounts username password).isSome =
      (Auth.authenticate primitives before.accounts username other).isSome) :
    (Auth.login primitives settings before now limiterKey username password).1.audit =
      (Auth.login primitives settings before now limiterKey username other).1.audit := by
  unfold Auth.login
  dsimp only
  split
  · rfl
  · cases first : Auth.authenticate primitives before.accounts username password <;>
      cases second : Auth.authenticate primitives before.accounts username other <;>
        simp_all

-- A code that passes leaves one entry and a code that fails another, whatever the code.
theorem mfaVerify_audit (settings : Auth.Settings) {now : Nat} {bearer : Option Auth.Token}
    (limiterKey : String → String) {code other : String}
    (same : ∀ principal scope,
      Auth.getPreauthPrincipal before now bearer = .ok (principal, scope) →
        Auth.verifyTotp primitives principal code now =
          Auth.verifyTotp primitives principal other now) :
    (Auth.mfaVerify primitives settings before now bearer limiterKey code).1.audit =
      (Auth.mfaVerify primitives settings before now bearer limiterKey other).1.audit := by
  unfold Auth.mfaVerify
  cases admitted : Auth.getPreauthPrincipal before now bearer with
  | error error => rfl
  | ok found =>
      obtain ⟨principal, scope⟩ := found
      have verdict := same principal scope admitted
      simp only [Auth.checkCode, verdict]

theorem verifyTotp_eq {principal : Principal} {code other : String} {now : Nat}
    (same : (match Auth.verifyTotp primitives principal code now with
        | .error _ => false
        | .ok verified => verified) =
      match Auth.verifyTotp primitives principal other now with
        | .error _ => false
        | .ok verified => verified) :
    Auth.verifyTotp primitives principal code now =
      Auth.verifyTotp primitives principal other now := by
  unfold Auth.verifyTotp at same ⊢
  cases stored : principal.totpSecret with
  | none => rfl
  | some secret => simpa [stored] using same

end Appending

section Policy

variable {database : Database} {actor : String} {environment : Actions.Environment}

theorem policy_injective {payload : Routes.UserPolicyIn} {other : Option String} :
    payload.policy = ({ payload with pin := other } : Routes.UserPolicyIn).policy ↔
      payload.pin = other := by
  constructor
  · intro same
    unfold Routes.UserPolicyIn.policy at same
    have pins := List.append_cancel_right same
    cases first : payload.pin <;> cases other <;> simp_all
  · rintro rfl
    rfl

theorem serves_policy {node : Node} {userId orgId : String} {policy : List (String × Json)} :
    node.Serves (.setUserPolicy userId orgId policy) ↔
      rejects node.adapterType node.endpoint node.credentials = none ∧
        node.adapterType = .shim := by
  unfold Node.Serves
  cases node.adapterType <;> simp [implements]

/-- The entry of the call says everything of the policy that was sent. -/
theorem setUserPolicy_recorded (actor userId : String) {nodeId : String} {node : Node}
    (found : database.tables.node? nodeId = some node)
    (built : rejects node.adapterType node.endpoint node.credentials = none)
    (shim : node.adapterType = .shim)
    (settled : Actions.Unescaped (environment.answers 0).completion) :
    ∃ entry : List (String × Json) → Datetime × AuditLog.Fields,
      (∀ policy, (entry policy).2.params = some policy) ∧
        ∀ payload : Routes.UserPolicyIn,
          (Actions.handle database actor (.setUserPolicy nodeId userId payload)
              environment).database.tables.audit =
            database.tables.audit ++ [entry payload.policy] := by
  have complete (payload : Routes.UserPolicyIn) :
      Actions.complete node.adapterType (.setUserPolicy userId payload.orgId payload.policy)
        (environment.answers 0) = (environment.answers 0).completion := by
    rw [Actions.complete, shim]
    rfl
  cases answered : (environment.answers 0).completion with
  | ok id =>
      refine ⟨fun policy => ((environment.answers 0).ts,
        Actions.succeeded node actor "set_user_policy" "user"
          (Actions.targetOr (some userId) id) policy), fun _ => rfl, ?_⟩
      intro payload
      simp only [Actions.handle, Actions.Request.nodeId, found, Actions.handleOn, Actions.perform,
        Actions.buildAdapterForNode_eq built, complete, answered]
      rfl
  | error raised =>
      cases raised with
      | escaped exception =>
          rw [answered] at settled
          exact settled.elim
      | adapterError text =>
          refine ⟨fun policy => ((environment.answers 0).ts,
            Actions.failed node actor "set_user_policy" "user" (some userId) policy text),
            fun _ => rfl, ?_⟩
          intro payload
          simp only [Actions.handle, Actions.Request.nodeId, found, Actions.handleOn,
            Actions.perform, Actions.buildAdapterForNode_eq built, complete, answered]
          rfl

theorem setUserPolicy_unrecorded {nodeId userId : String} {payload : Routes.UserPolicyIn}
    (unrecorded : ¬ ∃ node, database.tables.node? nodeId = some node ∧
      node.Serves (.setUserPolicy userId payload.orgId payload.policy) ∧
        Actions.Unescaped (environment.answers 0).completion) :
    (Actions.handle database actor (.setUserPolicy nodeId userId payload)
      environment).database = database := by
  unfold Actions.handle
  cases found : database.tables.node? nodeId with
  | none => simp [Actions.Request.nodeId, found]
  | some node =>
      simp only [Actions.Request.nodeId, found]
      by_cases built : rejects node.adapterType node.endpoint node.credentials = none
      · simp only [Actions.handleOn, Actions.perform, Actions.buildAdapterForNode_eq built]
        have escapes : ¬ Actions.Unescaped (Actions.complete node.adapterType
            (.setUserPolicy userId payload.orgId payload.policy) (environment.answers 0)) := by
          rw [Actions.complete_unescaped]
          rintro ⟨implemented, settled⟩
          exact unrecorded ⟨node, found, ⟨built, implemented⟩, settled⟩
        cases completed : Actions.complete node.adapterType
            (.setUserPolicy userId payload.orgId payload.policy) (environment.answers 0) with
        | ok id => exact absurd (completed ▸ trivial) escapes
        | error raised =>
            cases raised with
            | adapterError text => exact absurd (completed ▸ trivial) escapes
            | escaped exception => rfl
      · obtain ⟨reply, same⟩ := Actions.handleOn_rejected database actor environment built
          (.setUserPolicy nodeId userId payload)
        rw [same]

end Policy

section Routes

variable {Moment : Type} {platform : Platform Moment} {world : World} {now : Nat}
  {bearer : Option Auth.Token} {forwarded : String} {peer : Option String}
  {environment : Environment}

theorem guarded_audit (route : Routes.Request) (body : Body) :
    (handle platform world ⟨now, bearer, forwarded, peer, .guarded route body,
        environment⟩).world.database.tables.audit =
      match Auth.guarded (enter world) now bearer route with
      | .error _ => world.database.tables.audit
      | .ok principal =>
          ((handler platform world principal.username environment route body).elim world
            Prod.fst).database.tables.audit := by
  unfold handle
  dsimp only
  cases Auth.guarded (enter world) now bearer route with
  | error error => rfl
  | ok principal =>
      dsimp only
      cases handler platform world principal.username environment route body <;> rfl

theorem guarded_appended_congr {route : Routes.Request} {body other : Body}
    (same : ∀ actor,
      ((handler platform world actor environment route body).elim world
          Prod.fst).database.tables.audit =
        ((handler platform world actor environment route other).elim world
          Prod.fst).database.tables.audit) :
    appended platform world ⟨now, bearer, forwarded, peer, .guarded route body, environment⟩ =
      appended platform world ⟨now, bearer, forwarded, peer, .guarded route other, environment⟩ := by
  unfold appended
  rw [guarded_audit, guarded_audit]
  simp only [same]

theorem ofAuth_audit (result : Auth.Result) :
    (ofAuth world environment.ts result).1.database.tables.audit =
      world.database.tables.audit ++ result.1.audit.map fun fields => (environment.ts, fields) := rfl

theorem guarded_policy (nodeId userId : String) (payload : Routes.UserPolicyIn)
    (other : Option String) :
    Auth.guarded (enter world) now bearer (.setUserPolicy nodeId userId { payload with pin := other }) =
      Auth.guarded (enter world) now bearer (.setUserPolicy nodeId userId payload) := rfl

theorem policy_audit {nodeId userId : String} {payload : Routes.UserPolicyIn} {body : Body}
    {principal : Principal}
    (granted : Auth.guarded (enter world) now bearer (.setUserPolicy nodeId userId payload) =
      .ok principal) :
    (handle platform world ⟨now, bearer, forwarded, peer,
        .guarded (.setUserPolicy nodeId userId payload) body,
        environment⟩).world.database.tables.audit =
      (Actions.handle world.database principal.username (.setUserPolicy nodeId userId payload)
        environment.actions).database.tables.audit := by
  rw [guarded_audit, granted]
  rfl

theorem policy_appended_iff (nodeId userId : String) (payload : Routes.UserPolicyIn) (body : Body)
    (other : Option String) :
    appended platform world ⟨now, bearer, forwarded, peer,
        .guarded (.setUserPolicy nodeId userId payload) body, environment⟩ =
      appended platform world ⟨now, bearer, forwarded, peer,
        .guarded (.setUserPolicy nodeId userId { payload with pin := other }) body, environment⟩ ↔
    payload.pin = other ∨ ¬ SetsPolicy world ⟨now, bearer, forwarded, peer,
        .guarded (.setUserPolicy nodeId userId payload) body, environment⟩ := by
  unfold appended SetsPolicy
  dsimp only
  cases granted : Auth.guarded (enter world) now bearer (.setUserPolicy nodeId userId payload) with
  | error error =>
      have refused := (guarded_policy nodeId userId payload other).trans granted
      rw [guarded_audit, guarded_audit, granted, refused]
      simp
  | ok principal =>
      have admitted := (guarded_policy nodeId userId payload other).trans granted
      rw [policy_audit granted, policy_audit admitted]
      by_cases recorded : ∃ node, world.database.tables.node? nodeId = some node ∧
          node.Serves (.setUserPolicy userId payload.orgId payload.policy) ∧
            Actions.Unescaped (environment.actions.answers 0).completion
      · obtain ⟨node, found, serves, settled⟩ := recorded
        obtain ⟨built, shim⟩ := serves_policy.1 serves
        obtain ⟨entry, params, logged⟩ :=
          setUserPolicy_recorded principal.username userId found built shim settled
        rw [logged, logged]
        simp only [List.drop_left, List.map_cons, List.map_nil]
        refine Iff.trans ?_
          (or_iff_left (not_not.2 ⟨⟨principal, rfl⟩, node, found, serves, settled⟩)).symm
        rw [← policy_injective]
        constructor
        · intro same
          have kept := congrArg AuditLog.Fields.params (List.cons.inj same).1
          rw [params, params] at kept
          exact Option.some.inj kept
        · intro same
          rw [same]
      · have silent (sent : Option String) : ¬ ∃ node,
            world.database.tables.node? nodeId = some node ∧
              node.Serves (.setUserPolicy userId payload.orgId
                ({ payload with pin := sent } : Routes.UserPolicyIn).policy) ∧
                Actions.Unescaped (environment.actions.answers 0).completion := by
          rintro ⟨node, found, serves, settled⟩
          exact recorded ⟨node, found, serves_policy.2 (serves_policy.1 serves), settled⟩
        rw [setUserPolicy_unrecorded recorded, setUserPolicy_unrecorded (silent other)]
        exact iff_of_true rfl (.inr fun sets => recorded sets.2)

end Routes

section Promise

variable {Moment : Type} (platform : Platform Moment) (world : World) (request : Request)
  (other : Target)

theorem audit_secret_free_iff (alike : Alike request.target other)
    (same : accepted platform world request =
      accepted platform world { request with target := other }) :
    appended platform world request = appended platform world { request with target := other } ↔
      pin request.target = pin other ∨ ¬ SetsPolicy world request := by
  obtain ⟨now, bearer, forwarded, peer, target, environment⟩ := request
  dsimp only at alike same ⊢
  cases alike with
  | same => exact iff_of_true rfl (.inl rfl)
  | login username password other =>
      refine iff_of_true ?_ (.inl rfl)
      have fares : (Auth.authenticate platform.primitives (enter world).accounts username
            password).isSome =
          (Auth.authenticate platform.primitives (enter world).accounts username other).isSome :=
        same
      simp only [appended, handle, unguarded, ofAuth_audit, login_audit _ _ _ fares]
  | mfaVerify code other =>
      refine iff_of_true ?_ (.inl rfl)
      have fares : ∀ principal scope,
          Auth.getPreauthPrincipal (enter world) now bearer = .ok (principal, scope) →
            Auth.verifyTotp platform.primitives principal code now =
              Auth.verifyTotp platform.primitives principal other now :=
        fun principal scope admitted => verifyTotp_eq (by simpa [accepted, admitted] using same)
      simp only [appended, handle, unguarded, ofAuth_audit, mfaVerify_audit _ _ fares]
  | createNode payload other =>
      refine iff_of_true (guarded_appended_congr fun actor => ?_) (.inl rfl)
      exact (createNode_keeps _ _).audit.trans (createNode_keeps _ _).audit.symm
  | updateNode nodeId payload other =>
      refine iff_of_true (guarded_appended_congr fun actor => ?_) (.inl rfl)
      exact (updateNode_keeps _ _).audit.trans (updateNode_keeps _ _).audit.symm
  | createPrincipal payload other =>
      refine iff_of_true (guarded_appended_congr fun actor => ?_) (.inl rfl)
      simp only [handler, Option.elim_some, ofAuth_audit, createPrincipal_audit]
  | updatePrincipal principalId payload other =>
      refine iff_of_true (guarded_appended_congr fun actor => ?_) (.inl rfl)
      simp only [handler, Option.elim_some, ofAuth_audit, updatePrincipal_audit]
  | setUserPolicy nodeId userId payload body other =>
      exact policy_appended_iff nodeId userId payload body other

/-- Of every state and every two requests whose passwords and codes fare alike. -/
def AuditSecretFree : Prop :=
  ∀ (world : World) (request : Request) (other : Target), Alike request.target other →
    accepted platform world request = accepted platform world { request with target := other } →
      appended platform world request = appended platform world { request with target := other }

end Promise

section Pins

open TwoFactor (platform asked fullToken)

def operator : Principal :=
  { MfaEnrollment.newcomer with globalRole := .operator }

-- The operator has a session, and the node carries out what it is asked.
def onDuty : World :=
  { TwoFactor.fresh with
    accounts := ⟨[operator], by simp [Keyed.Unique], by simp [Keyed.Unique]⟩
    issued := [fullToken]
    database := Actions.registered }

def obliging : Environment :=
  { TwoFactor.quiet "" with
    actions := ⟨fun _ => ⟨.ok (some "usr-1"), TwoFactor.noon⟩, .notConfigured⟩ }

def policyOf (pin : String) : Target :=
  .guarded (.setUserPolicy "n1" "usr-1"
    { orgId := "org-1", pin := some pin, otpAuth := none, clientToClient := none,
      disabled := none, resetOtp := none }) .empty

def setPin (pin : String) : Request :=
  { asked 1100 (some fullToken) (policyOf pin) with environment := obliging }

def recordedParams (fields : AuditLog.Fields) : Option String :=
  fields.params.map fun params => Json.dumps .compact (.obj params)

example : (appended platform onDuty (setPin "4711")).map recordedParams =
    [some "\x7b\"pin\":\"4711\"\x7d"] := by decide +kernel

theorem pin_leaks : ¬ AuditSecretFree platform := by
  intro secretFree
  have same := secretFree onDuty (setPin "4711") (policyOf "1234") (.setUserPolicy ..) rfl
  have shown := congrArg (List.map recordedParams) same
  revert shown
  decide +kernel

theorem wrong_passwords_alike :
    appended platform onDuty (asked 1100 none (.login "eve" "guess")) =
      appended platform onDuty (asked 1100 none (.login "eve" "other")) :=
  (audit_secret_free_iff platform onDuty (asked 1100 none (.login "eve" "guess"))
    (.login "eve" "other") (.login ..) (by decide +kernel)).2 (.inl rfl)

end Pins

end Fleet.SecretFreeAudit
