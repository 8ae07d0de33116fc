import Fleet.Audit.Log
import Fleet.ControlPlane.RateLimit
import Fleet.ControlPlane.Routes

set_option autoImplicit false

namespace Fleet.Auth

open Identity

inductive Scope where
  | full
  | mfa
  | enroll
  deriving DecidableEq

-- A session token as its claims; nobody but the control plane can sign one.
structure Token where
  sub : String
  scope : Scope
  iat : Nat
  exp : Nat
  deriving DecidableEq

structure Settings where
  jwtFullTtlMinutes : Nat := 720
  jwtStepTtlMinutes : Nat := 10
  rateLimit : RateLimit.Settings := {}

-- argon2 and pyotp.
structure Primitives where
  verifyPassword : (passwordHash password : String) → Bool
  hashPassword : (password salt : String) → String
  verifyTotp : (secret code : String) → (now : Nat) → Bool
  provisioningUri : (secret name : String) → String

/-- The principals table under its primary key and its unique usernames. -/
structure Accounts where
  principals : List Principal
  ids : Keyed.Unique Principal.id principals
  usernames : Keyed.Unique Principal.username principals

structure World where
  accounts : Accounts
  issued : List Token
  limits : List RateLimit.Entry
  audit : List AuditLog.Fields

-- Assignments to the attributes of one row; its key and its name are not among them.
structure Amendment where
  change : Principal → Principal
  ids : ∀ principal, (change principal).id = principal.id
  usernames : ∀ principal, (change principal).username = principal.username

namespace Accounts

variable (accounts : Accounts)

def find? (id : String) : Option Principal := Keyed.lookup Principal.id id accounts.principals

def amend (id : String) (amendment : Amendment) : Accounts where
  principals := accounts.principals.map fun principal =>
    if principal.id = id then amendment.change principal else principal
  ids := by
    have same (principal : Principal) :
        (if principal.id = id then amendment.change principal else principal).id =
          principal.id := by
      split <;> simp [amendment.ids]
    simpa [Keyed.Unique, Function.comp_def, same] using accounts.ids
  usernames := by
    have same (principal : Principal) :
        (if principal.id = id then amendment.change principal else principal).username =
          principal.username := by
      split <;> simp [amendment.usernames]
    simpa [Keyed.Unique, Function.comp_def, same] using accounts.usernames

def amendAll (amendment : Amendment) : Accounts where
  principals := accounts.principals.map amendment.change
  ids := by simpa [Keyed.Unique, Function.comp_def, amendment.ids] using accounts.ids
  usernames := by
    simpa [Keyed.Unique, Function.comp_def, amendment.usernames] using accounts.usernames

def remove (id : String) : Accounts where
  principals := accounts.principals.filter fun principal => principal.id ≠ id
  ids := accounts.ids.sublist (List.filter_sublist.map _)
  usernames := accounts.usernames.sublist (List.filter_sublist.map _)

-- The engine refuses a second row under a key or a username.
def insert (principal : Principal) : Option Accounts :=
  if fresh : principal.id ∉ accounts.principals.map Principal.id ∧
      principal.username ∉ accounts.principals.map Principal.username then
    some
      { principals := accounts.principals ++ [principal]
        ids := accounts.ids.concat fun _ member same =>
          fresh.1 (same ▸ List.mem_map_of_mem member)
        usernames := accounts.usernames.concat fun _ member same =>
          fresh.2 (same ▸ List.mem_map_of_mem member) }
  else none

theorem find?_amend (id : String) (amendment : Amendment) (other : String) :
    (accounts.amend id amendment).find? other =
      if other = id then (accounts.find? other).map amendment.change
      else accounts.find? other := by
  have rewritten : (accounts.amend id amendment).find? other =
      (accounts.find? other).map fun principal =>
        if principal.id = id then amendment.change principal else principal := by
    apply Keyed.lookup_map
    intro principal
    split <;> simp [amendment.ids]
  rw [rewritten]
  cases found : accounts.find? other with
  | none => simp
  | some principal =>
      obtain rfl : principal.id = other := Keyed.lookup_key found
      by_cases here : principal.id = id <;> simp [here]

theorem find?_remove (id other : String) (apart : other ≠ id) :
    (accounts.remove id).find? other = accounts.find? other := by
  unfold find? remove Keyed.lookup
  rw [List.find?_filter]
  congr
  funext principal
  by_cases same : principal.id = other <;> simp [same, apart]

theorem find?_insert {principal : Principal} {after : Accounts}
    (inserted : accounts.insert principal = some after) {id : String} {old : Principal}
    (found : accounts.find? id = some old) : after.find? id = some old := by
  unfold insert at inserted
  split at inserted
  · obtain rfl := Option.some.inj inserted
    have kept : Keyed.lookup Principal.id id accounts.principals = some old := found
    unfold find? Keyed.lookup at *
    rw [List.find?_append, kept]
    rfl
  · cases inserted

end Accounts

structure HttpError where
  status : Nat
  detail : String
  deriving DecidableEq

def unauthorized (detail : String) : HttpError := ⟨401, detail⟩

-- An exception no handler catches, such as IntegrityError.
def internalError : HttpError := ⟨500, "Internal Server Error"⟩

inductive Reply where
  | login (token : Token) (mfaRequired enrollRequired : Bool)
  | enroll (secret otpauthUri : String)
  | token (token : Token)
  | principal (principal : Principal)
  | deleted

abbrev Result := World × Except HttpError Reply

structure PrincipalCreateIn where
  username : String
  email : Option String
  password : String
  globalRole : Role

-- `none` is an unset field, `some none` an explicit null.
structure PrincipalUpdateIn where
  email : Option (Option String) := none
  globalRole : Option (Option Role) := none
  disabled : Option (Option Bool) := none
  password : Option (Option String) := none
  resetMfa : Option (Option Bool) := none

-- The bodies of the requests, with the random values their handlers draw.
inductive Body where
  | login (username password : String)
  | mfaEnroll (secret : String)
  | mfaVerify (code : String)
  | createPrincipal (newId salt : String) (payload : PrincipalCreateIn)
  | updatePrincipal (principalId salt : String) (payload : PrincipalUpdateIn)
  | deletePrincipal (principalId : String)

structure Request where
  now : Nat
  bearer : Option Token := none
  forwarded : String := ""
  peer : Option String := none
  body : Body

section Tokens

variable (world : World) (now : Nat)

def createToken (principalId : String) (scope : Scope) (ttlMinutes : Nat) : Token :=
  ⟨principalId, scope, now, now + ttlMinutes * 60⟩

def decodeToken (token : Token) : Except HttpError Token :=
  if token ∉ world.issued ∨ now < token.iat then .error (unauthorized "invalid token")
  else if token.exp ≤ now then .error (unauthorized "token expired")
  else .ok token

-- What `_principal_from_token` and `get_preauth_principal` share; they differ in the scopes.
def principalOf (bearer : Option Token) (accepts : Scope → Bool) (refusal : String) :
    Except HttpError (Principal × Scope) :=
  match bearer with
  | none => .error (unauthorized "missing bearer token")
  | some token =>
      match decodeToken world now token with
      | .error error => .error error
      | .ok claims =>
          if accepts claims.scope then
            match world.accounts.find? claims.sub with
            | none => .error (unauthorized "principal not found or disabled")
            | some principal =>
                if principal.disabled then .error (unauthorized "principal not found or disabled")
                else .ok (principal, claims.scope)
          else .error (unauthorized refusal)

def getCurrentPrincipal (bearer : Option Token) : Except HttpError (Principal × Scope) :=
  principalOf world now bearer (· = .full) "token scope not accepted here"

def getPreauthPrincipal (bearer : Option Token) : Except HttpError (Principal × Scope) :=
  principalOf world now bearer (· ∈ [.mfa, .enroll]) "step token required"

def guarded (bearer : Option Token) (route : Routes.Request) : Except HttpError Principal :=
  match getCurrentPrincipal world now bearer with
  | .error error => .error error
  | .ok (principal, _) =>
      match Routes.rbacGuard principal route with
      | .error detail => .error ⟨403, detail⟩
      | .ok granted => .ok granted

variable {world now} {bearer : Option Token}

theorem principalOf_holds {accepts : Scope → Bool} {refusal : String} {principal : Principal}
    {scope : Scope}
    (admitted : principalOf world now bearer accepts refusal = .ok (principal, scope)) :
    ∃ token ∈ world.issued, bearer = some token ∧ token.sub = principal.id ∧
      token.scope = scope ∧ accepts scope = true ∧
        world.accounts.find? principal.id = some principal ∧ principal.disabled = false := by
  unfold principalOf at admitted
  split at admitted
  · cases admitted
  next token =>
    unfold decodeToken at admitted
    by_cases refused : token ∉ world.issued ∨ now < token.iat
    · simp [refused] at admitted
    · by_cases expired : token.exp ≤ now
      · simp [refused, expired] at admitted
      · simp only [refused, expired, if_false] at admitted
        split at admitted
        next accepted =>
          split at admitted
          · cases admitted
          next found =>
            split at admitted
            · cases admitted
            next active =>
              cases admitted
              have site := Keyed.lookup_key found
              refine ⟨token, not_not.1 (not_or.1 refused).1, rfl, site.symm, rfl, accepted, ?_, ?_⟩
              · rwa [site]
              · simpa using active
        · cases admitted

theorem guarded_eq_ok {route : Routes.Request} {granted : Principal} :
    guarded world now bearer route = .ok granted ↔
      ∃ scope, getCurrentPrincipal world now bearer = .ok (granted, scope) ∧
        roleAtLeast (granted.effectiveRole route.nodeId?) (Routes.requiredRole route) = true := by
  constructor
  next =>
    intro admitted
    unfold guarded at admitted
    split at admitted
    · cases admitted
    next holder scope current =>
      split at admitted
      · cases admitted
      next principal guard =>
        obtain ⟨rfl, held⟩ := Routes.rbacGuard_eq_ok.1 guard
        cases admitted
        exact ⟨scope, current, held⟩
  next =>
    rintro ⟨scope, current, held⟩
    have guard := Routes.rbacGuard_eq_ok.2 ⟨rfl, held⟩
    simp [guarded, current, guard]

end Tokens

section Service

variable (primitives : Primitives)

def authenticate (accounts : Accounts) (username password : String) : Option Principal :=
  match Keyed.lookup Principal.username username accounts.principals with
  | none => none
  | some principal =>
      if principal.disabled ∨ ¬ primitives.verifyPassword principal.passwordHash password then none
      else some principal

def enrolling (secret : String) : Amendment where
  change := fun principal => { principal with totpSecret := some secret, mfaEnabled := false }
  ids := fun _ => rfl
  usernames := fun _ => rfl

def beginEnrollment (accounts : Accounts) (principal : Principal) (secret : String) :
    Accounts × String :=
  (accounts.amend principal.id (enrolling secret),
    primitives.provisioningUri secret principal.username)

def verifyTotp (principal : Principal) (code : String) (now : Nat) : Except String Bool :=
  match principal.totpSecret with
  | none => .error "no TOTP secret enrolled"
  | some secret => .ok (primitives.verifyTotp secret code now)

def confirmed : Amendment where
  change := fun principal => { principal with mfaEnabled := true }
  ids := fun _ => rfl
  usernames := fun _ => rfl

-- Both scopes check the code; an enrolment is confirmed by it.
def checkCode (accounts : Accounts) (principal : Principal) (scope : Scope) (code : String)
    (now : Nat) : Except String Accounts :=
  match verifyTotp primitives principal code now with
  | .error detail => .error detail
  | .ok false => .error "invalid TOTP code"
  | .ok true =>
      if scope = .enroll then .ok (accounts.amend principal.id confirmed) else .ok accounts

end Service

section Handlers

variable (primitives : Primitives) (settings : Settings) (world : World)

def tooManyAttempts (wait : Nat) : HttpError :=
  ⟨429, "too many attempts; retry in " ++ toString (wait + 1) ++ "s"⟩

def World.log (world : World) (fields : AuditLog.Fields) : World :=
  { world with audit := world.audit ++ [fields] }

@[simp]
theorem World.log_accounts (world : World) (fields : AuditLog.Fields) :
    (world.log fields).accounts = world.accounts := rfl

def login (now : Nat) (limiterKey username password : String) : Result :=
  let wait := RateLimit.blocked world.limits limiterKey now
  if wait ≠ 0 then (world, .error (tooManyAttempts wait))
  else
    match authenticate primitives world.accounts username password with
    | none =>
        let limits := RateLimit.recordFailure settings.rateLimit world.limits limiterKey now
        (World.log { world with limits := limits }
          { actor := username, action := "login", result := "failure",
            targetType := some "principal", detail := some "invalid credentials" },
          .error (unauthorized "invalid credentials"))
    | some principal =>
        let scope : Scope := if principal.mfaEnabled then .mfa else .enroll
        let token := createToken now principal.id scope settings.jwtStepTtlMinutes
        ({ world with
            limits := RateLimit.reset world.limits limiterKey, issued := world.issued ++ [token] },
          .ok (.login token principal.mfaEnabled !principal.mfaEnabled))

def mfaEnroll (now : Nat) (bearer : Option Token) (secret : String) : Result :=
  match getPreauthPrincipal world now bearer with
  | .error error => (world, .error error)
  | .ok (principal, scope) =>
      if scope ≠ .enroll then (world, .error ⟨400, "already enrolled; verify a code instead"⟩)
      else
        let (accounts, uri) := beginEnrollment primitives world.accounts principal secret
        ({ world with accounts := accounts }, .ok (.enroll secret uri))

def mfaVerify (now : Nat) (bearer : Option Token) (limiterKey : String → String)
    (code : String) : Result :=
  match getPreauthPrincipal world now bearer with
  | .error error => (world, .error error)
  | .ok (principal, scope) =>
      let key := limiterKey ("mfa:" ++ principal.username)
      let wait := RateLimit.blocked world.limits key now
      if wait ≠ 0 then (world, .error (tooManyAttempts wait))
      else
        match checkCode primitives world.accounts principal scope code now with
        | .error detail =>
            let limits := RateLimit.recordFailure settings.rateLimit world.limits key now
            (World.log { world with limits := limits }
              { actor := principal.username, action := "mfa_verify", result := "failure",
                targetType := some "principal", targetId := some principal.id,
                detail := some detail },
              .error (unauthorized detail))
        | .ok accounts =>
            let token := createToken now principal.id .full settings.jwtFullTtlMinutes
            (World.log
              { world with
                accounts := accounts, limits := RateLimit.reset world.limits key,
                issued := world.issued ++ [token] }
              { actor := principal.username, action := "login", result := "success",
                targetType := some "principal", targetId := some principal.id },
              .ok (.token token))

def createPrincipal (actor newId salt : String) (payload : PrincipalCreateIn) : Result :=
  match Keyed.lookup Principal.username payload.username world.accounts.principals with
  | some _ => (world, .error ⟨409, "username already exists"⟩)
  | none =>
      let principal : Principal :=
        { id := newId, username := payload.username, email := payload.email,
          passwordHash := primitives.hashPassword payload.password salt,
          globalRole := payload.globalRole }
      match world.accounts.insert principal with
      | none => (world, .error internalError)
      | some accounts =>
          (World.log { world with accounts := accounts }
            { actor := actor, action := "create_principal", result := "success",
              targetType := some "principal", targetId := some newId,
              params := some [("username", .str payload.username),
                ("global_role", .str payload.globalRole.value)] },
            .ok (.principal principal))

-- The columns that take no null are compared before the flush that would refuse it.
def PrincipalUpdateIn.nulls (payload : PrincipalUpdateIn) : Bool :=
  payload.globalRole = some none ∨ payload.disabled = some none

def PrincipalUpdateIn.fields (payload : PrincipalUpdateIn) : List String :=
  (if payload.disabled.isSome then ["disabled"] else []) ++
    (if payload.email.isSome then ["email"] else []) ++
      if payload.globalRole.isSome then ["global_role"] else []

def PrincipalUpdateIn.resets (payload : PrincipalUpdateIn) : Bool :=
  payload.resetMfa = some (some true)

def rehashed (payload : PrincipalUpdateIn) (salt : String) (principal : Principal) : String :=
  match payload.password with
  | some (some password) =>
      if password ≠ "" then primitives.hashPassword password salt else principal.passwordHash
  | _ => principal.passwordHash

def updated (payload : PrincipalUpdateIn) (salt : String) : Amendment where
  change := fun principal =>
    { principal with
      passwordHash := rehashed primitives payload salt principal
      totpSecret := if payload.resets then none else principal.totpSecret
      mfaEnabled := if payload.resets then false else principal.mfaEnabled
      email := payload.email.getD principal.email
      globalRole := (payload.globalRole.bind id).getD principal.globalRole
      disabled := (payload.disabled.bind id).getD principal.disabled }
  ids := fun _ => rfl
  usernames := fun _ => rfl

def updatePrincipal (actor principalId salt : String) (payload : PrincipalUpdateIn) : Result :=
  match world.accounts.find? principalId with
  | none => (world, .error ⟨404, "principal not found"⟩)
  | some principal =>
      if payload.nulls then (world, .error internalError)
      else
        let amendment := updated primitives payload salt
        let accounts := world.accounts.amend principalId amendment
        (World.log { world with accounts := accounts }
          { actor := actor, action := "update_principal", result := "success",
            targetType := some "principal", targetId := some principalId,
            params := some [("fields", .arr (payload.fields.map Json.str))] },
          .ok (.principal (amendment.change principal)))

def deletePrincipal (actor principalId : String) : Result :=
  match world.accounts.find? principalId with
  | none => (world, .error ⟨404, "principal not found"⟩)
  | some principal =>
      (World.log { world with accounts := world.accounts.remove principalId }
        { actor := actor, action := "delete_principal", result := "success",
          targetType := some "principal", targetId := some principalId,
          params := some [("username", .str principal.username)] },
        .ok .deleted)

def handle (request : Request) : Result :=
  let limiterKey := RateLimit.keyFor request.forwarded request.peer
  let asAdmin (route : Routes.Request) (handler : String → Result) : Result :=
    match guarded world request.now request.bearer route with
    | .error error => (world, .error error)
    | .ok admin => handler admin.username
  match request.body with
  | .login username password =>
      login primitives settings world request.now (limiterKey username) username password
  | .mfaEnroll secret => mfaEnroll primitives world request.now request.bearer secret
  | .mfaVerify code =>
      mfaVerify primitives settings world request.now request.bearer limiterKey code
  | .createPrincipal newId salt payload =>
      asAdmin .createPrincipal fun actor =>
        createPrincipal primitives world actor newId salt payload
  | .updatePrincipal principalId salt payload =>
      asAdmin (.updatePrincipal principalId) fun actor =>
        updatePrincipal primitives world actor principalId salt payload
  | .deletePrincipal principalId =>
      asAdmin (.deletePrincipal principalId) fun actor =>
        deletePrincipal world actor principalId

def step (world : World) (request : Request) : Option World :=
  some (handle primitives settings world request).1

end Handlers

end Fleet.Auth
