import Fleet.Shared.Mealy
import Fleet.Shim.Lifecycle
import Mathlib.Data.Fintype.Basic
import Mathlib.Logic.Function.Basic
import Mathlib.Tactic.FinCases

set_option autoImplicit false

namespace Fleet.MockFidelity

open Lifecycle Mealy
open ShimResponses (Value PyException)
open ShimApp (Pritunl held)

section Correspondence

variable {Store Oid : Type}

/-- Pritunl's objects behave as a persistent store of users with a disabled flag. -/
structure Persistent [DecidableEq Oid] (pritunl : Pritunl Store Oid) : Prop where
  parses : ∀ oid, pritunl.objectId (pritunl.str oid) = some oid
  getById_id : ∀ store oid o, pritunl.getById store oid = some o → o.id = oid
  listed : ∀ store oid,
    (∃ o ∈ pritunl.iterOrgs store, o.id = oid) ↔ (pritunl.getById store oid).isSome
  held_id : ∀ store orgId oid u, held pritunl store orgId oid = some u → u.id = oid
  iterated : ∀ store orgId u,
    u ∈ pritunl.iterUsers store orgId ↔ held pritunl store orgId u.id = some u
  newUser_user : ∀ store orgId drawn name email,
    (pritunl.newUser store orgId drawn name email).1 = ⟨drawn, name, email, false⟩
  newUser_held : ∀ store orgId drawn name email other oid,
    held pritunl (pritunl.newUser store orgId drawn name email).2 other oid =
      if other = orgId ∧ oid = drawn then some ⟨drawn, name, email, false⟩
      else held pritunl store other oid
  newUser_orgs : ∀ store orgId drawn name email oid,
    (pritunl.getById (pritunl.newUser store orgId drawn name email).2 oid).isSome =
      (pritunl.getById store oid).isSome
  commit_held : ∀ store orgId userId disabled other oid,
    held pritunl (pritunl.commitDisabled store orgId userId disabled) other oid =
      if other = orgId ∧ oid = userId then
        (held pritunl store other oid).map fun u => { u with disabled }
      else held pritunl store other oid
  commit_orgs : ∀ store orgId userId disabled oid,
    (pritunl.getById (pritunl.commitDisabled store orgId userId disabled) oid).isSome =
      (pritunl.getById store oid).isSome
  remove_held : ∀ store orgId userId other oid,
    held pritunl (pritunl.remove store orgId userId) other oid =
      if other = orgId ∧ oid = userId then none else held pritunl store other oid
  remove_orgs : ∀ store orgId userId oid,
    (pritunl.getById (pritunl.remove store orgId userId) oid).isSome =
      (pritunl.getById store oid).isSome

-- One name for what is an id of the mock and an ObjectId.
structure Naming (Org User Oid : Type) where
  orgId : Org → String
  userHex : User → String
  org : Org → Oid
  user : User → Oid
  orgId_injective : Function.Injective orgId
  userHex_injective : Function.Injective userHex
  org_injective : Function.Injective org
  user_injective : Function.Injective user

variable {Org User : Type} (names : Naming Org User Oid) (pritunl : Pritunl Store Oid)

def Naming.userId (user : User) : String := "usr-" ++ names.userHex user

theorem Naming.userId_injective : Function.Injective names.userId := by
  intro one other equal
  have hex : names.userHex one = names.userHex other := by
    simpa [Naming.userId] using equal
  exact names.userHex_injective hex

def Naming.prodId (user : User) : String := pritunl.str (names.user user)

def forMock : Request Org User User → MockNode.Call :=
  Request.map names.orgId names.userId names.userHex

def forProd : Request Org User User → Request String String Oid :=
  Request.map (fun org => pritunl.str (names.org org)) (names.prodId pritunl) names.user

def mockStep (nodeName : String) (loads : ByteArray → Except PyException Value)
    (format : Value → String) (state : MockNode.State) (request : Request Org User User) :
    Response × MockNode.State :=
  MockNode.step nodeName loads format state (forMock names request)

def prodStep (loads : ByteArray → Except PyException Value) (store : Store)
    (request : Request Org User User) : Response × Store :=
  ShimApp.step pritunl loads store (forProd names pritunl request)

def account (name : User) (user : MockNode.User) : ShimApp.User Oid :=
  ⟨names.user name, user.name, user.email, user.disabled⟩

/-- The same organisations and the same users under the naming, reported with the same flags. -/
structure Corresponding (state : MockNode.State) (store : Store) : Prop where
  unique : Keyed.Unique MockNode.User.id state.users
  orgs : ∀ org,
    (state.orgName (names.orgId org)).isSome = (pritunl.getById store (names.org org)).isSome
  orgsNamed : ∀ oid, (pritunl.getById store oid).isSome → ∃ org, names.org org = oid
  users : ∀ org name, held pritunl store (names.org org) (names.user name) =
    (state.findUser (names.userId name)).bind fun user =>
      if user.orgId = names.orgId org then some (account names name user) else none
  usersNamed : ∀ orgId oid u, held pritunl store orgId oid = some u →
    ∃ name, names.user name = oid
  named : ∀ user ∈ state.users, ∃ name, user.id = names.userId name
  placed : ∀ user ∈ state.users, ∃ org, user.orgId = names.orgId org ∧
    (state.orgName user.orgId).isSome
  flags : ∀ user ∈ state.users, user.revoked = user.disabled
  shown : ∀ user ∈ state.users, (encodable user.name && encodable user.email) = true

structure SameFlags (mock prod : UserView) : Prop where
  user : ∃ name, mock.id = names.userId name ∧ prod.id = names.prodId pritunl name
  disabled : prod.disabled = mock.disabled
  revoked : prod.revoked = mock.revoked

/-- The same status, and the same flags of every user that either reports on. -/
structure Agree (mock prod : Request Org User User × Response) : Prop where
  request : mock.1 = prod.1
  status : mock.2.status = prod.2.status
  there : ∀ view ∈ mock.2.users, ∃ other ∈ prod.2.users, SameFlags names pritunl view other
  back : ∀ other ∈ prod.2.users, ∃ view ∈ mock.2.users, SameFlags names pritunl view other

-- A user reported as revoked is reported so until a request to delete it.
def StaysRevoked (id : User → String) (answers : List (Request Org User User × Response)) : Prop :=
  Promises (fun name response => ∃ view ∈ response.users, view.id = id name ∧ view.revoked)
    (fun name request => request = .deleteUser name)
    (fun name response => ∀ view ∈ response.users, view.id = id name → view.revoked) answers

-- The id drawn for a new user belongs to nobody.
def Fresh (state : MockNode.State) : MockNode.Call → Prop
  | .createUser _ _ drawn => state.findUser ("usr-" ++ drawn) = none
  | _ => True

variable (loads : ByteArray → Except PyException Value)

def Malformed (body : ByteArray) : Prop := loads (orEmptyObject body) = .error .valueError

/-- What a request asks and the state before it that keep the two servers together: it changes no
flag, issues no profile for a revoked user, creates nobody the mock cannot report, and carries no
malformed body to a handler that reads it. -/
def Neutral (state : MockNode.State) : MockNode.Call → Prop
  | .createUser orgId body _ => (state.orgName orgId).isSome →
      ¬Malformed loads body ∧ ∀ data, MockNode.fields loads body = .ok data →
        (Value.getD data "name" .null).truthy →
          (encodable (Value.getD data "name" .null) &&
            encodable (Value.getD data "email" .null)) = true
  | .setDisabled userId body => ∀ user, state.findUser userId = some user →
      ¬Malformed loads body ∧ ∀ data, MockNode.fields loads body = .ok data →
        (Value.getD data "disabled" (.bool true)).truthy = user.disabled
  | .revoke userId => ∀ user, state.findUser userId = some user → user.disabled
  | .issueProfile userId body _ => ∀ user, state.findUser userId = some user →
      ¬user.revoked ∧ ¬Malformed loads body
  | .deleteUser _ => True
  | .state => True

end Correspondence

section Mock

open MockNode

variable {state : State} {userId : String} {change : User → User}

theorem findUser_alter (kept : ∀ user, (change user).id = user.id) (other : String) :
    (state.alter userId change).findUser other =
      (state.findUser other).map fun user => if other = userId then change user else user :=
  Keyed.lookup_alter kept state.users other

theorem findUser_alter_self (change : User → User) (kept : ∀ user, (change user).id = user.id)
    {user : User} (found : state.findUser userId = some user) :
    (state.alter userId change).findUser (change user).id = some (change user) := by
  rw [kept, Keyed.lookup_key found, findUser_alter kept, found]
  simp

theorem findUser_concat {user : User} (fresh : state.findUser user.id = none) (other : String) :
    State.findUser { state with users := state.users ++ [user] } other =
      if other = user.id then some user else state.findUser other :=
  Keyed.lookup_concat fresh other

theorem mem_users_respond {status : Nat} {view shown : UserView}
    (reported : shown ∈ (respond status view).users) : shown = view := by
  unfold respond at reported
  split at reported
  · exact List.mem_singleton.1 reported
  · cases reported

variable {nodeName : String} {loads : ByteArray → Except PyException Value}
  {format : Value → String}

/-- Whatever is reported on is reported as it is stored after the request. -/
theorem step_reports (unique : Keyed.Unique User.id state.users) {request : Call}
    (fresh : Fresh state request) :
    ∀ view ∈ (step nodeName loads format state request).1.users,
      ∃ user, (step nodeName loads format state request).2.findUser view.id = some user ∧
        view.disabled = user.disabled ∧ view.revoked = user.revoked := by
  intro view reported
  cases request with
  | createUser orgId body drawn =>
      by_cases unknown : state.orgName orgId = none
      · simp [step, createUser, unknown] at reported
      cases read : fields loads body with
      | error exception => simp [step, createUser, unknown, read] at reported
      | ok data =>
          by_cases named : (Value.getD data "name" .null).truthy
          · simp only [step, createUser, unknown, read, named, if_true, if_false] at reported ⊢
            obtain rfl := mem_users_respond reported
            refine ⟨_, (findUser_concat ?_ _).trans (if_pos rfl), rfl, rfl⟩
            exact fresh
          · simp [step, createUser, unknown, read, named] at reported
  | setDisabled userId body =>
      cases found : state.findUser userId with
      | none => simp [step, setDisabled, found] at reported
      | some user =>
          cases read : fields loads body with
          | error exception => simp [step, setDisabled, found, read] at reported
          | ok data =>
              simp only [step, setDisabled, found, read] at reported ⊢
              obtain rfl := mem_users_respond reported
              have stored := findUser_alter_self
                (User.disable (Value.getD data "disabled" (.bool true)).truthy)
                (User.disable_id _) found
              exact ⟨_, stored, rfl, rfl⟩
  | revoke userId =>
      cases found : state.findUser userId with
      | none => simp [step, revokeProfile, found] at reported
      | some user =>
          simp only [step, revokeProfile, found] at reported ⊢
          obtain rfl := mem_users_respond reported
          have stored := findUser_alter_self _ User.revoke_id found
          exact ⟨_, stored, rfl, rfl⟩
  | issueProfile userId body keyId =>
      cases found : state.findUser userId with
      | none => simp [step, issueProfile, found] at reported
      | some user =>
          by_cases revoked : user.revoked
          · simp [step, issueProfile, found, revoked] at reported
          · cases read : fields loads body <;>
              simp [step, issueProfile, found, revoked, read] at reported
  | deleteUser userId =>
      cases found : state.findUser userId <;>
        simp [step, deleteUser, found] at reported
  | state =>
      by_cases shown : state.views.all UserView.encodable
      · simp only [step, MockNode.state, shown, if_true] at reported ⊢
        obtain ⟨user, stored, rfl⟩ := List.mem_map.1 reported
        exact ⟨user, unique.lookup_of_mem stored, rfl, rfl⟩
      · simp [step, MockNode.state, shown] at reported

/-- How a request leaves the users: one appended under an unused id, one changed or one removed. -/
inductive Moves (state : State) (request : Call) (users : List User) : Prop where
  | same (kept : users = state.users)
  | created (user : User) (fresh : state.findUser user.id = none)
      (appended : users = state.users ++ [user])
  | changed (userId : String) (change : User → User) (kept : ∀ user, (change user).id = user.id)
      (lasting : ∀ user : User, user.revoked → (change user).revoked)
      (altered : users = Keyed.alter User.id userId change state.users)
  | removed (userId : String) (asked : request = .deleteUser userId)
      (gone : users = state.users.eraseP fun user => user.id = userId)

theorem step_moves {request : Call} (fresh : Fresh state request) :
    Moves state request (step nodeName loads format state request).2.users := by
  cases request with
  | createUser orgId body drawn =>
      simp only [step, createUser]
      split
      · exact .same rfl
      · split
        · exact .same rfl
        · split
          · refine .created _ ?_ rfl
            exact fresh
          · exact .same rfl
  | setDisabled userId body =>
      simp only [step, setDisabled]
      split
      · exact .same rfl
      · split
        · exact .same rfl
        · exact .changed userId _ (User.disable_id _) (fun _ revoked => revoked) rfl
  | revoke userId =>
      simp only [step, revokeProfile]
      split
      · exact .same rfl
      · exact .changed userId _ User.revoke_id (fun _ _ => rfl) rfl
  | issueProfile userId body keyId =>
      simp only [step, issueProfile]
      split
      · exact .same rfl
      · split
        · exact .same rfl
        · split <;> exact .changed userId _ User.grant_id (fun _ revoked => revoked) rfl
  | deleteUser userId =>
      simp only [step, deleteUser]
      split
      · exact .same rfl
      · exact .removed userId rfl rfl
  | state =>
      simp only [step, MockNode.state]
      split <;> exact .same rfl

theorem step_unique (unique : Keyed.Unique User.id state.users) {request : Call}
    (fresh : Fresh state request) :
    Keyed.Unique User.id (step nodeName loads format state request).2.users := by
  cases step_moves fresh with
  | same kept => rw [kept]; exact unique
  | created user fresh appended =>
      rw [appended]
      exact unique.concat (Keyed.lookup_eq_none.1 fresh)
  | changed userId change kept lasting altered =>
      rw [altered, Keyed.Unique, Keyed.map_key_alter kept]
      exact unique
  | removed userId asked gone =>
      rw [gone]
      exact (List.eraseP_sublist.map _).nodup unique

def Revoked (userId : String) (state : State) : Prop :=
  ∃ user, state.findUser userId = some user ∧ user.revoked

theorem step_revoked (unique : Keyed.Unique User.id state.users) {request : Call}
    (fresh : Fresh state request) (revoked : Revoked userId state)
    (spared : request ≠ .deleteUser userId) :
    Revoked userId (step nodeName loads format state request).2 := by
  obtain ⟨user, found, revoked⟩ := revoked
  cases step_moves fresh with
  | same kept => exact ⟨user, by rw [State.findUser, kept]; exact found, revoked⟩
  | created other fresh appended =>
      have apart : userId ≠ other.id := by
        rintro rfl
        rw [fresh] at found
        cases found
      exact ⟨user, by rw [State.findUser, appended, Keyed.lookup_concat fresh, if_neg apart, ← found,
        State.findUser], revoked⟩
  | changed other change kept lasting altered =>
      rw [Revoked, State.findUser, altered, Keyed.lookup_alter kept]
      refine ⟨_, by rw [← State.findUser, found, Option.map_some], ?_⟩
      split
      · exact lasting user revoked
      · exact revoked
  | removed other asked gone =>
      have apart : userId ≠ other := fun same => spared (same ▸ asked)
      rw [Revoked, State.findUser, gone, unique.lookup_eraseP, if_neg apart]
      exact ⟨user, found, revoked⟩

end Mock

section Pairs

variable {Org User Store Oid : Type} {names : Naming Org User Oid} {pritunl : Pritunl Store Oid}

theorem agree_silent {request : Request Org User User} {mock prod : Response} (quiet : mock.users = [])
    (hush : prod.users = []) :
    Agree names pritunl (request, mock) (request, prod) ↔ mock.status = prod.status := by
  constructor
  · exact Agree.status
  · intro status
    exact ⟨rfl, status, by simp [quiet], by simp [hush]⟩

theorem agree_single {request : Request Org User User} {mock prod : Response} {view other : UserView}
    (shown : mock.users = [view]) (reported : prod.users = [other]) :
    Agree names pritunl (request, mock) (request, prod) ↔
      mock.status = prod.status ∧ SameFlags names pritunl view other := by
  constructor
  · intro agree
    obtain ⟨image, member, flags⟩ := agree.there view (by simp [shown])
    obtain rfl : image = other := by simpa [reported] using member
    exact ⟨agree.status, flags⟩
  · rintro ⟨status, flags⟩
    exact ⟨rfl, status, by simpa [shown, reported] using flags,
      by simpa [shown, reported] using flags⟩

theorem Agree.not_of_status {request : Request Org User User} {mock prod : Response}
    (apart : mock.status ≠ prod.status) :
    ¬Agree names pritunl (request, mock) (request, prod) :=
  fun agree => apart agree.status

variable {loads : ByteArray → Except PyException Value} {body : ByteArray}

theorem fields_of_readable (readable : ¬Malformed loads body) :
    ShimApp.fields loads body = MockNode.fields loads body := by
  unfold ShimApp.fields MockNode.fields ShimApp.bodyJson
  split <;> split at * <;> simp_all [Malformed]

theorem fields_of_malformed (malformed : Malformed loads body) :
    MockNode.fields loads body = .error .valueError ∧ ShimApp.fields loads body = .ok [] := by
  unfold Malformed at malformed
  simp [MockNode.fields, ShimApp.fields, ShimApp.bodyJson, malformed]

variable (loads) {state : MockNode.State} {userId : String} {user : MockNode.User}

theorem neutral_unknown (missing : state.findUser userId = none) :
    Neutral loads state (.revoke userId) ∧
      (∀ body, Neutral loads state (.setDisabled userId body)) ∧
        ∀ body keyId, Neutral loads state (.issueProfile userId body keyId) := by
  simp [Neutral, missing]

theorem neutral_revoke (found : state.findUser userId = some user) :
    Neutral loads state (.revoke userId) ↔ user.disabled := by simp [Neutral, found]

theorem neutral_setDisabled (found : state.findUser userId = some user) (body : ByteArray) :
    Neutral loads state (.setDisabled userId body) ↔
      ¬Malformed loads body ∧ ∀ data, MockNode.fields loads body = .ok data →
        (Value.getD data "disabled" (.bool true)).truthy = user.disabled := by
  simp [Neutral, found]

theorem neutral_issueProfile (found : state.findUser userId = some user) (body : ByteArray)
    (keyId : String) :
    Neutral loads state (.issueProfile userId body keyId) ↔
      ¬user.revoked ∧ ¬Malformed loads body := by simp [Neutral, found]

end Pairs

section Transport

variable {Org User Store Oid : Type} {names : Naming Org User Oid} {pritunl : Pritunl Store Oid}
  {state : MockNode.State} {store : Store} (same : Corresponding names pritunl state store)

include same

theorem held_found {name : User} {user : MockNode.User}
    (found : state.findUser (names.userId name) = some user) {org : Org}
    (member : user.orgId = names.orgId org) :
    held pritunl store (names.org org) (names.user name) = some (account names name user) := by
  rw [same.users, found, Option.bind_some, if_pos member]

-- What a handler leaves of the organisations is the same on both sides; the rest is about users.
theorem Corresponding.rebuild {state' : MockNode.State} {store' : Store}
    (orgs : state'.orgs = state.orgs)
    (known : ∀ oid, (pritunl.getById store' oid).isSome = (pritunl.getById store oid).isSome)
    (unique : Keyed.Unique MockNode.User.id state'.users)
    (users : ∀ org name, held pritunl store' (names.org org) (names.user name) =
      (state'.findUser (names.userId name)).bind fun user =>
        if user.orgId = names.orgId org then some (account names name user) else none)
    (usersNamed : ∀ orgId oid u, held pritunl store' orgId oid = some u →
      ∃ name, names.user name = oid)
    (each : ∀ user ∈ state'.users, (∃ name, user.id = names.userId name) ∧
      (∃ org, user.orgId = names.orgId org ∧ (state.orgName user.orgId).isSome) ∧
        user.revoked = user.disabled ∧ (encodable user.name && encodable user.email) = true) :
    Corresponding names pritunl state' store' := by
  have orgName (orgId : String) : state'.orgName orgId = state.orgName orgId := by
    rw [MockNode.State.orgName, orgs, ← MockNode.State.orgName]
  exact {
    unique, users, usersNamed
    orgs := fun org => by rw [orgName, known, same.orgs]
    orgsNamed := fun oid present => same.orgsNamed oid (known oid ▸ present)
    named := fun user member => (each user member).1
    placed := fun user member => by
      rw [orgName]
      exact (each user member).2.1
    flags := fun user member => (each user member).2.2.1
    shown := fun user member => (each user member).2.2.2 }

theorem Corresponding.each {user : MockNode.User} (member : user ∈ state.users) :
    (∃ name, user.id = names.userId name) ∧
      (∃ org, user.orgId = names.orgId org ∧ (state.orgName user.orgId).isSome) ∧
        user.revoked = user.disabled ∧ (encodable user.name && encodable user.email) = true :=
  ⟨same.named user member, same.placed user member, same.flags user member,
    same.shown user member⟩

/-- Both stores may be written, as long as nobody's flags move. -/
theorem Corresponding.rewrite {name : User} {user : MockNode.User}
    (found : state.findUser (names.userId name) = some user)
    {change : MockNode.User → MockNode.User} (kept : ∀ user, (change user).id = user.id)
    (still : change user = { user with hasProfile := (change user).hasProfile })
    {state' : MockNode.State} {store' : Store} (orgs : state'.orgs = state.orgs)
    (users : state'.users = Keyed.alter MockNode.User.id (names.userId name) change state.users)
    (known : ∀ oid, (pritunl.getById store' oid).isSome = (pritunl.getById store oid).isSome)
    (accounts : ∀ orgId oid, held pritunl store' orgId oid = held pritunl store orgId oid) :
    Corresponding names pritunl state' store' := by
  have unique : Keyed.Unique MockNode.User.id state'.users := by
    rw [users, Keyed.Unique, Keyed.map_key_alter kept]
    exact same.unique
  have moved (other : String) (row : MockNode.User) (stored : state'.findUser other = some row) :
      ∃ old, state.findUser other = some old ∧
        row = { old with hasProfile := row.hasProfile } := by
    rw [MockNode.State.findUser, users, Keyed.lookup_alter kept] at stored
    obtain ⟨old, before, rfl⟩ := Option.map_eq_some_iff.1 stored
    refine ⟨old, before, ?_⟩
    split_ifs with here
    · subst here
      obtain rfl := Option.some.inj (found.symm.trans before)
      exact still
    · rfl
  have absent (other : String) (missing : state'.findUser other = none) :
      state.findUser other = none := by
    rw [MockNode.State.findUser, users, Keyed.lookup_alter kept] at missing
    exact Option.map_eq_none_iff.1 missing
  refine same.rebuild orgs known unique ?_ ?_ ?_
  · intro org other
    rw [accounts, same.users]
    cases stored : state'.findUser (names.userId other) with
    | none => rw [absent _ stored]
    | some row =>
        obtain ⟨old, before, rows⟩ := moved _ row stored
        rw [before, rows]
        rfl
  · intro orgId oid u stored
    exact same.usersNamed orgId oid u (accounts orgId oid ▸ stored)
  · intro row member
    obtain ⟨old, before, rows⟩ := moved row.id row (unique.lookup_of_mem member)
    have each := same.each (Keyed.mem_of_lookup before)
    rw [rows]
    exact each

end Transport

section Follow

variable {Org User Store Oid : Type} (names : Naming Org User Oid)
  (pritunl : Pritunl Store Oid) (state : MockNode.State) (store : Store) (nodeName : String)
  (loads : ByteArray → Except PyException Value) (format : Value → String)

/-- The servers agree on exactly the neutral requests, and still correspond after one. -/
structure Follows (request : Request Org User User) : Prop where
  exact : Agree names pritunl (request, (mockStep names nodeName loads format state request).1)
      (request, (prodStep names pritunl loads store request).1) ↔
    Neutral loads state (forMock names request)
  next : Neutral loads state (forMock names request) →
    Corresponding names pritunl (mockStep names nodeName loads format state request).2
      (prodStep names pritunl loads store request).2

variable {names pritunl state store nodeName loads format} {request : Request Org User User}
  {left right : Response} {state' : MockNode.State} {store' : Store}

theorem follows_silent
    (mock : mockStep names nodeName loads format state request = (left, state'))
    (prod : prodStep names pritunl loads store request = (right, store'))
    (quiet : left.users = []) (hush : right.users = []) (status : left.status = right.status)
    (neutral : Neutral loads state (forMock names request))
    (next : Corresponding names pritunl state' store') :
    Follows names pritunl state store nodeName loads format request := by
  constructor
  · rw [mock, prod, agree_silent quiet hush]
    exact iff_of_true status neutral
  · intro _
    rw [mock, prod]
    exact next

theorem follows_apart
    (mock : mockStep names nodeName loads format state request = (left, state'))
    (prod : prodStep names pritunl loads store request = (right, store'))
    (apart : left.status ≠ right.status) (loud : ¬Neutral loads state (forMock names request)) :
    Follows names pritunl state store nodeName loads format request := by
  constructor
  · rw [mock, prod]
    exact iff_of_false (Agree.not_of_status apart) loud
  · intro neutral
    exact absurd neutral loud

theorem follows_single {status : Nat} {view other : UserView}
    (mock : mockStep names nodeName loads format state request = (⟨status, .user view⟩, state'))
    (prod : prodStep names pritunl loads store request = (⟨status, .user other⟩, store'))
    (exact : SameFlags names pritunl view other ↔ Neutral loads state (forMock names request))
    (next : Neutral loads state (forMock names request) →
      Corresponding names pritunl state' store') :
    Follows names pritunl state store nodeName loads format request := by
  constructor
  · rw [mock, prod, agree_single rfl rfl, ← exact]
    exact and_iff_right rfl
  · intro neutral
    rw [mock, prod]
    exact next neutral

end Follow

section Following

variable {Org User Store Oid : Type} [DecidableEq Oid] {names : Naming Org User Oid}
  {pritunl : Pritunl Store Oid} (persistent : Persistent pritunl) {state : MockNode.State}
  {store : Store} (same : Corresponding names pritunl state store)

include persistent same

theorem org_named {o : ShimApp.Org Oid} (member : o ∈ pritunl.iterOrgs store) :
    ∃ org, names.org org = o.id :=
  same.orgsNamed o.id ((persistent.listed store o.id).1 ⟨o, member, rfl⟩)

theorem org_listed {user : MockNode.User} (member : user ∈ state.users) :
    ∃ org, user.orgId = names.orgId org ∧ ∃ o ∈ pritunl.iterOrgs store, o.id = names.org org := by
  obtain ⟨org, placed, known⟩ := same.placed user member
  rw [placed, same.orgs] at known
  exact ⟨org, placed, (persistent.listed store _).2 known⟩

section Users

variable {name : User}

theorem withUser_missing (missing : state.findUser (names.userId name) = none)
    (handler : ShimApp.Org Oid → ShimApp.User Oid → Response × Store) :
    ShimApp.withUser pritunl store (names.prodId pritunl name) handler =
      (.error 404 "user not found", store) := by
  have nowhere : ((pritunl.iterOrgs store).findSome? fun o =>
      (held pritunl store o.id (names.user name)).map (o, ·)) = none := by
    rw [List.findSome?_eq_none_iff]
    intro o member
    obtain ⟨org, named⟩ := org_named persistent same member
    rw [← named, same.users, missing, Option.bind_none, Option.map_none]
  rw [ShimApp.withUser, ShimApp.findUser, Naming.prodId, persistent.parses, Option.map_some,
    nowhere]

theorem withUser_found {user : MockNode.User}
    (found : state.findUser (names.userId name) = some user) :
    ∃ (org : Org) (o : ShimApp.Org Oid), user.orgId = names.orgId org ∧ o.id = names.org org ∧
      ∀ handler, ShimApp.withUser pritunl store (names.prodId pritunl name) handler =
        handler o (account names name user) := by
  cases scanned : (pritunl.iterOrgs store).findSome? fun o =>
      (held pritunl store o.id (names.user name)).map (o, ·) with
  | none =>
      obtain ⟨org, placed, o, member, listed⟩ :=
        org_listed persistent same (Keyed.mem_of_lookup found)
      have absent := List.findSome?_eq_none_iff.1 scanned o member
      rw [listed, held_found same found placed] at absent
      cases absent
  | some pair =>
      obtain ⟨o, member, here⟩ := List.exists_of_findSome?_eq_some scanned
      obtain ⟨org, named⟩ := org_named persistent same member
      rw [← named, same.users, found, Option.bind_some] at here
      split_ifs at here with placed
      · obtain rfl := Option.some.inj here
        refine ⟨org, o, placed, named.symm, fun handler => ?_⟩
        rw [ShimApp.withUser, ShimApp.findUser, Naming.prodId, persistent.parses,
          Option.map_some, scanned]
      · cases here

-- To write the flag a user already has is to write nothing.
theorem held_commit {user : MockNode.User} (found : state.findUser (names.userId name) = some user)
    {org : Org} (placed : user.orgId = names.orgId org) {disabled : Bool}
    (idle : disabled = user.disabled) (orgId oid : Oid) :
    held pritunl (pritunl.commitDisabled store (names.org org) (names.user name) disabled) orgId
      oid = held pritunl store orgId oid := by
  rw [persistent.commit_held]
  split_ifs with here
  · obtain ⟨rfl, rfl⟩ := here
    rw [held_found same found placed, Option.map_some, idle]
    rfl
  · rfl

variable {nodeName : String} {loads : ByteArray → Except PyException Value}
  {format : Value → String}

theorem follows_missing (missing : state.findUser (names.userId name) = none)
    {request : Request Org User User}
    {handler : ShimApp.Org Oid → ShimApp.User Oid → Response × Store}
    (mock : mockStep names nodeName loads format state request =
      (.error 404 "user not found", state))
    (prod : prodStep names pritunl loads store request =
      ShimApp.withUser pritunl store (names.prodId pritunl name) handler)
    (neutral : Neutral loads state (forMock names request)) :
    Follows names pritunl state store nodeName loads format request :=
  follows_silent mock (prod.trans (withUser_missing persistent same missing handler)) rfl rfl rfl
    neutral same

variable (name)

theorem follows_deleteUser :
    Follows names pritunl state store nodeName loads format (.deleteUser name) := by
  cases found : state.findUser (names.userId name) with
  | none =>
      refine follows_missing persistent same found ?_ rfl trivial
      exact by simp only [mockStep, forMock, Request.map, MockNode.step, MockNode.deleteUser, found]
  | some user =>
      obtain ⟨org, o, placed, listed, handled⟩ := withUser_found persistent same found
      let left : MockNode.State := { state with
        users := state.users.eraseP fun user => user.id = names.userId name }
      have mock : MockNode.deleteUser state (names.userId name) =
          (⟨200, .deleted (names.userId name)⟩, left.endSessions (names.userId name)) := by
        simp only [MockNode.deleteUser, found]
        rfl
      have remaining (other : String) : (left.endSessions (names.userId name)).findUser other =
          if other = names.userId name then none else state.findUser other :=
        same.unique.lookup_eraseP (names.userId name) other
      refine follows_silent mock (handled _) rfl rfl rfl trivial ?_
      refine same.rebuild rfl (persistent.remove_orgs _ _ _) ?_ ?_ ?_ ?_
      · exact (List.eraseP_sublist.map _).nodup same.unique
      · intro other another
        rw [persistent.remove_held, remaining, listed, account, same.users]
        by_cases removed : another = name
        · subst removed
          by_cases here : other = org
          · simp [here]
          · have elsewhere := names.orgId_injective.ne (Ne.symm here)
            simp [names.org_injective.ne here, found, placed, elsewhere]
        · simp [names.user_injective.ne removed, names.userId_injective.ne removed]
      · intro orgId oid u stored
        rw [persistent.remove_held] at stored
        split_ifs at stored
        exact same.usersNamed orgId oid u stored
      · exact fun row member => same.each (List.mem_of_mem_eraseP member)

theorem follows_revoke :
    Follows names pritunl state store nodeName loads format (.revoke name) := by
  cases found : state.findUser (names.userId name) with
  | none =>
      refine follows_missing persistent same found ?_ rfl (neutral_unknown loads found).1
      exact by simp only [mockStep, forMock, Request.map, MockNode.step, MockNode.revokeProfile, found]
  | some user =>
      obtain ⟨org, o, placed, listed, handled⟩ := withUser_found persistent same found
      obtain ⟨-, -, flags, shown⟩ := same.each (Keyed.mem_of_lookup found)
      have named : user.id = names.userId name := Keyed.lookup_key found
      let left : MockNode.State :=
        (state.alter (names.userId name) MockNode.User.revoke).endSessions (names.userId name)
      have mock : MockNode.revokeProfile state (names.userId name) =
          (⟨200, .user (left.userView user.revoke)⟩, left) := by
        simp only [MockNode.revokeProfile, found]
        exact congrArg (·, _) (if_pos shown)
      refine follows_single mock (handled _) ?_ ?_
      · refine Iff.trans ?_ (neutral_revoke loads found).symm
        constructor
        · exact fun flags => flags.disabled.symm
        · exact fun disabled => ⟨⟨name, named, rfl⟩, disabled.symm, rfl⟩
      · intro harmless
        have disabled := (neutral_revoke loads found).1 harmless
        rw [listed]
        refine same.rewrite found MockNode.User.revoke_id ?_ rfl rfl
          (persistent.commit_orgs _ _ _ _) (held_commit persistent same found placed disabled.symm)
        rw [MockNode.User.revoke, ← flags.trans disabled]

theorem follows_setDisabled (body : ByteArray) :
    Follows names pritunl state store nodeName loads format (.setDisabled name body) := by
  cases found : state.findUser (names.userId name) with
  | none =>
      refine follows_missing persistent same found ?_ rfl ((neutral_unknown loads found).2.1 body)
      exact by simp only [mockStep, forMock, Request.map, MockNode.step, MockNode.setDisabled, found]
  | some user =>
      obtain ⟨org, o, placed, listed, handled⟩ := withUser_found persistent same found
      obtain ⟨-, -, flags, shown⟩ := same.each (Keyed.mem_of_lookup found)
      have named : user.id = names.userId name := Keyed.lookup_key found
      have neutral := neutral_setDisabled loads found body
      by_cases malformed : Malformed loads body
      · obtain ⟨read, decoded⟩ := fields_of_malformed malformed
        have mock : MockNode.setDisabled loads state (names.userId name) body = (.crash, state) := by
          simp only [MockNode.setDisabled, found, read]
        refine follows_apart mock (handled _) ?_ fun harmless => (neutral.1 harmless).1 malformed
        simp [decoded, Response.crash]
      · have decoded := fields_of_readable malformed
        cases read : MockNode.fields loads body with
        | error exception =>
            have mock : MockNode.setDisabled loads state (names.userId name) body =
                (.crash, state) := by
              simp only [MockNode.setDisabled, found, read]
            have prod : ShimApp.setDisabled pritunl loads store (names.prodId pritunl name) body =
                (.crash, store) := by
              rw [ShimApp.setDisabled, handled, decoded, read]
            exact follows_silent mock prod rfl rfl rfl (neutral.2 ⟨malformed, by simp [read]⟩) same
        | ok data =>
            let disabled := (Value.getD data "disabled" (.bool true)).truthy
            let left := state.alter (names.userId name) (MockNode.User.disable disabled)
            have mock : MockNode.setDisabled loads state (names.userId name) body =
                (⟨200, .user (left.userView (user.disable disabled))⟩, left) := by
              simp only [MockNode.setDisabled, found, read]
              exact congrArg (·, _) (if_pos shown)
            have prod : ShimApp.setDisabled pritunl loads store (names.prodId pritunl name) body =
                (⟨200, .user (ShimApp.userView pritunl o
                  { account names name user with disabled })⟩,
                  pritunl.commitDisabled store o.id (names.user name) disabled) := by
              rw [ShimApp.setDisabled, handled, decoded, read]
              rfl
            have idle : Neutral loads state (.setDisabled (names.userId name) body) ↔
                disabled = user.disabled := by
              rw [neutral, read]
              exact ⟨fun harmless => harmless.2 data rfl, fun idle =>
                ⟨malformed, fun other same => Except.ok.inj same ▸ idle⟩⟩
            refine follows_single mock prod (Iff.trans ?_ idle.symm) fun harmless => ?_
            · rw [← flags]
              constructor
              · exact fun flags => flags.revoked
              · exact fun idle => ⟨⟨name, named, rfl⟩, rfl, idle⟩
            · have same_flag := idle.1 harmless
              rw [listed]
              refine same.rewrite found (MockNode.User.disable_id _) ?_ rfl rfl
                (persistent.commit_orgs _ _ _ _) (held_commit persistent same found placed same_flag)
              rw [MockNode.User.disable, same_flag]

omit [DecidableEq Oid] persistent same in
-- Every format is served with a profile that reports on nobody, and writes nothing.
theorem profile_served {o : ShimApp.Org Oid} {u : ShimApp.User Oid} {body : ByteArray}
    {data : List (String × Value)} (decoded : ShimApp.fields loads body = .ok data)
    {userId : String}
    (handled : ∀ handler, ShimApp.withUser pritunl store userId handler = handler o u) :
    ∃ right : Response, ShimApp.profile pritunl loads store userId body = (right, store) ∧
      right.status = 200 ∧ right.users = [] := by
  rw [ShimApp.profile, handled, decoded]
  dsimp only
  split_ifs
  · exact ⟨_, rfl, rfl, rfl⟩
  · split <;> exact ⟨_, rfl, rfl, rfl⟩
  · exact ⟨_, rfl, rfl, rfl⟩

theorem follows_issueProfile (body : ByteArray) (keyId : String) :
    Follows names pritunl state store nodeName loads format (.issueProfile name body keyId) := by
  cases found : state.findUser (names.userId name) with
  | none =>
      have neutral := (neutral_unknown loads found).2.2 body keyId
      refine follows_missing persistent same found ?_ rfl neutral
      exact by simp only [mockStep, forMock, Request.map, MockNode.step, MockNode.issueProfile, found]
  | some user =>
      obtain ⟨org, o, placed, listed, handled⟩ := withUser_found persistent same found
      have neutral := neutral_issueProfile loads found body keyId
      have granted : Corresponding names pritunl
          (state.alter (names.userId name) MockNode.User.grant) store :=
        same.rewrite found MockNode.User.grant_id rfl rfl rfl (fun _ => rfl) (fun _ _ => rfl)
      have crashed {exception : PyException}
          (decoded : ShimApp.fields loads body = .error exception) :
          ShimApp.profile pritunl loads store (names.prodId pritunl name) body =
            (.crash, store) := by
        rw [ShimApp.profile, handled, decoded]
      by_cases revoked : user.revoked
      · have mock : MockNode.issueProfile nodeName loads format state (names.userId name) body
            keyId = (.error 409 "user is revoked", state) := by
          simp only [MockNode.issueProfile, found, revoked, if_true]
        have loud : ¬Neutral loads state (.issueProfile (names.userId name) body keyId) := by
          simp [neutral, revoked]
        cases decoded : ShimApp.fields loads body with
        | error exception =>
            exact follows_apart mock (crashed decoded) (show 409 ≠ 500 by decide) loud
        | ok data =>
            obtain ⟨right, prod, status, -⟩ := profile_served decoded handled
            exact follows_apart mock prod (status ▸ show 409 ≠ 200 by decide) loud
      · by_cases malformed : Malformed loads body
        · obtain ⟨read, decoded⟩ := fields_of_malformed malformed
          have mock : MockNode.issueProfile nodeName loads format state (names.userId name) body
              keyId = (.crash, state.alter (names.userId name) MockNode.User.grant) := by
            simp [MockNode.issueProfile, found, revoked, read]
          obtain ⟨right, prod, status, -⟩ := profile_served decoded handled
          exact follows_apart mock prod (status ▸ show 500 ≠ 200 by decide)
            fun harmless => (neutral.1 harmless).2 malformed
        · have decoded := fields_of_readable malformed
          have harmless := neutral.2 ⟨revoked, malformed⟩
          cases read : MockNode.fields loads body with
          | error exception =>
              have mock : MockNode.issueProfile nodeName loads format state (names.userId name)
                  body keyId = (.crash, state.alter (names.userId name) MockNode.User.grant) := by
                simp [MockNode.issueProfile, found, revoked, read]
              exact follows_silent mock (crashed (decoded.trans read)) rfl rfl rfl harmless granted
          | ok data =>
              have mock : MockNode.issueProfile nodeName loads format state (names.userId name)
                  body keyId =
                    (⟨200, .profile "application/x-openvpn-profile" (MockNode.profile nodeName
                      format (Value.getD data "fmt" (.str "ovpn")) user keyId).toUTF8⟩,
                      state.alter (names.userId name) MockNode.User.grant) := by
                simp [MockNode.issueProfile, found, revoked, read]
              obtain ⟨right, prod, status, hush⟩ := profile_served (decoded.trans read) handled
              exact follows_silent mock prod rfl hush status.symm harmless granted

end Users

section Others

variable {nodeName : String} {loads : ByteArray → Except PyException Value}
  {format : Value → String}

theorem follows_state : Follows names pritunl state store nodeName loads format .state := by
  have shown : state.views.all UserView.encodable = true := by
    rw [List.all_eq_true]
    intro view member
    obtain ⟨user, stored, rfl⟩ := List.mem_map.1 member
    exact same.shown user stored
  have mock : MockNode.state state =
      (⟨200, .state state.servers state.orgViews state.views⟩, state) := by
    rw [MockNode.state, if_pos shown]
  have step : mockStep names nodeName loads format state .state = _ := mock
  constructor
  · rw [step]
    refine iff_of_true ⟨rfl, rfl, ?_, ?_⟩ trivial
    · intro view member
      obtain ⟨user, stored, rfl⟩ := List.mem_map.1 member
      obtain ⟨name, named⟩ := same.named user stored
      obtain ⟨org, placed, o, inside, listed⟩ := org_listed persistent same stored
      have found : state.findUser (names.userId name) = some user :=
        named ▸ same.unique.lookup_of_mem stored
      have iterated : account names name user ∈ pritunl.iterUsers store o.id := by
        rw [persistent.iterated, listed]
        exact held_found same found placed
      refine ⟨ShimApp.userView pritunl o (account names name user), ?_, ⟨name, named, rfl⟩, rfl, ?_⟩
      · exact List.mem_flatMap.2 ⟨o, inside, List.mem_map_of_mem iterated⟩
      · exact (same.flags user stored).symm
    · intro other member
      obtain ⟨o, listed, inside⟩ := List.mem_flatMap.1 member
      obtain ⟨u, iterated, rfl⟩ := List.mem_map.1 inside
      obtain ⟨org, placed⟩ := org_named persistent same listed
      have stored := (persistent.iterated store o.id u).1 iterated
      obtain ⟨name, named⟩ := same.usersNamed o.id u.id u stored
      rw [← placed, ← named, same.users, Option.bind_eq_some_iff] at stored
      obtain ⟨user, found, here⟩ := stored
      split_ifs at here
      obtain rfl := Option.some.inj here
      have stored := Keyed.mem_of_lookup found
      have known : user.id = names.userId name := Keyed.lookup_key found
      refine ⟨state.userView user, List.mem_map_of_mem stored, ⟨name, known, rfl⟩, rfl, ?_⟩
      exact (same.flags user stored).symm
  · intro _
    rw [step]
    exact same

-- The same user stored on both sides under an unused id.
theorem corresponding_created {name : User} {org : Org} {user : MockNode.User}
    (named : user.id = names.userId name) (placed : user.orgId = names.orgId org)
    (fresh : state.findUser user.id = none) (known : (state.orgName user.orgId).isSome)
    (enabled : user.disabled = false ∧ user.revoked = false)
    (shown : (encodable user.name && encodable user.email) = true) :
    Corresponding names pritunl { state with users := state.users ++ [user] }
      (pritunl.newUser store (names.org org) (names.user name) user.name user.email).2 := by
  have added (other : String) :
      MockNode.State.findUser { state with users := state.users ++ [user] } other =
        if other = user.id then some user else state.findUser other :=
    findUser_concat fresh other
  have stored : account names name user = ⟨names.user name, user.name, user.email, false⟩ := by
    rw [account, enabled.1]
  refine same.rebuild rfl (persistent.newUser_orgs _ _ _ _ _) ?_ ?_ ?_ ?_
  · exact same.unique.concat (Keyed.lookup_eq_none.1 fresh)
  · intro other another
    rw [persistent.newUser_held, added, same.users, ← stored, named]
    by_cases created : another = name
    · subst created
      by_cases here : other = org
      · simp [here, placed]
      · have elsewhere := names.orgId_injective.ne (Ne.symm here)
        simp [names.org_injective.ne here, placed, elsewhere, ← named, fresh]
    · simp [names.user_injective.ne created, names.userId_injective.ne created]
  · intro orgId oid u held
    rw [persistent.newUser_held] at held
    split_ifs at held with here
    · exact ⟨name, here.2.symm⟩
    · exact same.usersNamed orgId oid u held
  · intro row member
    rcases List.mem_append.1 member with old | last
    · exact same.each old
    · obtain rfl := List.mem_singleton.1 last
      exact ⟨⟨name, named⟩, ⟨org, placed, known⟩, enabled.2.trans enabled.1.symm, shown⟩

theorem follows_created {org : Org} {name : User} {body : ByteArray}
    (fresh : state.findUser (names.userId name) = none)
    (known : ¬state.orgName (names.orgId org) = none) {o : ShimApp.Org Oid}
    (found : pritunl.getById store (names.org org) = some o) {data : List (String × Value)}
    (decoded : ShimApp.fields loads body = .ok data) (read : MockNode.fields loads body = .ok data)
    (neutral : Neutral loads state (.createUser (names.orgId org) body (names.userHex name)) ↔
      ((Value.getD data "name" .null).truthy → encodable (Value.getD data "name" .null) = true ∧
        encodable (Value.getD data "email" .null) = true)) :
    Follows names pritunl state store nodeName loads format (.createUser org body name) := by
  have placed := persistent.getById_id store _ o found
  have parsed := persistent.parses (names.org org)
  let user : MockNode.User := {
    id := names.userId name, name := Value.getD data "name" .null, orgId := names.orgId org
    email := Value.getD data "email" .null, disabled := false, revoked := false
    hasProfile := false }
  by_cases titled : (Value.getD data "name" .null).truthy
  · have prod : ShimApp.createUser pritunl loads store (pritunl.str (names.org org)) body
        (names.user name) =
          (⟨201, .user (ShimApp.userView pritunl o (account names name user))⟩,
            (pritunl.newUser store (names.org org) (names.user name) user.name user.email).2) := by
      simp [ShimApp.createUser, parsed, found, decoded, titled, placed, persistent.newUser_user,
        account, user]
    let left : MockNode.State := { state with users := state.users ++ [user] }
    have created : MockNode.createUser loads state (names.orgId org) body (names.userHex name) =
        (MockNode.respond 201 (left.userView user), left) := by
      simp only [MockNode.createUser, if_neg known, read, titled, if_true]
      rfl
    by_cases shown : (encodable user.name && encodable user.email) = true
    · have mock : MockNode.createUser loads state (names.orgId org) body (names.userHex name) =
          (⟨201, .user (left.userView user)⟩, left) :=
        created.trans (congrArg (·, _) (if_pos shown))
      refine follows_single mock prod (iff_of_true ⟨⟨name, rfl, rfl⟩, rfl, rfl⟩ ?_) fun _ => ?_
      · exact neutral.2 fun _ => by simpa using shown
      · exact corresponding_created persistent same rfl rfl fresh
          (Option.isSome_iff_ne_none.2 known) ⟨rfl, rfl⟩ shown
    · have mock : MockNode.createUser loads state (names.orgId org) body (names.userHex name) =
          (.crash, left) := created.trans (congrArg (·, _) (if_neg shown))
      refine follows_apart mock prod (show 500 ≠ 201 by decide) fun harmless => shown ?_
      simpa using neutral.1 harmless titled
  · have mock : MockNode.createUser loads state (names.orgId org) body (names.userHex name) =
        (.error 400 "name required", state) := by
      simp [MockNode.createUser, known, read, titled]
    have prod : ShimApp.createUser pritunl loads store (pritunl.str (names.org org)) body
        (names.user name) = (.error 400 "name required", store) := by
      simp [ShimApp.createUser, parsed, found, decoded, titled]
    exact follows_silent mock prod rfl rfl rfl (neutral.2 fun named => absurd named titled) same

theorem follows_createUser (org : Org) (body : ByteArray) (name : User)
    (fresh : state.findUser (names.userId name) = none) :
    Follows names pritunl state store nodeName loads format (.createUser org body name) := by
  have parsed := persistent.parses (names.org org)
  cases known : state.orgName (names.orgId org) with
  | none =>
      have absent : pritunl.getById store (names.org org) = none := by
        rw [← Option.not_isSome_iff_eq_none, ← same.orgs, known]
        simp
      have mock : MockNode.createUser loads state (names.orgId org) body (names.userHex name) =
          (.error 404 "org not found", state) := by
        rw [MockNode.createUser, if_pos known]
      have prod : ShimApp.createUser pritunl loads store (pritunl.str (names.org org)) body
          (names.user name) = (.error 404 "org not found", store) := by
        simp only [ShimApp.createUser, parsed, absent]
      refine follows_silent mock prod rfl rfl rfl ?_ same
      simp [forMock, Request.map, Neutral, known]
  | some orgName =>
      have present : ¬state.orgName (names.orgId org) = none := by simp [known]
      obtain ⟨o, found⟩ : ∃ o, pritunl.getById store (names.org org) = some o := by
        rw [← Option.isSome_iff_exists, ← same.orgs, known]
        rfl
      have neutral : Neutral loads state
          (.createUser (names.orgId org) body (names.userHex name)) ↔
            ¬Malformed loads body ∧ ∀ data, MockNode.fields loads body = .ok data →
              (Value.getD data "name" .null).truthy →
                encodable (Value.getD data "name" .null) = true ∧
                  encodable (Value.getD data "email" .null) = true := by
        simp [Neutral, known]
      by_cases malformed : Malformed loads body
      · obtain ⟨read, decoded⟩ := fields_of_malformed malformed
        have mock : MockNode.createUser loads state (names.orgId org) body (names.userHex name) =
            (.crash, state) := by
          simp only [MockNode.createUser, if_neg present, read]
        have prod : ShimApp.createUser pritunl loads store (pritunl.str (names.org org)) body
            (names.user name) = (.error 400 "name required", store) := by
          simp [ShimApp.createUser, parsed, found, decoded, Value.getD, Value.get?, Value.truthy]
        exact follows_apart mock prod (show 500 ≠ 400 by decide)
          fun harmless => (neutral.1 harmless).1 malformed
      · have decoded := fields_of_readable malformed
        cases read : MockNode.fields loads body with
        | error exception =>
            have mock : MockNode.createUser loads state (names.orgId org) body
                (names.userHex name) = (.crash, state) := by
              simp only [MockNode.createUser, if_neg present, read]
            have prod : ShimApp.createUser pritunl loads store (pritunl.str (names.org org)) body
                (names.user name) = (.crash, store) := by
              simp only [ShimApp.createUser, parsed, found, decoded, read]
            exact follows_silent mock prod rfl rfl rfl (neutral.2 ⟨malformed, by simp [read]⟩) same
        | ok data =>
            exact follows_created persistent same fresh present found (decoded.trans read) read
              (by simpa [malformed, read] using neutral)

theorem follows {request : Request Org User User} (fresh : Fresh state (forMock names request)) :
    Follows names pritunl state store nodeName loads format request := by
  cases request with
  | createUser org body name => exact follows_createUser persistent same org body name fresh
  | setDisabled name body => exact follows_setDisabled persistent same name body
  | revoke name => exact follows_revoke persistent same name
  | issueProfile name body keyId => exact follows_issueProfile persistent same name body keyId
  | deleteUser name => exact follows_deleteUser persistent same name
  | state => exact follows_state persistent same

end Others

end Following

section Runs

variable {Org User Store Oid : Type} (names : Naming Org User Oid) (pritunl : Pritunl Store Oid)
  (nodeName : String) (loads : ByteArray → Except PyException Value) (format : Value → String)

/-- In the mock, revoked is for good. -/
theorem mock_staysRevoked {state : MockNode.State}
    (unique : Keyed.Unique MockNode.User.id state.users)
    {requests : List (Request Org User User)}
    (fresh : Throughout (mockStep names nodeName loads format)
      (fun state request => Fresh state (forMock names request)) state requests) :
    StaysRevoked names.userId
      (answers (mockStep names nodeName loads format) state requests) := by
  refine promises_of_invariant (fun state => Keyed.Unique MockNode.User.id state.users)
    (fun name => Revoked (names.userId name))
    (fun state request unique fresh => step_unique unique fresh) ?_ ?_ unique fresh
  · rintro state request name unique fresh ⟨view, reported, named, revoked⟩
    obtain ⟨user, found, -, same⟩ := step_reports unique fresh view reported
    exact ⟨user, named ▸ found, same ▸ revoked⟩
  · intro name state request holds fresh spared
    have other : forMock names request ≠ .deleteUser (names.userId name) := by
      intro asked
      cases request with
      | deleteUser other =>
          have same := names.userId_injective (Request.deleteUser.inj asked)
          exact spared (same ▸ rfl)
      | _ => cases asked
    have next : Revoked (names.userId name) (mockStep names nodeName loads format state request).2 :=
      step_revoked holds.1 fresh holds.2 other
    refine ⟨?_, next⟩
    intro view reported named
    obtain ⟨user, found, -, same⟩ := step_reports holds.1 fresh view reported
    obtain ⟨stored, kept, revoked⟩ := next
    obtain rfl := Option.some.inj ((named ▸ found).symm.trans kept)
    rw [same]
    exact revoked

variable {pritunl} in
theorem Naming.prodId_injective [DecidableEq Oid] (persistent : Persistent pritunl) :
    Function.Injective (names.prodId pritunl) := by
  intro one other equal
  have parsed := congrArg pritunl.objectId equal
  rw [Naming.prodId, Naming.prodId, persistent.parses, persistent.parses] at parsed
  exact names.user_injective (Option.some.inj parsed)

variable (state : MockNode.State) (store : Store) (requests : List (Request Org User User))

/-- Along the requests the servers answer alike, and in both a revoked user stays revoked. -/
structure Faithful : Prop where
  agree : List.Forall₂ (Agree names pritunl)
    (answers (mockStep names nodeName loads format) state requests)
    (answers (prodStep names pritunl loads) store requests)
  mock : StaysRevoked names.userId (answers (mockStep names nodeName loads format) state requests)
  prod : StaysRevoked (names.prodId pritunl)
    (answers (prodStep names pritunl loads) store requests)

theorem faithful_iff_neutral [DecidableEq Oid] (persistent : Persistent pritunl)
    (same : Corresponding names pritunl state store)
    (fresh : Throughout (mockStep names nodeName loads format)
      (fun state request => Fresh state (forMock names request)) state requests) :
    Faithful names pritunl nodeName loads format state store requests ↔
      Throughout (mockStep names nodeName loads format)
        (fun state request => Neutral loads state (forMock names request)) state requests := by
  have agree : List.Forall₂ (Agree names pritunl)
      (answers (mockStep names nodeName loads format) state requests)
      (answers (prodStep names pritunl loads) store requests) ↔
        Throughout (mockStep names nodeName loads format)
          (fun state request => Neutral loads state (forMock names request)) state requests := by
    refine agree_iff_neutral ?_ ?_ same fresh
    · exact fun state store request same fresh => (follows persistent same fresh).exact
    · exact fun state store request same fresh => (follows persistent same fresh).next
  have mock := mock_staysRevoked names nodeName loads format same.unique fresh
  constructor
  · intro faithful
    exact agree.1 faithful.agree
  · intro neutral
    have alike := agree.2 neutral
    refine ⟨alike, mock, mock.transfer ?_ ?_ ?_ alike⟩
    · rintro name left right here ⟨other, reported, named, revoked⟩
      obtain ⟨view, shown, ⟨owner, mine, its⟩, -, flags⟩ := here.back other reported
      obtain rfl := names.prodId_injective persistent (its.symm.trans named)
      exact ⟨view, shown, mine, flags ▸ revoked⟩
    · rintro name left right here asked
      rw [← here.request]
      exact asked
    · rintro name left right here kept other reported named
      obtain ⟨view, shown, ⟨owner, mine, its⟩, -, flags⟩ := here.back other reported
      obtain rfl := names.prodId_injective persistent (its.symm.trans named)
      rw [flags]
      exact kept view shown mine

end Runs

section Nodes

structure Record where
  name : Value
  email : Value
  disabled : Bool

-- An object store of four possible ids.
structure Records where
  orgs : Fin 4 → Option String
  users : Fin 4 → Fin 4 → Option Record

def ids : List String :=
  ["650000000000000000000000", "650000000000000000000001", "650000000000000000000002",
    "650000000000000000000003"]

def Records.user (records : Records) (orgId oid : Fin 4) : Option (ShimApp.User (Fin 4)) :=
  (records.users orgId oid).map fun row => ⟨oid, row.name, row.email, row.disabled⟩

def Records.put (records : Records) (orgId oid : Fin 4) (row : Option Record) : Records :=
  { records with
    users := fun other another =>
      if other = orgId ∧ another = oid then row else records.users other another }

def Records.org (records : Records) (oid : Fin 4) : Option (ShimApp.Org (Fin 4)) :=
  (records.orgs oid).map fun name =>
    ⟨oid, name, (List.finRange 4).countP fun user => (records.users oid user).isSome⟩

def recorded : Pritunl Records (Fin 4) where
  objectId text := (List.finRange 4).find? fun oid => ids[oid] = text
  str oid := ids[oid]
  getById := Records.org
  iterOrgs records := (List.finRange 4).filterMap records.org
  iterUsers records orgId := (List.finRange 4).filterMap (records.user orgId)
  getUser records orgId oid := .ok (records.user orgId oid)
  newUser records orgId oid name email :=
    (⟨oid, name, email, false⟩, records.put orgId oid (some ⟨name, email, false⟩))
  commitDisabled records orgId oid disabled :=
    records.put orgId oid ((records.users orgId oid).map fun row => { row with disabled })
  remove records orgId oid := records.put orgId oid none
  createUserKeyLink _ _ _ := .obj []
  firstServer _ := none
  buildKeyConf _ _ _ _ := .empty
  buildKeyTarArchive _ _ _ := .empty
  serverViews _ := []

theorem user_put (records : Records) (orgId oid : Fin 4) (row : Option Record)
    (other another : Fin 4) :
    (records.put orgId oid row).user other another =
      if other = orgId ∧ another = oid then
        row.map fun row => ⟨another, row.name, row.email, row.disabled⟩
      else records.user other another := by
  simp only [Records.user, Records.put]
  split <;> rfl

theorem user_id {records : Records} {orgId oid : Fin 4} {u : ShimApp.User (Fin 4)}
    (found : records.user orgId oid = some u) : u.id = oid := by
  obtain ⟨row, -, rfl⟩ := Option.map_eq_some_iff.1 found
  rfl

theorem org_id {records : Records} {oid : Fin 4} {o : ShimApp.Org (Fin 4)}
    (found : records.org oid = some o) : o.id = oid := by
  obtain ⟨name, -, rfl⟩ := Option.map_eq_some_iff.1 found
  rfl

theorem recorded_persistent : Persistent recorded where
  parses := by decide
  getById_id _ _ _ found := org_id found
  listed records oid := by
    simp only [recorded, List.mem_filterMap, List.mem_finRange, true_and]
    constructor
    · rintro ⟨o, ⟨other, found⟩, rfl⟩
      rw [org_id found, found]
      rfl
    · intro present
      obtain ⟨o, found⟩ := Option.isSome_iff_exists.1 present
      exact ⟨o, ⟨oid, found⟩, org_id found⟩
  held_id _ _ _ _ found := user_id found
  iterated records orgId u := by
    simp only [recorded, List.mem_filterMap, List.mem_finRange, true_and]
    constructor
    · rintro ⟨oid, found⟩
      rw [user_id found]
      exact found
    · exact fun found => ⟨u.id, found⟩
  newUser_user _ _ _ _ _ := rfl
  newUser_held records orgId drawn name email other oid := by
    refine (user_put records orgId drawn _ other oid).trans ?_
    split_ifs with here
    · rw [here.2, Option.map_some]
    · rfl
  newUser_orgs _ _ _ _ _ _ := by simp [recorded, Records.org, Records.put]
  commit_held records orgId userId disabled other oid := by
    refine (user_put records orgId userId _ other oid).trans ?_
    split_ifs with here
    · rw [← here.1, ← here.2]
      cases stored : records.users other oid <;>
        simp [ShimApp.held, recorded, Records.user, stored]
    · rfl
  commit_orgs _ _ _ _ _ := by simp [recorded, Records.org, Records.put]
  remove_held records orgId userId other oid := user_put records orgId userId none other oid
  remove_orgs _ _ _ _ := by simp [recorded, Records.org, Records.put]

def naming : Naming Unit (Fin 3) (Fin 4) where
  orgId _ := "org-1"
  userHex user := ["1", "2", "0c0ffee0"][user]
  org _ := 0
  user := Fin.succ
  orgId_injective := fun _ _ _ => rfl
  userHex_injective one other := by decide +revert
  org_injective := fun _ _ _ => rfl
  user_injective := Fin.succ_injective 3

def seeded : MockNode.State where
  servers := []
  orgs := [⟨"org-1", "mock-corp"⟩]
  users := [⟨"usr-1", .str "alice", "org-1", .str "alice@example.com", false, false, true⟩,
    ⟨"usr-2", .str "bob", "org-1", .str "bob@example.com", false, false, true⟩]
  sessions := []

def registered : Records where
  orgs oid := if oid = 0 then some "mock-corp" else none
  users orgId oid :=
    if orgId = 0 ∧ oid = 1 then some ⟨.str "alice", .str "alice@example.com", false⟩
    else if orgId = 0 ∧ oid = 2 then some ⟨.str "bob", .str "bob@example.com", false⟩
    else none

def named : ByteArray := "\x7b\"name\": \"carol\"\x7d".toUTF8

def enabled : ByteArray := "\x7b\"disabled\": false\x7d".toUTF8

-- What these bodies decode to.
def decode (content : ByteArray) : Except PyException Value :=
  if content.data = named.data then .ok (.obj [("name", .str "carol")])
  else if content.data = enabled.data then .ok (.obj [("disabled", .bool false)])
  else if content.data = (orEmptyObject .empty).data then .ok (.obj [])
  else .error .valueError

theorem seeded_corresponding : Corresponding naming recorded seeded registered where
  unique := by simp [Keyed.Unique, seeded]
  orgs _ := rfl
  orgsNamed := by decide
  users _ name := by fin_cases name <;> rfl
  usersNamed orgId oid u found := by
    have named : ∀ orgId oid, (registered.user orgId oid).isSome → ∃ name : Fin 3, name.succ = oid :=
      by decide
    exact named orgId oid (Option.isSome_of_mem found)
  named := by decide
  placed := by decide
  flags := by decide
  shown := by decide

-- Nothing here changes a flag or meets a revoked user.
def harmless : List (Request Unit (Fin 3) (Fin 3)) :=
  [.createUser () named 2, .setDisabled 0 enabled, .issueProfile 0 .empty "k", .state,
    .deleteUser 1, .revoke 1, .state]

theorem harmless_faithful :
    Faithful naming recorded "mock" decode (fun _ => "") seeded registered harmless ↔
      Throughout (mockStep naming "mock" decode fun _ => "")
        (fun state request => Neutral decode state (forMock naming request)) seeded harmless :=
  faithful_iff_neutral naming recorded "mock" decode (fun _ => "") seeded registered harmless
    recorded_persistent seeded_corresponding
    ⟨rfl, trivial, trivial, trivial, trivial, trivial, trivial, trivial⟩

def reinstated : List (Request Unit (Fin 3) (Fin 3)) := [.revoke 0, .setDisabled 0 enabled]

-- In production a revoked user is enabled again.
theorem reinstated_unfaithful :
    ¬Faithful naming recorded "mock" decode (fun _ => "") seeded registered reinstated := by
  intro faithful
  obtain ⟨promised, -⟩ := faithful.prod
  have first := promised 0 ⟨_, List.mem_singleton.2 rfl, rfl, rfl⟩
  rcases first with released | ⟨kept, -⟩
  · cases released
  · have still := kept _ (List.mem_singleton.2 rfl) rfl
    cases still

end Nodes

end Fleet.MockFidelity
