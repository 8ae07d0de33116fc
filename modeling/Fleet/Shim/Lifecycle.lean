import Fleet.ControlPlane.ShimResponses
import Fleet.Shared.Keyed

set_option autoImplicit false

namespace Fleet.Lifecycle

open ShimResponses (Value PyException)

-- What both servers are asked; a creation comes with what the server draws for the new id, a
-- profile with the random key id it may print.
inductive Request (Org User Drawn : Type) where
  | createUser (orgId : Org) (body : ByteArray) (drawn : Drawn)
  | setDisabled (userId : User) (body : ByteArray)
  | revoke (userId : User)
  | issueProfile (userId : User) (body : ByteArray) (keyId : String)
  | deleteUser (userId : User)
  | state

def Request.map {Org User Drawn Org' User' Drawn' : Type} (org : Org → Org') (user : User → User')
    (draw : Drawn → Drawn') : Request Org User Drawn → Request Org' User' Drawn'
  | .createUser orgId body drawn => .createUser (org orgId) body (draw drawn)
  | .setDisabled userId body => .setDisabled (user userId) body
  | .revoke userId => .revoke (user userId)
  | .issueProfile userId body keyId => .issueProfile (user userId) body keyId
  | .deleteUser userId => .deleteUser (user userId)
  | .state => .state

structure UserView where
  id : String
  name : Value
  orgId : String
  orgName : Option String
  email : Value
  disabled : Bool
  revoked : Bool

structure OrgView where
  id : String
  name : String
  userCount : Nat

inductive Body where
  | error (text : String)
  | user (view : UserView)
  | state (servers : List Value) (orgs : List OrgView) (users : List UserView)
  | deleted (id : String)
  | profile (mimetype : String) (content : ByteArray)
  | link (content : Value)
  -- What the framework answers for an exception that nothing catches.
  | internalError

structure Response where
  status : Nat
  body : Body

def Response.crash : Response := ⟨500, .internalError⟩

def Response.error (status : Nat) (text : String) : Response := ⟨status, .error text⟩

-- Every user the response reports on.
def Response.users (response : Response) : List UserView :=
  match response.body with
  | .user view => [view]
  | .state _ _ views => views
  | _ => []

@[simp] theorem users_crash : Response.crash.users = [] := rfl

@[simp] theorem users_error (status : Nat) (text : String) :
    (Response.error status text).users = [] := rfl

@[simp] theorem users_user (status : Nat) (view : UserView) :
    (Response.mk status (.user view)).users = [view] := rfl

@[simp] theorem users_state (status : Nat) (servers : List Value) (orgs : List OrgView)
    (users : List UserView) : (Response.mk status (.state servers orgs users)).users = users := rfl

@[simp] theorem users_deleted (status : Nat) (id : String) :
    (Response.mk status (.deleted id)).users = [] := rfl

@[simp] theorem users_profile (status : Nat) (mimetype : String) (content : ByteArray) :
    (Response.mk status (.profile mimetype content)).users = [] := rfl

@[simp] theorem users_link (status : Nat) (content : Value) :
    (Response.mk status (.link content)).users = [] := rfl

-- `body or b"{}"`.
def orEmptyObject (body : ByteArray) : ByteArray :=
  if body.isEmpty then "\x7b\x7d".toUTF8 else body

mutual

/-- What JSONResponse can encode: it passes `allow_nan=False`. -/
def encodable : Value → Bool
  | .float none => false
  | .arr items => encodableItems items
  | .obj members => encodableMembers members
  | _ => true

def encodableItems : List Value → Bool
  | [] => true
  | item :: rest => encodable item && encodableItems rest

def encodableMembers : List (String × Value) → Bool
  | [] => true
  | (_, value) :: rest => encodable value && encodableMembers rest

end

def UserView.encodable (view : UserView) : Bool :=
  Lifecycle.encodable view.name && Lifecycle.encodable view.email

end Fleet.Lifecycle

namespace Fleet.MockNode

open Lifecycle
open ShimResponses (Value PyException)

structure User where
  id : String
  name : Value
  orgId : String
  email : Value
  disabled : Bool
  revoked : Bool
  hasProfile : Bool

namespace User

def disable (disabled : Bool) (user : User) : User := { user with disabled }

def revoke (user : User) : User := { user with revoked := true, hasProfile := false }

def grant (user : User) : User := { user with hasProfile := true }

theorem disable_id (disabled : Bool) (user : User) : (user.disable disabled).id = user.id := rfl

theorem revoke_id (user : User) : user.revoke.id = user.id := rfl

theorem grant_id (user : User) : user.grant.id = user.id := rfl

end User

structure Org where
  id : String
  name : String

structure Session where
  userId : String
  fields : List (String × Value)

structure State where
  servers : List Value
  orgs : List Org
  users : List User
  sessions : List Session

variable (nodeName : String) (loads : ByteArray → Except PyException Value)
  (format : Value → String)

def State.orgName (state : State) (orgId : String) : Option String :=
  (Keyed.lookup Org.id orgId state.orgs).map Org.name

def State.findUser (state : State) (userId : String) : Option User :=
  Keyed.lookup User.id userId state.users

def State.userView (state : State) (u : User) : UserView where
  id := u.id
  name := u.name
  orgId := u.orgId
  orgName := state.orgName u.orgId
  email := u.email
  disabled := u.disabled
  revoked := u.revoked

-- A write to the dict that `_find_user` returned.
def State.alter (state : State) (userId : String) (change : User → User) : State :=
  { state with users := Keyed.alter User.id userId change state.users }

def State.endSessions (state : State) (userId : String) : State :=
  { state with sessions := state.sessions.filter fun session => session.userId ≠ userId }

def respond (status : Nat) (view : UserView) : Response :=
  if view.encodable then ⟨status, .user view⟩ else .crash

-- `json.loads(body or b"{}")`, of which `.get` is taken.
def fields (body : ByteArray) : Except PyException (List (String × Value)) :=
  match loads (orEmptyObject body) with
  | .ok (.obj members) => .ok members
  | .ok _ => .error .attributeError
  | .error exception => .error exception

def createUser (state : State) (orgId : String) (body : ByteArray) (drawn : String) :
    Response × State :=
  if state.orgName orgId = none then (.error 404 "org not found", state)
  else
    match fields loads body with
    | .error _ => (.crash, state)
    | .ok data =>
        let name := Value.getD data "name" .null
        if name.truthy then
          let user : User := {
            id := "usr-" ++ drawn, name, orgId, email := Value.getD data "email" .null
            disabled := false, revoked := false, hasProfile := false }
          let state := { state with users := state.users ++ [user] }
          (respond 201 (state.userView user), state)
        else (.error 400 "name required", state)

def setDisabled (state : State) (userId : String) (body : ByteArray) : Response × State :=
  match state.findUser userId with
  | none => (.error 404 "user not found", state)
  | some user =>
      match fields loads body with
      | .error _ => (.crash, state)
      | .ok data =>
          let disabled := (Value.getD data "disabled" (.bool true)).truthy
          let state := state.alter userId (User.disable disabled)
          (respond 200 (state.userView (user.disable disabled)), state)

def deleteUser (state : State) (userId : String) : Response × State :=
  match state.findUser userId with
  | none => (.error 404 "user not found", state)
  | some _ =>
      let state := { state with users := state.users.eraseP fun user => user.id = userId }
      (⟨200, .deleted userId⟩, state.endSessions userId)

def profile (fmt : Value) (user : User) (keyId : String) : String :=
  "# Pritunl profile (" ++ format fmt ++ ") for " ++ format user.name ++ " @ " ++ nodeName ++
    "\nclient\ndev tun\nproto udp\nremote " ++ nodeName ++ ".vpn.example 1194\n# key-id " ++
    keyId ++ "\n"

-- `has_profile` is set before the body is read.
def issueProfile (state : State) (userId : String) (body : ByteArray) (keyId : String) :
    Response × State :=
  match state.findUser userId with
  | none => (.error 404 "user not found", state)
  | some user =>
      if user.revoked then (.error 409 "user is revoked", state)
      else
        let state := state.alter userId User.grant
        match fields loads body with
        | .error _ => (.crash, state)
        | .ok data =>
            let fmt := Value.getD data "fmt" (.str "ovpn")
            (⟨200, .profile "application/x-openvpn-profile"
              (profile nodeName format fmt user keyId).toUTF8⟩, state)

def revokeProfile (state : State) (userId : String) : Response × State :=
  match state.findUser userId with
  | none => (.error 404 "user not found", state)
  | some user =>
      let state := (state.alter userId User.revoke).endSessions userId
      (respond 200 (state.userView user.revoke), state)

def State.orgViews (state : State) : List OrgView :=
  state.orgs.map fun o =>
    ⟨o.id, o.name, state.users.countP fun user => user.orgId = o.id⟩

def State.views (state : State) : List UserView := state.users.map state.userView

def state (state : State) : Response × State :=
  if state.views.all UserView.encodable then
    (⟨200, .state state.servers state.orgViews state.views⟩, state)
  else (.crash, state)

abbrev Call := Request String String String

def step (current : State) : Call → Response × State
  | .createUser orgId body drawn => createUser loads current orgId body drawn
  | .setDisabled userId body => setDisabled loads current userId body
  | .revoke userId => revokeProfile current userId
  | .issueProfile userId body keyId =>
      issueProfile nodeName loads format current userId body keyId
  | .deleteUser userId => deleteUser current userId
  | .state => state current

end Fleet.MockNode

namespace Fleet.ShimApp

open Lifecycle
open ShimResponses (Value PyException)

structure Org (Oid : Type) where
  id : Oid
  name : String
  userCount : Nat

structure User (Oid : Type) where
  id : Oid
  name : Value
  email : Value
  disabled : Bool

/-- Pritunl's objects as the shim uses them, over the store behind them. -/
structure Pritunl (Store Oid : Type) where
  -- `ObjectId(text)`, which raises on a malformed text, and `str`.
  objectId : String → Option Oid
  str : Oid → String
  getById : Store → Oid → Option (Org Oid)
  iterOrgs : Store → List (Org Oid)
  iterUsers : Store → Oid → List (User Oid)
  getUser : Store → Oid → Oid → Except PyException (Option (User Oid))
  newUser : Store → Oid → Oid → Value → Value → User Oid × Store
  commitDisabled : Store → Oid → Oid → Bool → Store
  remove : Store → Oid → Oid → Store
  createUserKeyLink : Store → Oid → Oid → Value
  firstServer : Store → Option Oid
  buildKeyConf : Store → Oid → Oid → Oid → ByteArray
  buildKeyTarArchive : Store → Oid → Oid → ByteArray
  serverViews : Store → List Value

variable {Store Oid : Type} (pritunl : Pritunl Store Oid)
  (loads : ByteArray → Except PyException Value)

def bodyJson (body : ByteArray) : Except PyException Value :=
  match loads (orEmptyObject body) with
  | .error .valueError => .ok (.obj [])
  | decoded => decoded

-- The receiver of `.get`.
def fields (body : ByteArray) : Except PyException (List (String × Value)) :=
  match bodyJson loads body with
  | .ok (.obj members) => .ok members
  | .ok _ => .error .attributeError
  | .error exception => .error exception

def orgView (o : Org Oid) : OrgView := ⟨pritunl.str o.id, o.name, o.userCount⟩

-- OSS has no separate revoke.
def userView (o : Org Oid) (u : User Oid) : UserView where
  id := pritunl.str u.id
  name := u.name
  orgId := pritunl.str o.id
  orgName := some o.name
  email := u.email
  disabled := u.disabled
  revoked := u.disabled

-- Whatever `get_user` raises counts as not found in that organisation.
def held (store : Store) (orgId oid : Oid) : Option (User Oid) :=
  match pritunl.getUser store orgId oid with
  | .ok found => found
  | .error _ => none

/-- `_find_user`, or none where the id is malformed. -/
def findUser (store : Store) (userId : String) : Option (Option (Org Oid × User Oid)) :=
  (pritunl.objectId userId).map fun oid =>
    (pritunl.iterOrgs store).findSome? fun o => (held pritunl store o.id oid).map (o, ·)

-- The handlers of one user start alike.
def withUser (store : Store) (userId : String)
    (handler : Org Oid → User Oid → Response × Store) : Response × Store :=
  match findUser pritunl store userId with
  | none => (.crash, store)
  | some none => (.error 404 "user not found", store)
  | some (some (o, u)) => handler o u

def createUser (store : Store) (orgId : String) (body : ByteArray) (drawn : Oid) :
    Response × Store :=
  match pritunl.objectId orgId with
  | none => (.crash, store)
  | some oid =>
      match pritunl.getById store oid with
      | none => (.error 404 "org not found", store)
      | some o =>
          match fields loads body with
          | .error _ => (.crash, store)
          | .ok data =>
              let name := Value.getD data "name" .null
              if name.truthy then
                let (u, store) :=
                  pritunl.newUser store o.id drawn name (Value.getD data "email" .null)
                (⟨201, .user (userView pritunl o u)⟩, store)
              else (.error 400 "name required", store)

def setDisabled (store : Store) (userId : String) (body : ByteArray) : Response × Store :=
  withUser pritunl store userId fun o u =>
    match fields loads body with
    | .error _ => (.crash, store)
    | .ok data =>
        let disabled := (Value.getD data "disabled" (.bool true)).truthy
        (⟨200, .user (userView pritunl o { u with disabled })⟩,
          pritunl.commitDisabled store o.id u.id disabled)

def revoke (store : Store) (userId : String) : Response × Store :=
  withUser pritunl store userId fun o u =>
    (⟨200, .user (userView pritunl o { u with disabled := true })⟩,
      pritunl.commitDisabled store o.id u.id true)

def deleteUser (store : Store) (userId : String) : Response × Store :=
  withUser pritunl store userId fun o u =>
    (⟨200, .deleted userId⟩, pritunl.remove store o.id u.id)

def isText (value : Value) (text : String) : Bool :=
  match value with
  | .str other => other = text
  | _ => false

def profile (store : Store) (userId : String) (body : ByteArray) : Response × Store :=
  withUser pritunl store userId fun o u =>
    match fields loads body with
    | .error _ => (.crash, store)
    | .ok data =>
        let fmt := Value.getD data "fmt" (.str "tar")
        let archive : Response :=
          ⟨200, .profile "application/x-tar" (pritunl.buildKeyTarArchive store o.id u.id)⟩
        if isText fmt "keyurl" then
          (⟨200, .link (pritunl.createUserKeyLink store o.id u.id)⟩, store)
        else if isText fmt "ovpn" then
          match pritunl.firstServer store with
          | some srv =>
              (⟨200, .profile "application/x-openvpn-profile"
                (pritunl.buildKeyConf store o.id u.id srv)⟩, store)
          | none => (archive, store)
        else (archive, store)

def views (store : Store) : List UserView :=
  (pritunl.iterOrgs store).flatMap fun o =>
    (pritunl.iterUsers store o.id).map (userView pritunl o)

def state (store : Store) : Response × Store :=
  (⟨200, .state (pritunl.serverViews store) ((pritunl.iterOrgs store).map (orgView pritunl))
    (views pritunl store)⟩, store)

def step (store : Store) : Request String String Oid → Response × Store
  | .createUser orgId body drawn => createUser pritunl loads store orgId body drawn
  | .setDisabled userId body => setDisabled pritunl loads store userId body
  | .revoke userId => revoke pritunl store userId
  | .issueProfile userId body _ => profile pritunl loads store userId body
  | .deleteUser userId => deleteUser pritunl store userId
  | .state => state pritunl store

end Fleet.ShimApp
