import Fleet.ControlPlane.ApiEffects
import Fleet.ControlPlane.Documents
import Fleet.ControlPlane.Envelope
import Fleet.Shared.Simulation

set_option autoImplicit false

namespace Fleet.Registry

open Db NodeAdapter Api Frames Mealy
open ShimResponses (Value)

structure NodeRecord where
  id : String
  name : String
  region : String
  endpoint : String
  adapterType : AdapterType
  verifyTls : Bool
  enabled : Bool
  credentialsEnc : Bytes
  status : HealthStatus
  lastSyncedAt : Option Datetime

/-- What sealing and the JSON module rest on: the cipher and the master key, how deep the decoder
goes, and the conversion of a text to a float. -/
structure Vault where
  gcm : Envelope.AesGcm
  masterKey : Envelope.MasterKey
  limit : Nat
  parseFloat : List Char → Option (Int × Int)

-- How reading stored credentials fails.
inductive Unreadable where
  | sealing (exception : Envelope.Exception)
  | unicode
  | json (failure : JsonText.Failure)
  | notADict

inductive Request where
  | create (newId : String) (drawn : Envelope.Drawn) (payload : NodeCreate)
  | update (nodeId : String) (drawn : Envelope.Drawn) (payload : NodeUpdate)
  | delete (nodeId : String)

section Service

variable (vault : Vault)

def credentialsText (credentials : Credentials) : List Char :=
  (Json.obj credentials).render JsonText.tight

def sealCredentials (drawn : Envelope.Drawn) (credentials : Credentials) :
    Except Envelope.Exception Bytes :=
  Envelope.seal_ vault.gcm vault.masterKey drawn
    (String.ofList (credentialsText credentials)).toUTF8.data.toList

-- A text that starts with a byte order mark is refused.
def loadsText (text : List Char) : Except JsonText.Failure Value :=
  if text.head? = some (Char.ofNat 0xFEFF) then .error .invalid
  else JsonText.decode (Documents.hooks vault.parseFloat) vault.limit text

def unsealCredentials (blob : Bytes) : Except Unreadable Value :=
  match Envelope.open_ vault.gcm vault.masterKey blob with
  | .error exception => .error (.sealing exception)
  | .ok bytes =>
      match String.fromUTF8? ⟨bytes.toArray⟩ with
      | none => .error .unicode
      | some text => (loadsText vault text.toList).mapError .json

def getAdminUrl (node : NodeRecord) : Except Unreadable (Option Value) :=
  match unsealCredentials vault node.credentialsEnc with
  | .ok (.obj credentials) => .ok (Value.get? credentials "admin_url")
  | .ok _ => .error .notADict
  | .error unreadable => .error unreadable

abbrev Handled := Except Auth.HttpError Unit × List NodeRecord

variable (rows : List NodeRecord)

def refuse (error : Auth.HttpError) : Handled := (.error error, rows)

def createNode (newId : String) (drawn : Envelope.Drawn) (payload : NodeCreate) : Handled :=
  if payload.name ∈ rows.map NodeRecord.name then refuse rows (duplicateNode payload.name)
  else
    match sealCredentials vault drawn payload.credentials with
    | .error _ => refuse rows Auth.internalError
    | .ok blob =>
        if newId ∈ rows.map NodeRecord.id then refuse rows Auth.internalError
        else
          (.ok (), rows ++ [
            { id := newId, name := payload.name, region := payload.region,
              endpoint := payload.endpoint, adapterType := payload.adapterType,
              verifyTls := payload.verifyTls, enabled := payload.enabled, credentialsEnc := blob,
              status := .unknown, lastSyncedAt := none }])

-- `None` leaves the credentials unchanged.
def newBlob (drawn : Envelope.Drawn) (payload : NodeUpdate) (node : NodeRecord) :
    Except Envelope.Exception Bytes :=
  match payload.credentials with
  | some (some credentials) => sealCredentials vault drawn credentials
  | _ => .ok node.credentialsEnc

def clashes (payload : NodeUpdate) (node : NodeRecord) : Option String :=
  match payload.name with
  | some (some name) =>
      if name ≠ node.name ∧ ∃ other ∈ rows, other.name = name ∧ other.id ≠ node.id then some name
      else none
  | _ => none

def assign (payload : NodeUpdate) (blob : Bytes) (node : NodeRecord) : NodeRecord :=
  { node with
    name := (payload.name.bind id).getD node.name
    region := (payload.region.bind id).getD node.region
    endpoint := (payload.endpoint.bind id).getD node.endpoint
    adapterType := (payload.adapterType.bind id).getD node.adapterType
    verifyTls := (payload.verifyTls.bind id).getD node.verifyTls
    enabled := (payload.enabled.bind id).getD node.enabled
    credentialsEnc := blob }

def updateNode (nodeId : String) (drawn : Envelope.Drawn) (payload : NodeUpdate) : Handled :=
  match Keyed.lookup NodeRecord.id nodeId rows with
  | none => refuse rows nodeNotFound
  | some node =>
      match clashes rows payload node with
      | some name => refuse rows (duplicateNode name)
      | none =>
          match newBlob vault drawn payload node with
          | .error _ => refuse rows Auth.internalError
          | .ok blob =>
              -- A null breaks the column at the flush.
              if payload.nulls then refuse rows Auth.internalError
              else (.ok (), Keyed.replace NodeRecord.id (assign payload blob node) rows)

def deleteNode (nodeId : String) : Handled :=
  match Keyed.lookup NodeRecord.id nodeId rows with
  | none => refuse rows nodeNotFound
  | some _ => (.ok (), rows.filter fun node => node.id ≠ nodeId)

def handle (rows : List NodeRecord) : Request → Handled
  | .create newId drawn payload => createNode vault rows newId drawn payload
  | .update nodeId drawn payload => updateNode vault rows nodeId drawn payload
  | .delete nodeId => deleteNode rows nodeId

end Service

section Plain

-- The same requests to the registry that keeps what the blobs open to.
def plain (world : World) : Request → Api.Reply × World
  | .create newId _ payload => (Api.createNode world newId payload).swap
  | .update nodeId _ payload => (Api.updateNode world nodeId payload).swap
  | .delete nodeId => (Api.deleteNode world nodeId).swap

variable (vault : Vault)

/-- Sealing takes its text, and the JSON module writes it and reads it back. -/
structure Storable (credentials : Credentials) : Prop where
  fits : JsonText.Fits vault.limit (.obj credentials)
  short : (String.ofList (credentialsText credentials)).toUTF8.size + 28 < 2 ^ 32

def Request.Storable : Request → Prop
  | .create _ _ payload => Registry.Storable vault payload.credentials
  | .update _ _ payload =>
      ∀ credentials, payload.credentials = some (some credentials) →
        Registry.Storable vault credentials
  | .delete _ => True

def NodeRecord.opened (record : NodeRecord) (credentials : Credentials) : Node :=
  { id := record.id, name := record.name, region := record.region, endpoint := record.endpoint,
    adapterType := record.adapterType, verifyTls := record.verifyTls, enabled := record.enabled,
    credentials := credentials, status := record.status, lastSyncedAt := record.lastSyncedAt }

/-- The row holds the node, its credentials sealed. -/
structure Shows (node : Node) (record : NodeRecord) : Prop where
  columns : node = record.opened node.credentials
  unseals : unsealCredentials vault record.credentialsEnc =
    .ok (.obj (Documents.ofMembers node.credentials))

def Stored (world : World) (rows : List NodeRecord) : Prop :=
  List.Forall₂ (Shows vault) world.database.tables.nodes rows

def Alike : Api.Reply → Except Auth.HttpError Unit → Prop
  | .done, .ok () => True
  | .refused error, .error given => given = error
  | _, _ => False

end Plain

section Sealing

variable {vault : Vault}

/-- Whatever is encrypted under a key and a nonce is decrypted under them. -/
def Opens (gcm : Envelope.AesGcm) : Prop :=
  ∀ key nonce data, gcm.decrypt key nonce (gcm.encrypt key nonce data) = some data

theorem decrypt_part {gcm : Envelope.AesGcm} (opens : Opens gcm) {key nonce data : Bytes}
    (long : nonce.length = Envelope.nonceLen) :
    Envelope.decrypt gcm key ((nonce ++ gcm.encrypt key nonce data).take Envelope.nonceLen)
      ((nonce ++ gcm.encrypt key nonce data).drop Envelope.nonceLen) = .ok data := by
  have short : ¬ nonce.length < 8 := by
    rw [long]
    decide
  rw [← long, List.take_left, List.drop_left, Envelope.decrypt, if_neg short, opens]

theorem open_seal {gcm : Envelope.AesGcm} (opens : Opens gcm) {masterKey : Envelope.MasterKey}
    {drawn : Envelope.Drawn} {plaintext blob : Bytes}
    (sealed : Envelope.seal_ gcm masterKey drawn plaintext = .ok blob) :
    Envelope.open_ gcm masterKey blob = .ok plaintext := by
  rw [Envelope.seal_eq] at sealed
  split at sealed
  next dataFits =>
    obtain rfl := Except.ok.inj sealed
    have keyFits : (Envelope.keyPart gcm masterKey drawn).length < 2 ^ 32 := by
      rw [Envelope.keyPart_length]
      decide
    have parts := Envelope.parts_framed keyFits dataFits []
    rw [List.append_nil] at parts
    have wrapped : Envelope.decrypt gcm masterKey.bytes _ _ = .ok drawn.dek :=
      decrypt_part opens drawn.wrapNonce_length
    have enciphered : Envelope.decrypt gcm drawn.dek _ _ = .ok plaintext :=
      decrypt_part opens drawn.dataNonce_length
    rw [← Envelope.keyPart] at wrapped
    rw [← Envelope.dataPart] at enciphered
    have marked : (Envelope.version ++ framed 4 (Envelope.keyPart gcm masterKey drawn) ++
        framed 4 (Envelope.dataPart gcm drawn plaintext)).take 1 = Envelope.version := rfl
    rw [Envelope.open_, if_neg (not_not_intro marked), parts]
    simp only [bind, Except.bind, Envelope.unwrap, Envelope.aesgcm_master, wrapped,
      Envelope.aesgcm_dek, enciphered]
    rfl
  next => cases sealed

theorem loadsText_credentials {credentials : Credentials} (storable : Storable vault credentials) :
    loadsText vault (credentialsText credentials) = .ok (.obj (Documents.ofMembers credentials)) := by
  have written : credentialsText credentials =
      JsonText.write Json.escapeChar JsonText.tight (.obj credentials) :=
    JsonText.render_eq_write _ _
  obtain ⟨c, -, rest, shape⟩ :=
    @JsonText.write_object Json.escapeChar _ JsonText.readable_tight credentials
  have unmarked : ¬ (credentialsText credentials).head? = some (Char.ofNat 0xFEFF) := by
    rw [written, shape, List.head?_cons, Option.some.injEq]
    decide
  rw [loadsText, if_neg unmarked, written, JsonText.decode_write JsonText.faithful_escapeChar
    JsonText.readable_tight storable.fits]
  exact congrArg (Except.ok ∘ Value.obj) (Documents.foldMembers_hooks _ credentials)

theorem sealCredentials_opens (opens : Opens vault.gcm) (drawn : Envelope.Drawn)
    {credentials : Credentials} (storable : Storable vault credentials) :
    ∃ blob, sealCredentials vault drawn credentials = .ok blob ∧
      unsealCredentials vault blob = .ok (.obj (Documents.ofMembers credentials)) := by
  have length : (Envelope.dataPart vault.gcm drawn
      (String.ofList (credentialsText credentials)).toUTF8.data.toList).length < 2 ^ 32 := by
    have short := storable.short
    rw [ByteArray.size, ← Array.length_toList] at short
    rw [Envelope.dataPart, List.length_append, vault.gcm.encrypt_length, drawn.dataNonce_length,
      Envelope.nonceLen]
    omega
  have sealed := Envelope.seal_eq vault.gcm vault.masterKey drawn
    (String.ofList (credentialsText credentials)).toUTF8.data.toList
  rw [if_pos length] at sealed
  refine ⟨_, sealed, ?_⟩
  have text : String.fromUTF8? ⟨(String.ofList (credentialsText credentials)).toUTF8.data⟩ =
      some (String.ofList (credentialsText credentials)) := JsonText.fromUTF8?_toUTF8 _
  rw [unsealCredentials, open_seal opens sealed]
  dsimp only
  rw [Array.toArray_toList, text]
  dsimp only
  rw [String.toList_ofList, loadsText_credentials storable]
  rfl

end Sealing

section Simulation

variable {vault : Vault} {world : World} {rows : List NodeRecord}

theorem Shows.id {node : Node} {record : NodeRecord} (shows_ : Shows vault node record) :
    record.id = node.id := by
  rw [shows_.columns]
  rfl

theorem Shows.name {node : Node} {record : NodeRecord} (shows_ : Shows vault node record) :
    record.name = node.name := by
  rw [shows_.columns]
  rfl

theorem Stored.ids (stored : Stored vault world rows) :
    rows.map NodeRecord.id = world.database.tables.nodes.map Node.id :=
  @Keyed.map_key_pairs _ _ _ _ _ (Shows vault) Shows.id _ _ stored

theorem Stored.names (stored : Stored vault world rows) :
    rows.map NodeRecord.name = world.database.tables.nodes.map Node.name :=
  @Keyed.map_key_pairs _ _ _ _ _ (Shows vault) Shows.name _ _ stored

theorem Stored.row (stored : Stored vault world rows) (nodeId : String) :
    Option.Rel (Shows vault) (world.database.tables.node? nodeId)
      (Keyed.lookup NodeRecord.id nodeId rows) :=
  @Keyed.lookup_pairs _ _ _ _ _ _ (Shows vault) Shows.id _ _ stored nodeId

theorem store_of_valid {tables : Tables} (valid : tables.Valid) :
    store tables = some ⟨tables, valid⟩ := dif_pos valid

/-- The reply, and the registry it leaves. -/
def Follows (vault : Vault) (wanted : Api.Reply × World) (given : Handled) : Prop :=
  Alike wanted.1 given.1 ∧ Stored vault wanted.2 given.2

theorem follows_refused (stored : Stored vault world rows) (error : Auth.HttpError) :
    Follows vault (Api.refuse world error).swap (refuse rows error) :=
  ⟨rfl, stored⟩

theorem createNode_follows (opens : Opens vault.gcm) (stored : Stored vault world rows)
    (newId : String) (drawn : Envelope.Drawn) (payload : NodeCreate)
    (storable : Storable vault payload.credentials) :
    Follows vault (Api.createNode world newId payload).swap
      (createNode vault rows newId drawn payload) := by
  obtain ⟨blob, sealed, unseals⟩ := sealCredentials_opens opens drawn storable
  unfold Api.createNode createNode
  dsimp only
  rw [stored.names, sealed]
  dsimp only
  rw [stored.ids]
  split
  · exact follows_refused stored _
  · by_cases used : newId ∈ world.database.tables.nodes.map Node.id
    · rw [if_pos used]
      split
      · exact follows_refused stored _
      next database kept =>
        exfalso
        have ids := database.valid.nodes
        rw [store_tables kept, Keyed.Unique, List.map_append, List.nodup_append] at ids
        exact ids.2.2 newId used newId (by simp) rfl
    · rw [if_neg used, store_of_valid (world.database.valid.register used)]
      exact ⟨trivial, List.rel_append stored (.cons ⟨rfl, unseals⟩ .nil)⟩

theorem Stored.clashes (stored : Stored vault world rows) {node : Node} {record : NodeRecord}
    (shows_ : Shows vault node record) (payload : NodeUpdate) :
    clashes rows payload record = payload.clashes node world.database.tables.nodes := by
  have taken (name : String) :
      (∃ other ∈ world.database.tables.nodes, other.name = name ∧ other.id ≠ node.id) ↔
        ∃ other ∈ rows, other.name = name ∧ other.id ≠ record.id :=
    Keyed.exists_pairs
      (fun pair => by rw [Shows.name pair, Shows.id pair, shows_.id]) stored
  unfold Registry.clashes NodeUpdate.clashes
  rcases payload.name with _ | _ | name
  · rfl
  · rfl
  · simp only [taken, shows_.name]

theorem Shows.assign {node : Node} {record : NodeRecord} (shows_ : Shows vault node record)
    {payload : NodeUpdate} {blob : Bytes}
    (unseals : unsealCredentials vault blob =
      .ok (.obj (Documents.ofMembers (payload.apply node).credentials))) :
    Shows vault (payload.apply node) (assign payload blob record) := by
  refine ⟨?_, unseals⟩
  have columns := shows_.columns
  cases node
  simp only [NodeRecord.opened, Node.mk.injEq] at columns
  obtain ⟨rfl, rfl, rfl, rfl, rfl, rfl, rfl, -, rfl, rfl⟩ := columns
  rfl

theorem newBlob_opens (opens : Opens vault.gcm) {node : Node} {record : NodeRecord}
    (shows_ : Shows vault node record) (drawn : Envelope.Drawn) {payload : NodeUpdate}
    (storable : ∀ credentials, payload.credentials = some (some credentials) →
      Storable vault credentials) :
    ∃ blob, newBlob vault drawn payload record = .ok blob ∧
      unsealCredentials vault blob =
        .ok (.obj (Documents.ofMembers (payload.apply node).credentials)) := by
  unfold newBlob NodeUpdate.apply
  rcases given : payload.credentials with _ | _ | credentials
  · exact ⟨_, rfl, shows_.unseals⟩
  · exact ⟨_, rfl, shows_.unseals⟩
  · exact sealCredentials_opens opens drawn (storable credentials given)

theorem updateNode_follows (opens : Opens vault.gcm) (stored : Stored vault world rows)
    (nodeId : String) (drawn : Envelope.Drawn) (payload : NodeUpdate)
    (storable : ∀ credentials, payload.credentials = some (some credentials) →
      Storable vault credentials) :
    Follows vault (Api.updateNode world nodeId payload).swap
      (updateNode vault rows nodeId drawn payload) := by
  unfold Api.updateNode updateNode
  dsimp only
  have row := stored.row nodeId
  generalize found : world.database.tables.node? nodeId = held at row ⊢
  generalize Keyed.lookup NodeRecord.id nodeId rows = kept at row ⊢
  cases row with
  | none => exact follows_refused stored _
  | @some node record shows_ =>
      obtain ⟨blob, sealed, unseals⟩ := newBlob_opens opens shows_ drawn storable
      dsimp only
      rw [stored.clashes shows_, sealed, store_of_valid (world.database.valid.revise _)]
      rcases payload.clashes node world.database.tables.nodes with _ | name
      · dsimp only
        split
        · exact follows_refused stored _
        · exact ⟨trivial, @Keyed.replace_pairs _ _ _ _ _ _ (Shows vault) Shows.id _ _ _ _ stored
            (shows_.assign unseals)⟩
      · exact follows_refused stored _

theorem deleteNode_follows (stored : Stored vault world rows) (nodeId : String) :
    Follows vault (Api.deleteNode world nodeId).swap (deleteNode rows nodeId) := by
  unfold Api.deleteNode deleteNode
  dsimp only
  have row := stored.row nodeId
  generalize world.database.tables.node? nodeId = held at row ⊢
  generalize Keyed.lookup NodeRecord.id nodeId rows = kept at row ⊢
  cases row with
  | none => exact follows_refused stored _
  | some =>
      dsimp only
      rw [store_of_valid (world.database.valid.unregister nodeId)]
      refine ⟨trivial, List.rel_filter ?_ stored⟩
      intro node record shows_
      simp only [decide_eq_true_eq, shows_.id]

theorem simulates (opens : Opens vault.gcm) :
    Simulation plain (handle vault) (fun _ request => request.Storable vault) (Stored vault)
      Alike := by
  have follows (wanted : World) (given : List NodeRecord) (request : Request)
      (stored : Stored vault wanted given) (storable : request.Storable vault) :
      Follows vault (plain wanted request) (handle vault given request) := by
    cases request with
    | create newId drawn payload =>
        exact createNode_follows opens stored newId drawn payload storable
    | update nodeId drawn payload =>
        exact updateNode_follows opens stored nodeId drawn payload storable
    | delete nodeId => exact deleteNode_follows stored nodeId
  exact ⟨fun stored storable => (follows _ _ _ stored storable).1,
    fun stored storable => (follows _ _ _ stored storable).2⟩

theorem Shows.adminUrl {node : Node} {record : NodeRecord} (shows_ : Shows vault node record) :
    getAdminUrl vault record =
      .ok ((Json.get? node.credentials "admin_url").map Documents.ofJson) := by
  rw [getAdminUrl, shows_.unseals, ← Documents.get?_ofMembers]

-- What a reader of the sealed registry finds of a node.
def Reads (vault : Vault) (node : Node) (record : NodeRecord) : Prop :=
  node = record.opened node.credentials ∧
    unsealCredentials vault record.credentialsEnc = .ok (.obj (Documents.ofMembers node.credentials)) ∧
    getAdminUrl vault record =
      .ok ((Json.get? node.credentials "admin_url").map Documents.ofJson)

end Simulation

section Instance

-- A tag of zeros.
def padding : Envelope.AesGcm where
  encrypt _ _ data := data ++ List.replicate 16 0
  decrypt _ _ data := some (data.take (data.length - 16))
  encrypt_length _ _ data := by simp

def vault : Vault where
  gcm := padding
  masterKey := ⟨List.replicate 32 7, rfl⟩
  limit := 1000
  parseFloat _ := none

theorem dek_length : (List.replicate 32 (1 : UInt8)).length = Envelope.keyLen := rfl

theorem wrapNonce_length : (List.replicate 12 (4 : UInt8)).length = Envelope.nonceLen := rfl

theorem dataNonce_length : (List.replicate 12 (5 : UInt8)).length = Envelope.nonceLen := rfl

def drawn : Envelope.Drawn :=
  ⟨List.replicate 32 1, List.replicate 12 4, List.replicate 12 5, dek_length, wrapNonce_length,
    dataNonce_length⟩

theorem vacant_valid : Tables.Valid ⟨[], [], [], []⟩ := by decide

def vacant : World where
  accounts := ⟨[], .nil, .nil⟩
  issued := []
  limits := []
  database := ⟨⟨[], [], [], []⟩, vacant_valid⟩
  vitals := []

-- A node is registered, moved to another admin page, and its name is asked for again.
def requests : List Request := [
  .create "n1" drawn {
    name := "ams"
    region := "eu"
    endpoint := "https://ams"
    credentials := [("token", .str "t"), ("admin_url", .str "https://ams/admin")] },
  .update "n1" drawn { credentials := some (some [("admin_url", .str "https://new")]) },
  .create "n2" drawn ⟨"ams", "eu", "https://two", .shim, true, true, []⟩]

end Instance

end Fleet.Registry
