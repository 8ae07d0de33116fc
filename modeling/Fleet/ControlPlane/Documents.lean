import Fleet.ControlPlane.ShimResponses
import Fleet.Shared.JsonText

set_option autoImplicit false

namespace Fleet.Documents

open ShimResponses (Value PyException)

/-- What the JSON module of an interpreter rests on: the other codecs, how deep the decoder goes,
and the conversions between texts and floats. -/
structure Interpreter where
  codecs : JsonText.Codecs
  limit : Nat
  parseFloat : List Char → Option (Int × Int)
  floatText : Int × Int → List Char

def hooks (parseFloat : List Char → Option (Int × Int)) : JsonText.Hooks Value where
  null := .null
  bool := .bool
  int := .int
  float text := .float (parseFloat text)
  str := .str
  arr := .arr
  obj := .obj

def failed : JsonText.Failure → PyException
  | .invalid => .valueError
  | .tooDeep => .recursionError

section Code

variable (python : Interpreter)

/-- `json.loads` of a body. -/
def loads (bytes : ByteArray) : Except PyException Value :=
  (JsonText.loads (hooks python.parseFloat) python.codecs python.limit bytes).mapError failed

mutual

-- As JSONResponse encodes it: no blanks, and no escape that is not needed.
def write : Value → List Char
  | .null => "null".toList
  | .bool true => "true".toList
  | .bool false => "false".toList
  | .int value => (toString value).toList
  | .float none => "NaN".toList
  | .float (some value) => python.floatText value
  | .str value => JsonText.writeString JsonText.escapeRaw value
  | .arr items => '[' :: JsonText.tight.join (writeItems items) ++ [']']
  | .obj members =>
      JsonText.openBrace :: JsonText.tight.join ((writeMembers members).map
        (JsonText.writeMember JsonText.escapeRaw JsonText.tight)) ++ [JsonText.closeBrace]

def writeItems : List Value → List (List Char)
  | [] => []
  | item :: rest => write item :: writeItems rest

def writeMembers : List (String × Value) → List (String × List Char)
  | [] => []
  | (key, value) :: rest => (key, write value) :: writeMembers rest

end

def encode (value : Value) : ByteArray := (String.ofList (write python value)).toUTF8

end Code

section Plain

mutual

-- A document without floats.
def ofJson : Json → Value
  | .null => .null
  | .bool value => .bool value
  | .int value => .int value
  | .str value => .str value
  | .arr items => .arr (ofItems items)
  | .obj members => .obj (ofMembers members)

def ofItems : List Json → List Value
  | [] => []
  | item :: rest => ofJson item :: ofItems rest

def ofMembers : List (String × Json) → List (String × Value)
  | [] => []
  | (key, value) :: rest => (key, ofJson value) :: ofMembers rest

end

theorem ofMembers_eq_map (members : List (String × Json)) :
    ofMembers members = members.map fun member => (member.1, ofJson member.2) := by
  induction members with
  | nil => rfl
  | cons member rest ih => rw [ofMembers, ih, List.map_cons]

theorem ofItems_eq_map (items : List Json) : ofItems items = items.map ofJson := by
  induction items with
  | nil => rfl
  | cons item rest ih => rw [ofItems, ih, List.map_cons]

theorem get?_ofMembers (members : List (String × Json)) (key : String) :
    Value.get? (ofMembers members) key = (Json.get? members key).map ofJson := by
  rw [Value.get?, Json.get?, ofMembers_eq_map, ← List.map_reverse, List.find?_map,
    Option.map_map, Option.map_map]
  rfl

variable (parseFloat : List Char → Option (Int × Int))

mutual

theorem fold_hooks : (json : Json) → JsonText.fold (hooks parseFloat) json = ofJson json
  | .null | .bool _ | .int _ | .str _ => rfl
  | .arr items => congrArg Value.arr (foldItems_hooks items)
  | .obj members => congrArg Value.obj (foldMembers_hooks members)

theorem foldItems_hooks :
    (items : List Json) → JsonText.foldItems (hooks parseFloat) items = ofItems items
  | [] => rfl
  | item :: rest => congrArg₂ List.cons (fold_hooks item) (foldItems_hooks rest)

theorem foldMembers_hooks : (members : List (String × Json)) →
    JsonText.foldMembers (hooks parseFloat) members = ofMembers members
  | [] => rfl
  | (key, value) :: rest =>
      congrArg₂ List.cons (congrArg (Prod.mk key) (fold_hooks value)) (foldMembers_hooks rest)

end

variable (python : Interpreter)

mutual

theorem write_ofJson :
    (json : Json) → write python (ofJson json) =
      JsonText.write JsonText.escapeRaw JsonText.tight json
  | .null | .bool true | .bool false | .int _ | .str _ => rfl
  | .arr items => by
      rw [ofJson, write, JsonText.write, writeItems_ofJson items]
  | .obj members => by
      rw [ofJson, write, JsonText.write, writeMembers_ofJson members]
      rfl

theorem writeItems_ofJson :
    (items : List Json) → writeItems python (ofItems items) =
      JsonText.writeItems JsonText.escapeRaw JsonText.tight items
  | [] => rfl
  | item :: rest => congrArg₂ List.cons (write_ofJson item) (writeItems_ofJson rest)

theorem writeMembers_ofJson :
    (members : List (String × Json)) → writeMembers python (ofMembers members) =
      JsonText.writeMembers JsonText.escapeRaw JsonText.tight members
  | [] => rfl
  | (key, value) :: rest =>
      congrArg₂ List.cons (congrArg (Prod.mk key) (write_ofJson value)) (writeMembers_ofJson rest)

end

variable {python} {client : Interpreter} {members : List (String × Json)}

/-- What a server answers is what its client decodes. -/
theorem loads_encode (fits : JsonText.Fits client.limit (.obj members)) :
    loads client (encode python (ofJson (.obj members))) = .ok (ofJson (.obj members)) := by
  rw [loads, encode, write_ofJson,
    JsonText.loads_write JsonText.faithful_escapeRaw JsonText.readable_tight fits]
  exact congrArg (Except.ok ∘ Value.obj) (foldMembers_hooks _ members)

/-- What a client sends is what the handler decodes. -/
theorem loads_dumps (fits : JsonText.Fits python.limit (.obj members)) :
    loads python (Json.dumps .default (.obj members)).toUTF8 = .ok (ofJson (.obj members)) := by
  rw [loads, Json.dumps, JsonText.render_eq_write,
    JsonText.loads_write JsonText.faithful_escapeChar JsonText.readable_default fits]
  exact congrArg (Except.ok ∘ Value.obj) (foldMembers_hooks _ members)

end Plain

end Fleet.Documents
