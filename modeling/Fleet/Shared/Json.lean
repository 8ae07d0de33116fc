import Mathlib.Data.List.Sort
import Mathlib.Data.String.Basic

set_option autoImplicit false

namespace Fleet

-- The values the standard library's serializer accepts, floats apart: no caller passes one.
inductive Json where
  | null
  | bool (value : Bool)
  | int (value : Int)
  | str (value : String)
  | arr (items : List Json)
  | obj (members : List (String × Json))

namespace Json

def ofOption : Option String → Json
  | none => .null
  | some text => .str text

def hexEscape (code : Nat) : List Char :=
  ['\\', 'u', Nat.digitChar (code / 4096 % 16), Nat.digitChar (code / 256 % 16),
    Nat.digitChar (code / 16 % 16), Nat.digitChar (code % 16)]

-- ensure_ascii is on: everything outside the printable ASCII range is escaped, a character past
-- the basic plane as its surrogate pair.
def escapeChar (c : Char) : List Char :=
  if c.toNat = 34 then ['\\', Char.ofNat 34]
  else if c.toNat = 92 then ['\\', '\\']
  else if c.toNat = 10 then ['\\', 'n']
  else if c.toNat = 13 then ['\\', 'r']
  else if c.toNat = 9 then ['\\', 't']
  else if c.toNat = 12 then ['\\', 'f']
  else if c.toNat = 8 then ['\\', 'b']
  else if 32 ≤ c.toNat ∧ c.toNat ≤ 126 then [c]
  else if c.toNat < 0x10000 then hexEscape c.toNat
  else
    hexEscape (0xD800 + (c.toNat - 0x10000) / 0x400) ++
      hexEscape (0xDC00 + (c.toNat - 0x10000) % 0x400)

def renderString (text : String) : List Char :=
  Char.ofNat 34 :: text.toList.flatMap escapeChar ++ [Char.ofNat 34]

-- What a caller passes to the serializer: separators and whether members are sorted by key.
structure Layout where
  itemSeparator : String
  keySeparator : String
  sortKeys : Bool

def Layout.default : Layout := ⟨", ", ": ", false⟩

def Layout.compact : Layout := ⟨",", ":", true⟩

def Layout.arrange (layout : Layout) (members : List (String × List Char)) :
    List (String × List Char) :=
  if layout.sortKeys then members.insertionSort fun a b => a.1 ≤ b.1 else members

def Layout.join (layout : Layout) (items : List (List Char)) : List Char :=
  List.intercalate layout.itemSeparator.toList items

def Layout.member (layout : Layout) (member : String × List Char) : List Char :=
  renderString member.1 ++ layout.keySeparator.toList ++ member.2

mutual

def render (layout : Layout) : Json → List Char
  | .null => "null".toList
  | .bool true => "true".toList
  | .bool false => "false".toList
  | .int value => (toString value).toList
  | .str value => renderString value
  | .arr items => '[' :: layout.join (renderItems layout items) ++ [']']
  | .obj members =>
      Char.ofNat 123 ::
        layout.join ((layout.arrange (renderMembers layout members)).map layout.member) ++
          [Char.ofNat 125]

def renderItems (layout : Layout) : List Json → List (List Char)
  | [] => []
  | item :: rest => render layout item :: renderItems layout rest

def renderMembers (layout : Layout) : List (String × Json) → List (String × List Char)
  | [] => []
  | (key, value) :: rest => (key, render layout value) :: renderMembers layout rest

end

/-- `json.dumps(value)` in the given layout. -/
def dumps (layout : Layout) (value : Json) : String := String.ofList (value.render layout)

-- Truth value of a decoded member, as `creds.get(..)` and `if not ..` read it.
def truthy : Json → Bool
  | .null => false
  | .bool value => value
  | .int value => value ≠ 0
  | .str value => value ≠ ""
  | .arr items => !items.isEmpty
  | .obj members => !members.isEmpty

/-- `dict.get` on a decoded object: the last member of that name. -/
def get? (members : List (String × Json)) (key : String) : Option Json :=
  (members.reverse.find? fun member => member.1 == key).map (·.2)

example : dumps .compact (.obj [("b", .int (-3)), ("a", .arr [.bool true, .null])]) =
    "\x7b\"a\":[true,null],\"b\":-3\x7d" := by decide +kernel

example : dumps .default (.obj [("name", .str "carol"), ("email", .null)]) =
    "\x7b\"name\": \"carol\", \"email\": null\x7d" := by decide +kernel

example : dumps .compact (.str "é\n\"😀") = "\"\\u00e9\\n\\\"\\ud83d\\ude00\"" := by decide +kernel

end Json

end Fleet
