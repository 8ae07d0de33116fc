import Fleet.Shared.JsonStrings
import Mathlib.Data.List.TakeWhile

set_option autoImplicit false

namespace Fleet.JsonText

universe u

def quote : Char := Char.ofNat 34

def openBrace : Char := Char.ofNat 123

def closeBrace : Char := Char.ofNat 125

/-- What a caller of the decoder makes of each kind of document; numbers with a fraction or an
exponent, and the three named ones, are handed over as they are written. -/
structure Hooks (Doc : Type u) where
  null : Doc
  bool : Bool → Doc
  int : Int → Doc
  float : List Char → Doc
  str : String → Doc
  arr : List Doc → Doc
  obj : List (String × Doc) → Doc

inductive Failure where
  | invalid
  | tooDeep
  deriving DecidableEq

abbrev Reading (α : Type u) := Except Failure (α × List Char)

def isBlank (c : Char) : Bool := c = ' ' || c = '\t' || c = '\n' || c = '\r'

def skip (text : List Char) : List Char := text.dropWhile isBlank

section Strings

def hexDigit (c : Char) : Option Nat :=
  if 48 ≤ c.toNat ∧ c.toNat ≤ 57 then some (c.toNat - 48)
  else if 97 ≤ c.toNat ∧ c.toNat ≤ 102 then some (c.toNat - 87)
  else if 65 ≤ c.toNat ∧ c.toNat ≤ 70 then some (c.toNat - 55)
  else none

def readHex : List Char → Option (Nat × List Char)
  | a :: b :: c :: d :: rest =>
      (hexDigit a).bind fun a => (hexDigit b).bind fun b => (hexDigit c).bind fun c =>
        (hexDigit d).map fun d => (((a * 16 + b) * 16 + c) * 16 + d, rest)
  | _ => none

-- The second half of a surrogate pair.
def readLow : List Char → Option (Nat × List Char)
  | '\\' :: 'u' :: rest =>
      (readHex rest).filter fun low => 0xDC00 ≤ low.1 && low.1 < 0xE000
  | _ => none

-- `Char.ofNat` turns a half without its other half, which no text holds here, into the null
-- character.
def readUnicode (text : List Char) : Option (Char × List Char) :=
  (readHex text).map fun (code, rest) =>
    if 0xD800 ≤ code ∧ code < 0xDC00 then
      match readLow rest with
      | some (low, rest) =>
          (Char.ofNat (0x10000 + (code - 0xD800) * 0x400 + (low - 0xDC00)), rest)
      | none => (Char.ofNat code, rest)
    else (Char.ofNat code, rest)

def unescape (c : Char) : Option Char :=
  if c = quote then some quote
  else if c = '\\' then some '\\'
  else if c = '/' then some '/'
  else if c = 'b' then some (Char.ofNat 8)
  else if c = 'f' then some (Char.ofNat 12)
  else if c = 'n' then some (Char.ofNat 10)
  else if c = 'r' then some (Char.ofNat 13)
  else if c = 't' then some (Char.ofNat 9)
  else none

-- One character of a string; control characters must be escaped.
def readChar : List Char → Option (Char × List Char)
  | [] => none
  | '\\' :: 'u' :: rest => readUnicode rest
  | ['\\'] => none
  | '\\' :: c :: rest => (unescape c).map fun c => (c, rest)
  | c :: rest => if c.toNat < 32 then none else some (c, rest)

def readChars : Nat → List Char → Option (List Char × List Char)
  | 0, _ => none
  | fuel + 1, text =>
      if text.head? = some quote then some ([], text.tail)
      else
        (readChar text).bind fun (c, rest) =>
          (readChars fuel rest).map fun (chars, rest) => (c :: chars, rest)

-- What follows the opening quote.
def readString (text : List Char) : Reading String :=
  match readChars (text.length + 1) text with
  | some (chars, rest) => .ok (String.ofList chars, rest)
  | none => .error .invalid

end Strings

section Numbers

def readDigits (text : List Char) : List Char × List Char :=
  (text.takeWhile Char.isDigit, text.dropWhile Char.isDigit)

-- No digit may follow a leading zero.
def readWhole (text : List Char) : Option (List Char × List Char) :=
  match text with
  | '0' :: rest => some (['0'], rest)
  | c :: _ => if c.isDigit then some (readDigits text) else none
  | [] => none

-- A point or an exponent counts only if digits follow it.
def readFraction : List Char → List Char × List Char
  | '.' :: rest =>
      match readDigits rest with
      | ([], _) => ([], '.' :: rest)
      | (digits, rest) => ('.' :: digits, rest)
  | text => ([], text)

def readSign : List Char → List Char × List Char
  | '+' :: rest => (['+'], rest)
  | '-' :: rest => (['-'], rest)
  | text => ([], text)

def readExponent : List Char → List Char × List Char
  | [] => ([], [])
  | mark :: rest =>
      if mark = 'e' ∨ mark = 'E' then
        match readDigits (readSign rest).2 with
        | ([], _) => ([], mark :: rest)
        | (digits, after) => (mark :: (readSign rest).1 ++ digits, after)
      else ([], mark :: rest)

def natural (digits : List Char) : Nat := Nat.ofDigitChars 10 digits 0

variable {Doc : Type u} (hooks : Hooks Doc)

-- The interpreter refuses to convert an integer of too many digits.
def number (negative : Bool) (digits fraction exponent : List Char) : Option Doc :=
  if fraction = [] ∧ exponent = [] then
    if digits.length ≤ 4300 then
      some (hooks.int (if negative then -(natural digits : Int) else natural digits))
    else none
  else
    some (hooks.float ((if negative then ['-'] else []) ++ digits ++ fraction ++ exponent))

def readUnsigned (negative : Bool) (text : List Char) : Reading Doc :=
  match readWhole text with
  | none => .error .invalid
  | some (digits, rest) =>
      let (fraction, rest) := readFraction rest
      let (exponent, rest) := readExponent rest
      match number hooks negative digits fraction exponent with
      | some doc => .ok (doc, rest)
      | none => .error .invalid

def readNumber (text : List Char) : Reading Doc :=
  match text with
  | '-' :: rest => readUnsigned hooks true rest
  | text => readUnsigned hooks false text

-- The names the decoder knows, each with what it stands for.
def names : List (List Char × Doc) := [
  ("null".toList, hooks.null), ("true".toList, hooks.bool true), ("false".toList, hooks.bool false),
  ("NaN".toList, hooks.float "NaN".toList), ("Infinity".toList, hooks.float "Infinity".toList),
  ("-Infinity".toList, hooks.float "-Infinity".toList)]

def readScalar (text : List Char) : Reading Doc :=
  match (names hooks).find? fun entry => entry.1.isPrefixOf text with
  | some (name, doc) => .ok (doc, text.drop name.length)
  | none => readNumber hooks text

end Numbers

section Documents

variable {Doc : Type u} (hooks : Hooks Doc)

mutual

/-- Reads one document off the front of a text. The first number is how many objects and arrays may
still be opened inside each other. -/
def scan : Nat → Nat → List Char → Reading Doc
  | _, 0, _ => .error .invalid
  | _, _ + 1, [] => .error .invalid
  | depth, fuel + 1, c :: rest =>
      if c = quote then (readString rest).map fun (text, rest) => (hooks.str text, rest)
      else if c = '[' then
        match depth with
        | 0 => .error .tooDeep
        | depth + 1 =>
            if (skip rest).head? = some ']' then .ok (hooks.arr [], (skip rest).tail)
            else
              (scanItems depth fuel (skip rest)).map fun (items, rest) => (hooks.arr items, rest)
      else if c = openBrace then
        match depth with
        | 0 => .error .tooDeep
        | depth + 1 =>
            if (skip rest).head? = some closeBrace then .ok (hooks.obj [], (skip rest).tail)
            else
              (scanMembers depth fuel (skip rest)).map fun (members, rest) =>
                (hooks.obj members, rest)
      else readScalar hooks (c :: rest)

def scanItems : Nat → Nat → List Char → Reading (List Doc)
  | _, 0, _ => .error .invalid
  | depth, fuel + 1, text =>
      match scan depth fuel text with
      | .error failure => .error failure
      | .ok (item, rest) =>
          match skip rest with
          | ',' :: rest =>
              (scanItems depth fuel (skip rest)).map fun (items, rest) => (item :: items, rest)
          | ']' :: rest => .ok ([item], rest)
          | _ => .error .invalid

def scanMembers : Nat → Nat → List Char → Reading (List (String × Doc))
  | _, 0, _ => .error .invalid
  | depth, fuel + 1, text =>
      if text.head? = some quote then
        match readString text.tail with
        | .error failure => .error failure
        | .ok (key, rest) =>
            match skip rest with
            | ':' :: rest =>
                match scan depth fuel (skip rest) with
                | .error failure => .error failure
                | .ok (value, rest) =>
                    match skip rest with
                    | [] => .error .invalid
                    | c :: rest =>
                        if c = ',' then
                          (scanMembers depth fuel (skip rest)).map fun (members, rest) =>
                            ((key, value) :: members, rest)
                        else if c = closeBrace then .ok ([(key, value)], rest)
                        else .error .invalid
            | _ => .error .invalid
      else .error .invalid

end

/-- `json.loads` of a text, which must hold one document and nothing but blanks around it. -/
def decode (limit : Nat) (text : List Char) : Except Failure Doc :=
  match scan hooks limit (2 * text.length + 1) (skip text) with
  | .error failure => .error failure
  | .ok (doc, rest) => if skip rest = [] then .ok doc else .error .invalid

end Documents

section Writing

variable {Doc : Type u} (hooks : Hooks Doc) (escape : Char → List Char) (layout : Json.Layout)

def writeString (text : String) : List Char := quote :: text.toList.flatMap escape ++ [quote]

def writeMember (member : String × List Char) : List Char :=
  writeString escape member.1 ++ layout.keySeparator.toList ++ member.2

mutual

-- The serializer with its way to escape a character as a parameter.
def write : Json → List Char
  | .null => "null".toList
  | .bool true => "true".toList
  | .bool false => "false".toList
  | .int value => (toString value).toList
  | .str value => writeString escape value
  | .arr items => '[' :: layout.join (writeItems items) ++ [']']
  | .obj members =>
      openBrace :: layout.join ((layout.arrange (writeMembers members)).map
        (writeMember escape layout)) ++ [closeBrace]

def writeItems : List Json → List (List Char)
  | [] => []
  | item :: rest => write item :: writeItems rest

def writeMembers : List (String × Json) → List (String × List Char)
  | [] => []
  | (key, value) :: rest => (key, write value) :: writeMembers rest

end

mutual

-- What the decoder is to make of a document.
def fold : Json → Doc
  | .null => hooks.null
  | .bool value => hooks.bool value
  | .int value => hooks.int value
  | .str value => hooks.str value
  | .arr items => hooks.arr (foldItems items)
  | .obj members => hooks.obj (foldMembers members)

def foldItems : List Json → List Doc
  | [] => []
  | item :: rest => fold item :: foldItems rest

def foldMembers : List (String × Json) → List (String × Doc)
  | [] => []
  | (key, value) :: rest => (key, fold value) :: foldMembers rest

end

mutual

/-- Its objects and arrays go no deeper than so many levels, and the interpreter converts its
integers to text and back. -/
def Fits : Nat → Json → Prop
  | _, .int value => (Nat.toDigits 10 value.natAbs).length ≤ 4300
  | depth + 1, .arr items => FitsItems depth items
  | depth + 1, .obj members => FitsMembers depth members
  | 0, .arr _ | 0, .obj _ => False
  | _, _ => True

def FitsItems : Nat → List Json → Prop
  | _, [] => True
  | depth, item :: rest => Fits depth item ∧ FitsItems depth rest

def FitsMembers : Nat → List (String × Json) → Prop
  | _, [] => True
  | depth, (_, value) :: rest => Fits depth value ∧ FitsMembers depth rest

end

-- A separator is its mark with blanks after it, and members are left in their order.
structure Readable : Prop where
  unsorted : layout.sortKeys = false
  items : ∃ blanks, layout.itemSeparator.toList = ',' :: blanks ∧ ∀ c ∈ blanks, isBlank c = true
  keys : ∃ blanks, layout.keySeparator.toList = ':' :: blanks ∧ ∀ c ∈ blanks, isBlank c = true

/-- The decoder reads back what the escape writes, and takes it for no closing quote. -/
structure Faithful : Prop where
  reads : ∀ c rest, readChar (escape c ++ rest) = some (c, rest)
  opens : ∀ c, ∃ first others, escape c = first :: others ∧ first ≠ quote

end Writing

section Blanks

theorem skip_blanks {blanks : List Char} (blank : ∀ c ∈ blanks, isBlank c = true)
    (rest : List Char) : skip (blanks ++ rest) = skip rest := by
  induction blanks with
  | nil => rfl
  | cons c blanks ih =>
      rw [List.forall_mem_cons] at blank
      rw [List.cons_append, skip, List.dropWhile_cons_of_pos blank.1]
      exact ih blank.2

theorem skip_cons {c : Char} (visible : isBlank c = false) (rest : List Char) :
    skip (c :: rest) = c :: rest := by
  rw [skip, List.dropWhile_cons_of_neg (by simp [visible])]

end Blanks

section Strings

variable {escape : Char → List Char}

theorem readChars_write (faithful : Faithful escape) (chars rest : List Char) (fuel : Nat)
    (enough : (chars.flatMap escape ++ quote :: rest).length < fuel) :
    readChars fuel (chars.flatMap escape ++ quote :: rest) = some (chars, rest) := by
  induction chars generalizing fuel with
  | nil =>
      cases fuel with
      | zero => cases enough
      | succ fuel => simp [readChars]
  | cons c chars ih =>
      obtain ⟨first, others, shape, open_⟩ := faithful.opens c
      cases fuel with
      | zero => cases enough
      | succ fuel =>
          have fewer : (chars.flatMap escape ++ quote :: rest).length < fuel := by
            simp only [List.flatMap_cons, shape, List.length_append, List.length_cons] at enough ⊢
            omega
          have head : (escape c ++ (chars.flatMap escape ++ quote :: rest)).head? ≠ some quote := by
            simp [shape, open_]
          rw [List.flatMap_cons, List.append_assoc, readChars, if_neg head, faithful.reads]
          simp only [Option.bind_some, ih fuel fewer, Option.map_some]

theorem readString_write (faithful : Faithful escape) (text : String) (rest : List Char) :
    readString (text.toList.flatMap escape ++ quote :: rest) = .ok (text, rest) := by
  rw [readString, readChars_write faithful _ _ _ (Nat.lt_succ_self _)]
  simp

end Strings

section Numbers

/-- Nothing that could go on a number that ends here. -/
def Stops (rest : List Char) : Prop :=
  ∀ c ∈ rest.head?, c.isDigit = false ∧ c ≠ '.' ∧ c ≠ 'e' ∧ c ≠ 'E'

theorem stops_nil : Stops [] := by
  intro c present
  cases present

theorem stops_cons {c : Char} {rest : List Char}
    (other : c.isDigit = false ∧ c ≠ '.' ∧ c ≠ 'e' ∧ c ≠ 'E') : Stops (c :: rest) := by
  intro first present
  obtain rfl := Option.some.inj present
  exact other

theorem readDigits_append {digits rest : List Char} (decimal : ∀ c ∈ digits, c.isDigit = true)
    (stops : Stops rest) : readDigits (digits ++ rest) = (digits, rest) := by
  have none : rest.takeWhile Char.isDigit = [] ∧ rest.dropWhile Char.isDigit = rest := by
    cases rest with
    | nil => exact ⟨rfl, rfl⟩
    | cons c rest =>
        have other := (stops c rfl).1
        exact ⟨List.takeWhile_cons_of_neg (by simp [other]),
          List.dropWhile_cons_of_neg (by simp [other])⟩
  rw [readDigits, List.takeWhile_append_of_pos decimal, List.dropWhile_append_of_pos decimal,
    none.1, none.2, List.append_nil]

theorem readFraction_stops {rest : List Char} (stops : Stops rest) :
    readFraction rest = ([], rest) := by
  unfold readFraction
  split
  next others => exact absurd rfl (stops '.' rfl).2.1
  next => rfl

theorem readExponent_stops {rest : List Char} (stops : Stops rest) :
    readExponent rest = ([], rest) := by
  cases rest with
  | nil => rfl
  | cons c rest =>
      obtain ⟨-, -, small, capital⟩ := stops c rfl
      simp [readExponent, small, capital]

variable {Doc : Type u} {hooks : Hooks Doc}

theorem decimal_toDigits (n : Nat) : ∀ c ∈ Nat.toDigits 10 n, c.isDigit = true :=
  fun _ member => Nat.isDigit_of_mem_toDigits (by decide) (by decide) member

theorem toDigits_lead {n : Nat} (positive : 0 < n) :
    ∃ c rest, Nat.toDigits 10 n = c :: rest ∧ c ≠ '0' := by
  induction n using Nat.strong_induction_on with
  | _ n ih =>
      rw [Nat.toDigits_eq_if (by decide)]
      split
      next small =>
        refine ⟨_, _, rfl, ?_⟩
        interval_cases n <;> decide
      next large =>
        obtain ⟨c, rest, shape, nonzero⟩ := ih (n / 10) (by omega) (by omega)
        exact ⟨c, _, by rw [shape, List.cons_append], nonzero⟩

theorem readWhole_toDigits (n : Nat) {rest : List Char} (stops : Stops rest) :
    readWhole (Nat.toDigits 10 n ++ rest) = some (Nat.toDigits 10 n, rest) := by
  rcases Nat.eq_zero_or_pos n with rfl | positive
  · rfl
  · obtain ⟨c, others, shape, nonzero⟩ := toDigits_lead positive
    have digits := readDigits_append (decimal_toDigits n) stops
    have digit : c.isDigit = true := decimal_toDigits n c (by simp [shape])
    rw [shape] at digits ⊢
    rw [List.cons_append] at digits ⊢
    unfold readWhole
    split
    next zero => exact absurd (List.cons.inj zero).1 nonzero
    next first _ _ same =>
      obtain ⟨rfl, rfl⟩ := List.cons.inj same
      rw [if_pos digit, digits]
    next none => cases none

theorem readUnsigned_write (negative : Bool) (n : Nat) {rest : List Char} (stops : Stops rest)
    (short : (Nat.toDigits 10 n).length ≤ 4300) :
    readUnsigned hooks negative (Nat.toDigits 10 n ++ rest) =
      .ok (hooks.int (if negative then -(n : Int) else n), rest) := by
  simp only [readUnsigned, readWhole_toDigits n stops, readFraction_stops stops,
    readExponent_stops stops, number, and_self, if_true, short, natural,
    Nat.ofDigitChars_ten_toDigits]

theorem ne_of_digit {c letter : Char} (digit : c.isDigit = true) (plain : letter.isDigit = false) :
    c ≠ letter := by
  rintro rfl
  rw [plain] at digit
  cases digit

-- A number is none of the names, signed or not.
theorem readScalar_digit {c : Char} (digit : c.isDigit = true) (rest : List Char) :
    readScalar hooks (c :: rest) = readUnsigned hooks false (c :: rest) ∧
      readScalar hooks ('-' :: c :: rest) = readUnsigned hooks true (c :: rest) := by
  have other (letter : Char) (plain : letter.isDigit = false) : (letter == c) = false :=
    beq_eq_false_iff_ne.2 (ne_of_digit digit plain).symm
  have unsigned : readNumber hooks (c :: rest) = readUnsigned hooks false (c :: rest) := by
    unfold readNumber
    split
    next signed =>
      rw [(List.cons.inj signed).1] at digit
      cases digit
    next => rfl
  constructor
  · simp [readScalar, names, List.isPrefixOf, other, unsigned]
  · simp [readScalar, names, List.isPrefixOf, other, readNumber]

theorem toList_toString (value : Int) :
    (toString value).toList =
      (if value < 0 then ['-'] else []) ++ Nat.toDigits 10 value.natAbs := by
  cases value with
  | ofNat n => exact Nat.toList_repr
  | negSucc n =>
      rw [Int.toString_eq_repr, Int.repr_eq_if]
      simp

theorem toString_opens (value : Int) :
    ∃ c others, (toString value).toList = c :: others ∧ (c = '-' ∨ c.isDigit = true) := by
  obtain ⟨c, others, shape⟩ := List.exists_cons_of_ne_nil
    (@Nat.toDigits_ne_nil value.natAbs 10)
  rw [toList_toString, shape]
  split
  · exact ⟨_, _, rfl, .inl rfl⟩
  · exact ⟨c, others, rfl, .inr (decimal_toDigits value.natAbs c (by simp [shape]))⟩

theorem readScalar_int (value : Int) {rest : List Char} (stops : Stops rest)
    (short : (Nat.toDigits 10 value.natAbs).length ≤ 4300) :
    readScalar hooks ((toString value).toList ++ rest) = .ok (hooks.int value, rest) := by
  obtain ⟨c, others, shape⟩ := List.exists_cons_of_ne_nil
    (@Nat.toDigits_ne_nil value.natAbs 10)
  have digit : c.isDigit = true := decimal_toDigits value.natAbs c (by simp [shape])
  have read (negative : Bool) := @readUnsigned_write Doc hooks negative value.natAbs rest stops short
  rw [shape, List.cons_append] at read
  rw [toList_toString, shape]
  by_cases negative : value < 0
  · rw [if_pos negative, List.singleton_append, List.cons_append, List.cons_append,
      (readScalar_digit digit _).2, read true, if_pos rfl]
    have signed : -(value.natAbs : Int) = value := by omega
    rw [signed]
  · rw [if_neg negative, List.nil_append, List.cons_append, (readScalar_digit digit _).1,
      read false, if_neg Bool.false_ne_true]
    have unsigned : (value.natAbs : Int) = value := by omega
    rw [unsigned]

end Numbers

section RoundTrip

variable {Doc : Type u} {hooks : Hooks Doc} {escape : Char → List Char} {layout : Json.Layout}

theorem readScalar_name {name : List Char} {doc : Doc}
    (known : (name, doc) ∈ [("null".toList, hooks.null), ("true".toList, hooks.bool true),
      ("false".toList, hooks.bool false)]) (rest : List Char) :
    readScalar hooks (name ++ rest) = .ok (doc, rest) := by
  simp only [List.mem_cons, Prod.mk.injEq, List.not_mem_nil, or_false] at known
  rcases known with ⟨rfl, rfl⟩ | ⟨rfl, rfl⟩ | ⟨rfl, rfl⟩ <;>
    simp [readScalar, names, List.isPrefixOf]

-- A document starts with something to be seen that closes no array.
theorem write_opens (json : Json) :
    ∃ c rest, write escape layout json = c :: rest ∧ isBlank c = false ∧ c ≠ ']' := by
  cases json with
  | null => exact ⟨_, _, rfl, rfl, by decide⟩
  | bool value => cases value <;> exact ⟨_, _, rfl, rfl, by decide⟩
  | int value =>
      obtain ⟨c, others, shape, sign | digit⟩ := toString_opens value
      · exact ⟨c, others, shape, by simp [sign, isBlank]⟩
      · refine ⟨c, others, shape, ?_, ne_of_digit digit rfl⟩
        simp [isBlank, ne_of_digit digit]
  | str value => exact ⟨_, _, rfl, rfl, by decide⟩
  | arr items => exact ⟨_, _, rfl, rfl, by decide⟩
  | obj members => exact ⟨_, _, rfl, rfl, by decide⟩

theorem mark_stops {c : Char} (mark : c ∈ [',', ']', closeBrace]) (rest : List Char) :
    Stops (c :: rest) := by
  apply stops_cons
  simp only [List.mem_cons, List.not_mem_nil, or_false] at mark
  rcases mark with rfl | rfl | rfl <;> decide

variable (hooks escape layout)

/-- In front of anything a number stops at, the decoder reads the document off and leaves the rest,
given two units of fuel a character. -/
def ReadBack (json : Json) : Prop :=
  ∀ depth fuel rest, Fits depth json → Stops rest →
    2 * (write escape layout json ++ rest).length < fuel →
      scan hooks depth fuel (write escape layout json ++ rest) = .ok (fold hooks json, rest)

variable {hooks escape layout}

theorem readBack_scalar {json : Json}
    (plain : ∃ c others, write escape layout json = c :: others ∧
      c ≠ quote ∧ c ≠ '[' ∧ c ≠ openBrace)
    (reads : ∀ depth rest, Fits depth json → Stops rest →
      readScalar hooks (write escape layout json ++ rest) = .ok (fold hooks json, rest)) :
    ReadBack hooks escape layout json := by
  intro depth fuel rest fits stops enough
  obtain ⟨c, others, shape, notQuote, notBracket, notBrace⟩ := plain
  have read := reads depth rest fits stops
  cases fuel with
  | zero => cases enough
  | succ fuel =>
      rw [shape, List.cons_append] at read ⊢
      simp only [scan.eq_def, notQuote, notBracket, notBrace, if_false, read]

theorem readBack_str (faithful : Faithful escape) (text : String) :
    ReadBack hooks escape layout (.str text) := by
  intro depth fuel rest _ _ enough
  cases fuel with
  | zero => cases enough
  | succ fuel =>
      have read := readString_write faithful text rest
      simp [write, writeString, scan, read, Except.map, fold]

section Lists

variable (readable : Readable layout)

include readable

theorem join_cons_cons (first second : List Char) (others : List (List Char)) :
    ∃ blanks, (∀ c ∈ blanks, isBlank c = true) ∧ layout.join (first :: second :: others) =
      first ++ ',' :: (blanks ++ layout.join (second :: others)) := by
  obtain ⟨blanks, shape, blank⟩ := readable.items
  refine ⟨blanks, blank, ?_⟩
  rw [Json.Layout.join, Json.Layout.join, List.intercalate_cons_cons, shape]
  simp

omit readable in
theorem join_opens (item : Json) (items : List Json) :
    ∃ c others, layout.join (writeItems escape layout (item :: items)) = c :: others ∧
      isBlank c = false ∧ c ≠ ']' := by
  obtain ⟨c, others, shape, visible, open_⟩ := @write_opens escape layout item
  cases items with
  | nil => exact ⟨c, others, by simpa [writeItems, Json.Layout.join] using shape, visible, open_⟩
  | cons next items =>
      refine ⟨c, others ++ (layout.itemSeparator.toList ++
        layout.join (writeItems escape layout (next :: items))), ?_, visible, open_⟩
      simp [writeItems, Json.Layout.join, List.intercalate_cons_cons, shape]

theorem scanItems_write (item : Json) (items : List Json)
    (each : ∀ json ∈ item :: items, ReadBack hooks escape layout json) (depth fuel : Nat)
    (rest : List Char) (fits : FitsItems depth (item :: items))
    (enough : 2 * (layout.join (writeItems escape layout (item :: items)) ++ ']' :: rest).length + 1 <
      fuel) :
    scanItems hooks depth fuel
        (layout.join (writeItems escape layout (item :: items)) ++ ']' :: rest) =
      .ok (foldItems hooks (item :: items), rest) := by
  induction items generalizing item fuel with
  | nil =>
      cases fuel with
      | zero => cases enough
      | succ fuel =>
          have read := each item (by simp) depth fuel (']' :: rest) fits.1
            (mark_stops (by simp) rest) (by simpa [writeItems, Json.Layout.join] using enough)
          have closed : skip (']' :: rest) = ']' :: rest := skip_cons rfl rest
          simp [scanItems, writeItems, Json.Layout.join, read, closed, foldItems]
  | cons next items ih =>
      cases fuel with
      | zero => cases enough
      | succ fuel =>
          obtain ⟨blanks, blank, joined⟩ := join_cons_cons readable (write escape layout item)
            (write escape layout next) (writeItems escape layout items)
          obtain ⟨c, others, opens, visible, -⟩ := @join_opens escape layout next items
          have split : layout.join (writeItems escape layout (item :: next :: items)) ++ ']' :: rest =
              write escape layout item ++ ',' :: (blanks ++
                (layout.join (writeItems escape layout (next :: items)) ++ ']' :: rest)) := by
            simp only [writeItems, joined, List.append_assoc, List.cons_append]
          rw [split] at enough ⊢
          simp only [List.length_append, List.length_cons] at enough
          have read := each item (by simp) depth fuel _ fits.1 (@mark_stops ',' (by simp) (blanks ++
            (layout.join (writeItems escape layout (next :: items)) ++ ']' :: rest)))
            (by simp only [List.length_append, List.length_cons]; omega)
          have comma : ∀ text, skip (',' :: text) = ',' :: text := skip_cons rfl
          have start : skip (blanks ++
              (layout.join (writeItems escape layout (next :: items)) ++ ']' :: rest)) =
                layout.join (writeItems escape layout (next :: items)) ++ ']' :: rest := by
            rw [skip_blanks blank, opens, List.cons_append, skip_cons visible]
          have later := ih next (fun json member => each json (List.mem_cons_of_mem _ member)) fuel
            fits.2 (by simp only [List.length_append, List.length_cons]; omega)
          simp only [scanItems, read, comma, start, later, Except.map, foldItems]

variable (escape layout) in
omit readable in
def pieces (members : List (String × Json)) : List (List Char) :=
  (writeMembers escape layout members).map (writeMember escape layout)

theorem write_obj (members : List (String × Json)) :
    write escape layout (.obj members) =
      openBrace :: (layout.join (pieces escape layout members) ++ [closeBrace]) := by
  simp [write, Json.Layout.arrange, readable.unsorted, pieces]

theorem writeMember_append (key : String) (value rest : List Char) :
    ∃ blanks, (∀ c ∈ blanks, isBlank c = true) ∧ writeMember escape layout (key, value) ++ rest =
      quote :: (key.toList.flatMap escape ++ quote :: ':' :: (blanks ++ (value ++ rest))) := by
  obtain ⟨blanks, shape, blank⟩ := readable.keys
  refine ⟨blanks, blank, ?_⟩
  simp [writeMember, writeString, shape]

omit readable in
theorem pieces_open (member : String × Json) (members : List (String × Json)) :
    ∃ others, layout.join (pieces escape layout (member :: members)) = quote :: others := by
  cases members <;>
    simp [pieces, writeMembers, writeMember, writeString, Json.Layout.join,
      List.intercalate_cons_cons]

-- One member up to what follows its value.
theorem scanMembers_piece (faithful : Faithful escape) {key : String} {value : Json}
    (reads : ReadBack hooks escape layout value) {depth fuel : Nat} {rest : List Char} {c : Char}
    (fits : Fits depth value) (mark : c ∈ [',', ']', closeBrace])
    (enough : 2 * (writeMember escape layout (key, write escape layout value) ++ c :: rest).length + 1 <
      fuel + 1) :
    scanMembers hooks depth (fuel + 1)
        (writeMember escape layout (key, write escape layout value) ++ c :: rest) =
      if c = ',' then
        (scanMembers hooks depth fuel (skip rest)).map fun (members, rest) =>
          ((key, fold hooks value) :: members, rest)
      else if c = closeBrace then .ok ([(key, fold hooks value)], rest)
      else .error .invalid := by
  obtain ⟨blanks, blank, shape⟩ := writeMember_append readable key (write escape layout value) (c :: rest)
  obtain ⟨first, others, opens, visible, -⟩ := @write_opens escape layout value
  rw [shape] at enough ⊢
  simp only [List.length_append, List.length_cons] at enough
  have named := readString_write faithful key (':' :: (blanks ++ (write escape layout value ++ c :: rest)))
  have colon : ∀ text, skip (':' :: text) = ':' :: text := skip_cons rfl
  have start : skip (blanks ++ (write escape layout value ++ c :: rest)) =
      write escape layout value ++ c :: rest := by
    rw [skip_blanks blank, opens, List.cons_append, skip_cons visible]
  have read := reads depth fuel (c :: rest) fits (mark_stops mark rest)
    (by simp only [List.length_append, List.length_cons]; omega)
  have closed : skip (c :: rest) = c :: rest := by
    apply skip_cons
    simp only [List.mem_cons, List.not_mem_nil, or_false] at mark
    rcases mark with rfl | rfl | rfl <;> rfl
  simp only [scanMembers, List.head?_cons, if_true, List.tail_cons, named, colon, start, read, closed]

theorem scanMembers_write (faithful : Faithful escape) (member : String × Json)
    (members : List (String × Json))
    (each : ∀ entry ∈ member :: members, ReadBack hooks escape layout entry.2) (depth fuel : Nat)
    (rest : List Char) (fits : FitsMembers depth (member :: members))
    (enough : 2 * (layout.join (pieces escape layout (member :: members)) ++ closeBrace :: rest).length +
      1 < fuel) :
    scanMembers hooks depth fuel
        (layout.join (pieces escape layout (member :: members)) ++ closeBrace :: rest) =
      .ok (foldMembers hooks (member :: members), rest) := by
  induction members generalizing member fuel with
  | nil =>
      cases fuel with
      | zero => cases enough
      | succ fuel =>
          obtain ⟨key, value⟩ := member
          have single : layout.join (pieces escape layout [(key, value)]) =
              writeMember escape layout (key, write escape layout value) := by
            simp [pieces, writeMembers, Json.Layout.join]
          have reads : ReadBack hooks escape layout value := each (key, value) (by simp)
          have mark : closeBrace ∈ [',', ']', closeBrace] := by simp
          rw [single] at enough ⊢
          rw [scanMembers_piece readable faithful reads fits.1 mark enough]
          simp [closeBrace, foldMembers]
  | cons next members ih =>
      cases fuel with
      | zero => cases enough
      | succ fuel =>
          obtain ⟨key, value⟩ := member
          obtain ⟨blanks, blank, joined⟩ := join_cons_cons readable
            (writeMember escape layout (key, write escape layout value))
            (writeMember escape layout (next.1, write escape layout next.2))
            (pieces escape layout members)
          obtain ⟨others, opens⟩ := @pieces_open escape layout next members
          have split : layout.join (pieces escape layout ((key, value) :: next :: members)) ++
                closeBrace :: rest =
              writeMember escape layout (key, write escape layout value) ++ ',' :: (blanks ++
                (layout.join (pieces escape layout (next :: members)) ++ closeBrace :: rest)) := by
            have shape : layout.join (pieces escape layout ((key, value) :: next :: members)) = _ :=
              joined
            simp only [shape, List.append_assoc, List.cons_append]
            rfl
          have reads : ReadBack hooks escape layout value := each (key, value) (by simp)
          have mark : ',' ∈ [',', ']', closeBrace] := by simp
          rw [split] at enough ⊢
          rw [scanMembers_piece readable faithful reads fits.1 mark enough]
          simp only [List.length_append, List.length_cons] at enough
          have start : skip (blanks ++
              (layout.join (pieces escape layout (next :: members)) ++ closeBrace :: rest)) =
                layout.join (pieces escape layout (next :: members)) ++ closeBrace :: rest := by
            rw [skip_blanks blank, opens, List.cons_append, skip_cons rfl]
          have later := ih next (fun entry member => each entry (List.mem_cons_of_mem _ member)) fuel
            fits.2 (by simp only [List.length_append, List.length_cons]; omega)
          simp only [if_true, start, later, Except.map, foldMembers]

theorem readBack_arr {items : List Json}
    (each : ∀ json ∈ items, ReadBack hooks escape layout json) :
    ReadBack hooks escape layout (.arr items) := by
  intro depth fuel rest fits _ enough
  cases fuel with
  | zero => cases enough
  | succ fuel =>
      cases depth with
      | zero => cases fits
      | succ depth =>
          cases items with
          | nil =>
              have closed : skip (']' :: rest) = ']' :: rest := skip_cons rfl rest
              simp [write, writeItems, Json.Layout.join, scan, quote, closed, fold, foldItems]
          | cons item items =>
              obtain ⟨c, others, opens, visible, other⟩ := @join_opens escape layout item items
              have text : write escape layout (.arr (item :: items)) ++ rest =
                  '[' :: (layout.join (writeItems escape layout (item :: items)) ++ ']' :: rest) := by
                simp [write]
              rw [text] at enough ⊢
              rw [List.length_cons] at enough
              have inside := scanItems_write readable item items each depth fuel rest fits (by omega)
              rw [opens, List.cons_append] at inside ⊢
              have start : skip (c :: (others ++ ']' :: rest)) = c :: (others ++ ']' :: rest) :=
                skip_cons visible _
              simp only [scan, start, inside]
              simp [quote, other, Except.map, fold]

theorem readBack_obj (faithful : Faithful escape) {members : List (String × Json)}
    (each : ∀ entry ∈ members, ReadBack hooks escape layout entry.2) :
    ReadBack hooks escape layout (.obj members) := by
  intro depth fuel rest fits _ enough
  cases fuel with
  | zero => cases enough
  | succ fuel =>
      cases depth with
      | zero => cases fits
      | succ depth =>
          have text : write escape layout (.obj members) ++ rest =
              openBrace :: (layout.join (pieces escape layout members) ++ closeBrace :: rest) := by
            simp [write_obj readable]
          rw [text] at enough ⊢
          rw [List.length_cons] at enough
          cases members with
          | nil =>
              have closed : skip (closeBrace :: rest) = closeBrace :: rest := skip_cons rfl rest
              simp [pieces, writeMembers, Json.Layout.join, scan, quote, openBrace, closed, fold,
                foldMembers]
          | cons member members =>
              obtain ⟨others, opens⟩ := @pieces_open escape layout member members
              have inside :=
                scanMembers_write readable faithful member members each depth fuel rest fits (by omega)
              have start : skip (quote :: others ++ closeBrace :: rest) =
                  quote :: others ++ closeBrace :: rest := skip_cons rfl _
              rw [opens] at inside ⊢
              simp only [scan, start, inside]
              simp [quote, openBrace, closeBrace, Except.map, fold]

end Lists

section Documents

theorem readBack_name {json : Json} {name : List Char} (written : write escape layout json = name)
    (known : (name, fold hooks json) ∈ [("null".toList, hooks.null), ("true".toList, hooks.bool true),
      ("false".toList, hooks.bool false)])
    (opens : ∃ c others, name = c :: others ∧ c ≠ quote ∧ c ≠ '[' ∧ c ≠ openBrace) :
    ReadBack hooks escape layout json := by
  subst written
  exact readBack_scalar opens fun _ rest _ _ => readScalar_name known rest

theorem readBack_int (value : Int) : ReadBack hooks escape layout (.int value) := by
  obtain ⟨c, others, shape, sign | digit⟩ := toString_opens value
  · refine readBack_scalar ⟨c, others, shape, ?_⟩ fun _ rest fits stops => ?_
    · rw [sign]
      decide
    · exact readScalar_int value stops (by simpa [Fits] using fits)
  · refine readBack_scalar ⟨c, others, shape, ?_⟩ fun _ rest fits stops => ?_
    · exact ⟨ne_of_digit digit rfl, ne_of_digit digit rfl, ne_of_digit digit rfl⟩
    · exact readScalar_int value stops (by simpa [Fits] using fits)

mutual

theorem readBack (faithful : Faithful escape) (readable : Readable layout) :
    (json : Json) → ReadBack hooks escape layout json
  | .null => readBack_name rfl (by simp [fold, write]) ⟨_, _, rfl, by decide⟩
  | .bool true => readBack_name rfl (by simp [fold, write]) ⟨_, _, rfl, by decide⟩
  | .bool false => readBack_name rfl (by simp [fold, write]) ⟨_, _, rfl, by decide⟩
  | .int value => readBack_int value
  | .str text => readBack_str faithful text
  | .arr items => readBack_arr readable (readBackItems faithful readable items)
  | .obj members => readBack_obj readable faithful (readBackMembers faithful readable members)

theorem readBackItems (faithful : Faithful escape) (readable : Readable layout) :
    (items : List Json) → ∀ json ∈ items, ReadBack hooks escape layout json
  | [] => by simp
  | item :: rest =>
      List.forall_mem_cons.2 ⟨readBack faithful readable item, readBackItems faithful readable rest⟩

theorem readBackMembers (faithful : Faithful escape) (readable : Readable layout) :
    (members : List (String × Json)) → ∀ entry ∈ members, ReadBack hooks escape layout entry.2
  | [] => by simp
  | (_, value) :: rest =>
      List.forall_mem_cons.2
        ⟨readBack faithful readable value, readBackMembers faithful readable rest⟩

end

theorem decode_write (faithful : Faithful escape) (readable : Readable layout) {json : Json}
    {limit : Nat} (fits : Fits limit json) :
    decode hooks limit (write escape layout json) = .ok (fold hooks json) := by
  obtain ⟨c, others, opens, visible, -⟩ := @write_opens escape layout json
  have reads : ReadBack hooks escape layout json := readBack faithful readable json
  have read := reads limit (2 * (write escape layout json).length + 1) [] fits stops_nil (by simp)
  have start : skip (write escape layout json) = write escape layout json := by
    rw [opens, skip_cons visible]
  rw [List.append_nil] at read
  rw [decode, start, read]
  rfl

end Documents

end RoundTrip

section Escapes

theorem hexDigit_digitChar {n : Nat} (small : n < 16) : hexDigit (Nat.digitChar n) = some n := by
  interval_cases n <;> rfl

theorem readHex_hexEscape {code : Nat} (bound : code < 0x10000) (rest : List Char) :
    ∃ digits, Json.hexEscape code ++ rest = '\\' :: 'u' :: digits ∧
      readHex digits = some (code, rest) := by
  have value (n : Nat) : hexDigit (Nat.digitChar (n % 16)) = some (n % 16) :=
    hexDigit_digitChar (Nat.mod_lt n (by decide))
  have total : ((code / 4096 % 16 * 16 + code / 256 % 16) * 16 + code / 16 % 16) * 16 + code % 16 =
      code := by omega
  refine ⟨Nat.digitChar (code / 4096 % 16) :: Nat.digitChar (code / 256 % 16) ::
    Nat.digitChar (code / 16 % 16) :: Nat.digitChar (code % 16) :: rest, rfl, ?_⟩
  simp only [readHex, value, Option.bind_some, Option.map_some, total]

theorem readChar_basic {c : Char} (basic : c.toNat < 0x10000) (rest : List Char) :
    readChar (Json.hexEscape c.toNat ++ rest) = some (c, rest) := by
  have scalar : c.toNat < 0xD800 ∨ 0xDFFF < c.toNat ∧ c.toNat < 0x110000 := c.valid
  have single : ¬ (0xD800 ≤ c.toNat ∧ c.toNat < 0xDC00) := by omega
  obtain ⟨digits, shape, read⟩ := readHex_hexEscape basic rest
  rw [shape, readChar, readUnicode, read]
  simp only [Option.map_some, single, if_false, Char.ofNat_toNat]

theorem readChar_surrogates {c : Char} (beyond : 0x10000 ≤ c.toNat) (rest : List Char) :
    readChar (Json.hexEscape (0xD800 + (c.toNat - 0x10000) / 0x400) ++
      (Json.hexEscape (0xDC00 + (c.toNat - 0x10000) % 0x400) ++ rest)) = some (c, rest) := by
  have scalar : c.toNat < 0xD800 ∨ 0xDFFF < c.toNat ∧ c.toNat < 0x110000 := c.valid
  have high : 0xD800 + (c.toNat - 0x10000) / 0x400 < 0xDC00 := by omega
  have low : 0xDC00 + (c.toNat - 0x10000) % 0x400 < 0xE000 := by omega
  have total : 0x10000 + (0xD800 + (c.toNat - 0x10000) / 0x400 - 0xD800) * 0x400 +
      (0xDC00 + (c.toNat - 0x10000) % 0x400 - 0xDC00) = c.toNat := by omega
  obtain ⟨last, tail, readTail⟩ := readHex_hexEscape (Nat.lt_trans low (by decide)) rest
  obtain ⟨first, shape, read⟩ := readHex_hexEscape (Nat.lt_trans high (by decide))
    (Json.hexEscape (0xDC00 + (c.toNat - 0x10000) % 0x400) ++ rest)
  have second : readLow ('\\' :: 'u' :: last) =
      some (0xDC00 + (c.toNat - 0x10000) % 0x400, rest) := by
    simp [readLow, readTail, Option.filter, low]
  rw [shape, readChar, readUnicode, read, tail]
  simp only [Option.map_some, Nat.le_add_right, high, and_self, if_true, second, total,
    Char.ofNat_toNat]

theorem readChar_short {c short : Char} {code : Nat} (is : c.toNat = code)
    (reads : unescape short = some (Char.ofNat code)) (other : short ≠ 'u') (rest : List Char) :
    readChar ('\\' :: short :: rest) = some (c, rest) := by
  have value : c = Char.ofNat code := by rw [← is, Char.ofNat_toNat]
  simp [readChar, reads, value]

theorem readChar_literal {c : Char} (visible : 32 ≤ c.toNat) (other : c ≠ '\\')
    (rest : List Char) : readChar (c :: rest) = some (c, rest) := by
  have shown : ¬ c.toNat < 32 := Nat.not_lt.2 visible
  simp [readChar, other, shown]

/-- With ensure_ascii. -/
theorem faithful_escapeChar : Faithful Json.escapeChar where
  reads c rest := by
    unfold Json.escapeChar
    iterate 7
      split
      next is => exact readChar_short is rfl (by decide) rest
    split
    next notSlash _ _ _ _ _ printable =>
      refine readChar_literal printable.1 ?_ rest
      rintro rfl
      exact notSlash rfl
    split
    next basic => exact readChar_basic basic rest
    next beyond =>
      rw [List.append_assoc]
      exact readChar_surrogates (Nat.le_of_not_lt beyond) rest
  opens := Json.escapeChar_started

-- With ensure_ascii off only what must be escaped is.
def escapeRaw (c : Char) : List Char :=
  if c.toNat < 32 ∨ c.toNat = 34 ∨ c.toNat = 92 then Json.escapeChar c else [c]

theorem faithful_escapeRaw : Faithful escapeRaw where
  reads c rest := by
    unfold escapeRaw
    split
    · exact faithful_escapeChar.reads c rest
    next plain =>
      have visible : 32 ≤ c.toNat := by omega
      refine readChar_literal visible ?_ rest
      rintro rfl
      exact plain (.inr (.inr rfl))
  opens c := by
    unfold escapeRaw
    split
    · exact faithful_escapeChar.opens c
    next plain =>
      refine ⟨c, [], rfl, ?_⟩
      rintro rfl
      exact plain (.inr (.inl rfl))

end Escapes

section Layouts

-- `separators=(",", ":")` with the members in their order.
def tight : Json.Layout := ⟨",", ":", false⟩

theorem readable_default : Readable .default where
  unsorted := rfl
  items := ⟨[' '], rfl, by simp [isBlank]⟩
  keys := ⟨[' '], rfl, by simp [isBlank]⟩

theorem readable_tight : Readable tight where
  unsorted := rfl
  items := ⟨[], rfl, by simp⟩
  keys := ⟨[], rfl, by simp⟩

mutual

theorem render_eq_write (layout : Json.Layout) :
    (json : Json) → json.render layout = write Json.escapeChar layout json
  | .null | .bool true | .bool false | .int _ | .str _ => rfl
  | .arr items => by
      rw [Json.render, write, renderItems_eq_write layout items]
  | .obj members => by
      rw [Json.render, write, renderMembers_eq_write layout members]
      rfl

theorem renderItems_eq_write (layout : Json.Layout) :
    (items : List Json) → Json.renderItems layout items = writeItems Json.escapeChar layout items
  | [] => rfl
  | item :: rest => by
      rw [Json.renderItems, writeItems, render_eq_write layout item, renderItems_eq_write layout rest]

theorem renderMembers_eq_write (layout : Json.Layout) :
    (members : List (String × Json)) →
      Json.renderMembers layout members = writeMembers Json.escapeChar layout members
  | [] => rfl
  | (key, value) :: rest => by
      rw [Json.renderMembers, writeMembers, render_eq_write layout value,
        renderMembers_eq_write layout rest]

end

end Layouts

section Bytes

-- What a caller of the decoder may pass in place of a text.
inductive Encoding where
  | utf8
  | utf8Sig
  | utf16
  | utf16be
  | utf16le
  | utf32
  | utf32be
  | utf32le
  deriving DecidableEq

-- A byte order mark, else where the first zero bytes stand.
def detectEncoding (bytes : List UInt8) : Encoding :=
  if [0, 0, 0xFE, 0xFF].isPrefixOf bytes ∨ [0xFF, 0xFE, 0, 0].isPrefixOf bytes then .utf32
  else if [0xFE, 0xFF].isPrefixOf bytes ∨ [0xFF, 0xFE].isPrefixOf bytes then .utf16
  else if [0xEF, 0xBB, 0xBF].isPrefixOf bytes then .utf8Sig
  else
    match bytes with
    | 0 :: 0 :: _ :: _ :: _ => .utf32be
    | 0 :: _ :: _ :: _ :: _ => .utf16be
    | _ :: 0 :: 0 :: 0 :: _ => .utf32le
    | _ :: 0 :: _ :: _ :: _ => .utf16le
    | [0, _] => .utf16be
    | [_, 0] => .utf16le
    | _ => .utf8

/-- The other codecs of the standard library. -/
abbrev Codecs := Encoding → ByteArray → Option String

def decodeBytes (codecs : Codecs) (bytes : ByteArray) : Option String :=
  match detectEncoding bytes.data.toList with
  | .utf8 => String.fromUTF8? bytes
  | .utf8Sig => String.fromUTF8? (bytes.extract 3 bytes.size)
  | other => codecs other bytes

variable {Doc : Type u} (hooks : Hooks Doc) (codecs : Codecs)

/-- `json.loads` of bytes. -/
def loads (limit : Nat) (bytes : ByteArray) : Except Failure Doc :=
  match decodeBytes codecs bytes with
  | none => .error .invalid
  | some text => decode hooks limit text.toList

theorem fromUTF8?_toUTF8 (text : String) : String.fromUTF8? text.toUTF8 = some text := by
  have valid : text.toUTF8.IsValidUTF8 := text.isValidUTF8
  rw [String.fromUTF8?, dif_pos valid]
  rfl

theorem bytes_object {c : Char} (inside : c ∈ [quote, closeBrace]) (rest : List Char) :
    ∃ second ∈ [(34 : UInt8), 125],
      (String.ofList (openBrace :: c :: rest)).toUTF8.data.toList =
        123 :: second :: (String.ofList rest).toUTF8.data.toList := by
  simp only [List.mem_cons, List.not_mem_nil, or_false] at inside
  rcases inside with rfl | rfl
  · refine ⟨34, by simp, ?_⟩
    simp [List.utf8Encode]
    rfl
  · refine ⟨125, by simp, ?_⟩
    simp [List.utf8Encode]
    rfl

theorem detectEncoding_object {c : Char} (inside : c ∈ [quote, closeBrace]) (rest : List Char) :
    detectEncoding (String.ofList (openBrace :: c :: rest)).toUTF8.data.toList = .utf8 := by
  obtain ⟨second, known, shape⟩ := bytes_object inside rest
  rw [shape]
  simp only [List.mem_cons, List.not_mem_nil, or_false] at known
  rcases known with rfl | rfl <;> simp [detectEncoding, List.isPrefixOf]

variable {hooks codecs} {escape : Char → List Char} {layout : Json.Layout}

theorem write_object (readable : Readable layout) (members : List (String × Json)) :
    ∃ c ∈ [quote, closeBrace], ∃ rest,
      write escape layout (.obj members) = openBrace :: c :: rest := by
  rw [write_obj readable]
  cases members with
  | nil => exact ⟨closeBrace, by simp, [], rfl⟩
  | cons member members =>
      obtain ⟨others, opens⟩ := @pieces_open escape layout member members
      exact ⟨quote, by simp, _, by rw [opens, List.cons_append]⟩

theorem loads_write (faithful : Faithful escape) (readable : Readable layout)
    {members : List (String × Json)} {limit : Nat} (fits : Fits limit (.obj members)) :
    loads hooks codecs limit (String.ofList (write escape layout (.obj members))).toUTF8 =
      .ok (hooks.obj (foldMembers hooks members)) := by
  obtain ⟨c, inside, rest, shape⟩ := @write_object escape layout readable members
  have encoding := detectEncoding_object inside rest
  rw [← shape] at encoding
  have read := @decode_write Doc hooks escape layout faithful readable (.obj members) limit fits
  rw [loads, decodeBytes, encoding]
  simp only [fromUTF8?_toUTF8, String.toList_ofList, read, fold]

theorem write_object_nonempty (readable : Readable layout) (members : List (String × Json)) :
    (String.ofList (write escape layout (.obj members))).toUTF8.isEmpty = false := by
  obtain ⟨c, inside, rest, shape⟩ := @write_object escape layout readable members
  obtain ⟨second, -, bytes⟩ := bytes_object inside rest
  rw [shape, ByteArray.isEmpty, ByteArray.size, ← Array.length_toList, bytes]
  rfl

end Bytes

end Fleet.JsonText
