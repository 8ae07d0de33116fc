import Mathlib.Data.List.Basic
import Mathlib.Data.String.Basic

set_option autoImplicit false

namespace Fleet

-- An aware datetime as the driver returns it: wall-clock fields and an offset in seconds.
structure Datetime where
  year : Nat
  month : Nat
  day : Nat
  hour : Nat
  minute : Nat
  second : Nat
  microsecond : Nat
  utcoffset : Int
  deriving DecidableEq

namespace Datetime

def padded (width value : Nat) : List Char :=
  List.leftpad width '0' (Nat.toDigits 10 value)

def offsetText (utcoffset : Int) : List Char :=
  let magnitude := utcoffset.natAbs
  (if utcoffset < 0 then '-' else '+') :: padded 2 (magnitude / 3600) ++
    ':' :: padded 2 (magnitude / 60 % 60) ++
      if magnitude % 60 = 0 then [] else ':' :: padded 2 (magnitude % 60)

def isoformat (ts : Datetime) : String :=
  String.ofList <|
    padded 4 ts.year ++ '-' :: padded 2 ts.month ++ '-' :: padded 2 ts.day ++
      'T' :: padded 2 ts.hour ++ ':' :: padded 2 ts.minute ++ ':' :: padded 2 ts.second ++
        (if ts.microsecond = 0 then [] else '.' :: padded 6 ts.microsecond) ++
          offsetText ts.utcoffset

example : isoformat ⟨2026, 9, 22, 7, 5, 3, 4100, -12600⟩ =
    "2026-09-22T07:05:03.004100-03:30" := by decide

end Datetime

end Fleet
