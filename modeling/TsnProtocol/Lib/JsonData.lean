import Mathlib

/-!
Values of JSON documents, and what JavaScript reads out of them.
-/

namespace TsnProtocol.Lib.JsonData

inductive Json where
  | null
  | bool (value : Bool)
  | num (value : Rat)
  | str (text : String)
  | arr (items : List Json)
  | obj (fields : List (String × Json))

/-- How numbers are written and read, how texts are quoted, and how keys compare. -/
structure Conversions where
  numberText : Rat → String
  /-- The number of a text, unless it is infinite or not a number. -/
  numberOf : String → Option Rat
  quote : String → String
  localeLe : String → String → Bool

namespace Json

/-- A field; `none` where JavaScript finds `undefined`. -/
def get (value : Json) (key : String) : Option Json :=
  match value with
  | obj fields => fields.lookup key
  | _ => none

def entries : Json → List (String × Json)
  | obj fields => fields
  | arr items => items.zipIdx.map fun item => (toString item.2, item.1)
  | str text => text.toList.zipIdx.map fun item =>
      (toString item.2, str (String.ofList [item.1]))
  | _ => []

def keys (value : Json) : List String :=
  value.entries.map Prod.fst

/-- An object that is neither `null` nor an array. -/
def isRecord : Json → Bool
  | obj _ => true
  | _ => false

def truthy : Json → Bool
  | null => false
  | bool value => value
  | num value => value ≠ 0
  | str text => text ≠ ""
  | arr _ | obj _ => true

/-- `String(value)`, where an array shows its items and nothing for `null`. -/
def toText (conversions : Conversions) : Json → String
  | null => "null"
  | bool value => if value then "true" else "false"
  | num value => conversions.numberText value
  | str text => text
  | arr items => ",".intercalate (itemTexts items)
  | obj _ => "[object Object]"
where
  itemTexts : List Json → List String
    | [] => []
    | null :: items => "" :: itemTexts items
    | item :: items => toText conversions item :: itemTexts items

end Json

/-- `String(value ?? "")`. -/
def textOf (conversions : Conversions) : Option Json → String
  | none | some .null => ""
  | some value => value.toText conversions

/-- `Number(value ?? 0)`, unless it is infinite or not a number. -/
def numberOf (conversions : Conversions) : Option Json → Option Rat
  | none | some .null => some 0
  | some (.bool value) => some (if value then 1 else 0)
  | some (.num value) => some value
  | some (.str text) => conversions.numberOf text
  | some (.arr items) => conversions.numberOf ((Json.arr items).toText conversions)
  | some (.obj _) => none

/-- The fields that are kept. -/
def keepFields (keep : String → Bool) (value : Json) : List (String × Json) :=
  value.entries.filter fun field => keep field.1

/-- The fields of one object over those of another. -/
def spread (base added : List (String × Json)) : List (String × Json) :=
  (base.map fun field => (field.1, (added.lookup field.1).getD field.2)) ++
    added.filter fun field => !(base.map Prod.fst).contains field.1

/-- White space and line ends, as `trim` strips them. -/
def isSpace (character : Char) : Bool :=
  [9, 10, 11, 12, 13, 32, 0xa0, 0x1680, 0x2028, 0x2029, 0x202f, 0x205f, 0x3000, 0xfeff].contains
      character.toNat ||
    (0x2000 ≤ character.toNat && character.toNat ≤ 0x200a)

def trim (text : String) : String :=
  String.ofList ((text.toList.dropWhile isSpace).rdropWhile isSpace)

end TsnProtocol.Lib.JsonData
