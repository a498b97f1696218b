import TsnProtocol.Lib.PythonText

/-!
Values of JSON as Python holds them, and its conversions of them.
-/

namespace TsnProtocol.Lib.PythonValues

open Lib.ByteReader
open Lib.PythonText
open Lib.TextFormat

/-- What a conversion to an integer raises. -/
inductive Raised where
  | typeError | valueError | overflowError
  deriving DecidableEq, Repr

/-- A float is its text, the integer it is cut off to, and whether it is zero; a list or a
dictionary is its text and whether it is empty. -/
inductive Value where
  | none
  | bool (flag : Bool)
  | int (value : Int)
  | float (text : Text) (truncated : Except Raised Int) (zero : Bool)
  | str (text : Text)
  | container (text : Text) (empty : Bool)

def intText (value : Int) : Text :=
  if value < 0 then '-' :: decimal value.natAbs else decimal value.natAbs

def str : Value → Text
  | .none => "None".toList
  | .bool true => "True".toList
  | .bool false => "False".toList
  | .int value => intText value
  | .float text _ _ | .str text | .container text _ => text

def truthy : Value → Bool
  | .none => false
  | .bool flag => flag
  | .int value => value ≠ 0
  | .float _ _ zero => !zero
  | .str text => text ≠ []
  | .container _ empty => !empty

/-- `value or ""`. -/
def orEmpty (value : Value) : Value :=
  if truthy value then value else .str []

def int (unicode : Unicode) : Value → Except Raised Int
  | .bool flag => .ok (if flag then 1 else 0)
  | .int value => .ok value
  | .float _ truncated _ => truncated
  | .str text =>
      match intOf unicode (String.ofList text) with
      | some value => .ok value
      | .none => .error .valueError
  | .none | .container _ _ => .error .typeError

/-- A dictionary by its keys. -/
abbrev Payload := String → Option Value

def isNone : Value → Bool
  | .none => true
  | _ => false

/-- The first of the entries named that is there and not `None`. -/
def field (payload : Payload) (names : List String) (default : Value) : Value :=
  ((names.filterMap payload).find? fun value => !isNone value).getD default

section Bytes

def isAsciiSpace (character : Char) : Bool :=
  character = ' ' || (9 ≤ character.toNat && character.toNat ≤ 13)

def hexValue (digit : Char) : Option Nat :=
  lowerHexValue digit.toLower

/-- `bytes.fromhex`: white space stands between bytes only. -/
def fromHex : Text → Option (List Byte)
  | [] => some []
  | [last] => if isAsciiSpace last then some [] else none
  | high :: low :: rest =>
      if isAsciiSpace high then fromHex (low :: rest)
      else do
        let highValue ← hexValue high
        let lowValue ← hexValue low
        let bytes ← fromHex rest
        return BitVec.ofNat 8 (16 * highValue + lowValue) :: bytes

theorem not_isAsciiSpace_hexDigit {nibble : Nat} (hnibble : nibble < 16) :
    isAsciiSpace (lowerHexDigit nibble) = false := by
  interval_cases nibble <;> decide

theorem hexValue_hexDigit {nibble : Nat} (hnibble : nibble < 16) :
    hexValue (lowerHexDigit nibble) = some nibble := by
  interval_cases nibble <;> decide

theorem fromHex_hexText (bytes : List Byte) : fromHex (hexText bytes) = some bytes := by
  induction bytes with
  | nil => rfl
  | cons byte bytes ih =>
      have hbyte := byte.isLt
      have htext : hexText (byte :: bytes) = lowerHexDigit (byte.toNat / 16) ::
          lowerHexDigit (byte.toNat % 16) :: hexText bytes := rfl
      rw [htext, fromHex, not_isAsciiSpace_hexDigit (by omega), ih,
        hexValue_hexDigit (by omega), hexValue_hexDigit (by omega)]
      simp only [Bool.false_eq_true, if_false, Option.bind_eq_bind, Option.bind_some]
      exact congrArg (fun head => some (head :: bytes)) (byte_eq_ofNat (by omega))

theorem str_orEmpty_text (text : Text) : str (orEmpty (.str text)) = text := by
  rcases text with _ | ⟨head, rest⟩ <;> rfl

end Bytes

end TsnProtocol.Lib.PythonValues
