import TsnProtocol.Lib.Utf8

/-!
The decoder of a platform's `TextDecoder`: bytes of UTF-8, with the replacement character for
every malformed part and without the byte order mark in front.
-/

namespace TsnProtocol.Lib.Utf8Decoder

open Lib.ByteReader
open Lib.TextFormat

/-- A character under way: the bytes it still needs, its value so far and the bounds of the
next byte. -/
structure Pending where
  (needed point lower upper : Nat)

def Pending.none : Pending := ⟨0, 0, 0x80, 0xBF⟩

def replacement : Char := Char.ofNat 0xFFFD

/-- A first byte. -/
def leadByte (byte : Nat) : Pending × Text :=
  if byte ≤ 0x7F then (.none, [Char.ofNat byte])
  else if 0xC2 ≤ byte ∧ byte ≤ 0xDF then (⟨1, byte % 0x20, 0x80, 0xBF⟩, [])
  else if 0xE0 ≤ byte ∧ byte ≤ 0xEF then
    (⟨2, byte % 0x10, if byte = 0xE0 then 0xA0 else 0x80, if byte = 0xED then 0x9F else 0xBF⟩, [])
  else if 0xF0 ≤ byte ∧ byte ≤ 0xF4 then
    (⟨3, byte % 0x08, if byte = 0xF0 then 0x90 else 0x80, if byte = 0xF4 then 0x8F else 0xBF⟩, [])
  else (.none, [replacement])

/-- A byte out of its bounds ends a malformed character and is looked at again. -/
def nextByte (pending : Pending) (byte : Nat) : Pending × Text :=
  if pending.needed = 0 then leadByte byte
  else if byte < pending.lower ∨ pending.upper < byte then
    match leadByte byte with
    | (next, text) => (next, replacement :: text)
  else
    let point := pending.point * 0x40 + byte % 0x40
    if pending.needed = 1 then (.none, [Char.ofNat point])
    else (⟨pending.needed - 1, point, 0x80, 0xBF⟩, [])

def decodeFrom : Pending → List Byte → Text
  | pending, [] => if pending.needed = 0 then [] else [replacement]
  | pending, byte :: bytes =>
      match nextByte pending byte.toNat with
      | (next, text) => text ++ decodeFrom next bytes

/-- `new TextDecoder().decode`. -/
def textDecode (bytes : List Byte) : Text :=
  match decodeFrom .none bytes with
  | [] => []
  | first :: text => if first = Char.ofNat 0xFEFF then text else first :: text

end TsnProtocol.Lib.Utf8Decoder
