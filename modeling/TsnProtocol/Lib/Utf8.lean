import TsnProtocol.Lib.TextFormat

/-!
Texts as bytes of UTF-8.
-/

namespace TsnProtocol.Lib.Utf8

open Lib.ByteReader
open Lib.TextFormat

def encodeChar (character : Char) : List Byte :=
  (String.utf8EncodeChar character).map UInt8.toBitVec

def encodeUtf8 (text : Text) : List Byte :=
  text.flatMap encodeChar

@[simp] theorem encodeUtf8_nil : encodeUtf8 [] = [] := rfl

@[simp] theorem encodeUtf8_cons (character : Char) (text : Text) :
    encodeUtf8 (character :: text) = encodeChar character ++ encodeUtf8 text := rfl

/-- No two texts have the same bytes. -/
theorem encodeUtf8_injective {left right : Text} (hsame : encodeUtf8 left = encodeUtf8 right) :
    left = right := by
  have hbytes : ∀ text : Text,
      encodeUtf8 text = (text.flatMap String.utf8EncodeChar).map UInt8.toBitVec := by
    intro text
    rw [List.map_flatMap]
    rfl
  have hinjective : Function.Injective UInt8.toBitVec := fun _ _ => UInt8.eq_of_toBitVec_eq
  rw [hbytes, hbytes] at hsame
  have hencoded : left.utf8Encode = right.utf8Encode := by
    unfold List.utf8Encode
    rw [hinjective.list_map hsame]
  have htexts : String.ofList left = String.ofList right := String.toByteArray_inj.mp hencoded
  rw [← String.toList_ofList (l := left), htexts, String.toList_ofList]

theorem encodeChar_of_ascii {character : Char} (hascii : character.toNat < 128) :
    encodeChar character = [BitVec.ofNat 8 character.toNat] := by
  have hsmall : character.val.toNat ≤ 0x7f := Nat.le_of_lt_succ hascii
  rw [encodeChar, String.utf8EncodeChar, if_pos hsmall]
  rfl

theorem encodeUtf8_of_isAscii {text : Text} (htext : isAscii text = true) :
    encodeUtf8 text = encodeAscii text := by
  induction text with
  | nil => rfl
  | cons character text ih =>
      rw [isAscii, List.all_cons, Bool.and_eq_true, decide_eq_true_eq] at htext
      rw [encodeUtf8_cons, encodeChar_of_ascii htext.1, ih htext.2]
      rfl

end TsnProtocol.Lib.Utf8
