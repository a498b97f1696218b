import TsnProtocol.Lib.BorrowSubtraction
import TsnProtocol.Lib.EvmMemory
import TsnProtocol.Lib.TextFormat

/-!
ABI-encoded words as hexadecimal text, the way a node returns them: the digits of a word, the
digits of an address in it, and their values.
-/

namespace TsnProtocol.Lib.HexWords

open Lib.BorrowSubtraction (beValue_cons)
open Lib.ByteReader
open Lib.Evm
open Lib.EvmMemory (leBytes_add)
open Lib.TextFormat

/-- Words as `eth_call` returns them. -/
def hexWords (words : List Bytes32) : Text :=
  '0' :: 'x' :: hexText (abiEncode words)

def wordText (word : Bytes32) : Text :=
  '0' :: 'x' :: hexText (wordBytes word)

def addressText (address : Address) : Text :=
  '0' :: 'x' :: hexText (beBytes 20 address.toNat)

theorem hexText_append (left right : List Byte) :
    hexText (left ++ right) = hexText left ++ hexText right :=
  List.flatMap_append

@[simp] theorem length_hexText (bytes : List Byte) :
    (hexText bytes).length = 2 * bytes.length := by
  induction bytes with
  | nil => rfl
  | cons byte rest ih =>
      have htext : (hexText (byte :: rest)).length = (hexText rest).length + 2 := rfl
      rw [htext, ih, List.length_cons]
      omega

theorem hexText_drop (bytes : List Byte) (count : Nat) :
    (hexText bytes).drop (2 * count) = hexText (bytes.drop count) := by
  induction count generalizing bytes with
  | zero => rfl
  | succ count ih =>
      rcases bytes with _ | ⟨byte, rest⟩
      · exact List.drop_nil
      · exact ih rest

/-- The digits of a word among the digits of many. -/
theorem digits_of_word {words : List Bytes32} {index : Nat} {word : Bytes32}
    (hword : words[index]? = some word) :
    ((hexText (abiEncode words)).drop (index * 64)).take 64 = hexText (wordBytes word) := by
  induction words generalizing index with
  | nil => cases hword
  | cons first rest ih =>
      have hsplit : hexText (abiEncode (first :: rest)) =
          hexText (wordBytes first) ++ hexText (abiEncode rest) := by
        rw [abiEncode, List.flatMap_cons, hexText_append]
        rfl
      have hlength : (hexText (wordBytes first)).length = 64 := by
        rw [length_hexText, length_wordBytes]
      rcases index with _ | index
      · obtain rfl := Option.some.inj hword
        rw [hsplit, Nat.zero_mul, List.drop_zero, List.take_left' hlength]
      · have hrest := ih (show rest[index]? = some word from hword)
        rw [hsplit, show (index + 1) * 64 = 64 + index * 64 by omega, ← List.drop_drop,
          List.drop_left' hlength]
        exact hrest

/-- An address fills the last forty digits of its word. -/
theorem digits_of_address (address : Address) :
    (hexText (wordBytes (addressWord address))).drop 24 = hexText (beBytes 20 address.toNat) := by
  rw [show 24 = 2 * 12 from rfl, hexText_drop]
  apply congrArg hexText
  rw [wordBytes, beBytes, toNat_addressWord, leBytes_add 20 12, List.reverse_append]
  exact List.drop_left' (by simp)

theorem foldl_hexText (bytes : List Byte) (start : Nat) :
    (hexText bytes).foldl (fun number digit => 16 * number + (lowerHexValue digit).getD 0)
      start = start * 256 ^ bytes.length + beValue bytes := by
  induction bytes generalizing start with
  | nil => simp [hexText, beValue, leValue]
  | cons byte rest ih =>
      have hbyte := byte.isLt
      have htext : hexText (byte :: rest) = lowerHexDigit (byte.toNat / 16) ::
          lowerHexDigit (byte.toNat % 16) :: hexText rest := rfl
      rw [htext, List.foldl_cons, List.foldl_cons, ih, lowerHexValue_lowerHexDigit (by omega),
        lowerHexValue_lowerHexDigit (by omega), Option.getD_some, Option.getD_some, beValue_cons,
        List.length_cons, pow_succ']
      have hvalue : 16 * (16 * start + byte.toNat / 16) + byte.toNat % 16 =
          256 * start + byte.toNat := by
        omega
      rw [hvalue]
      ring

theorem hexTextValue_hexText (bytes : List Byte) : hexTextValue (hexText bytes) = beValue bytes := by
  rw [hexTextValue, foldl_hexText, Nat.zero_mul, Nat.zero_add]

theorem hexTextValue_wordBytes (word : Bytes32) :
    hexTextValue (hexText (wordBytes word)) = word.toNat := by
  have hpow : (256 : Nat) ^ 32 = 2 ^ 256 := by norm_num
  rw [hexTextValue_hexText, beValue, wordBytes, List.reverse_reverse, leValue_leBytes,
    Nat.mod_eq_of_lt (hpow ▸ word.isLt)]

theorem lowerHexDigit_of_value {digit : Char} (hdigit : isLowerHexDigit digit = true) :
    ∃ value, lowerHexValue digit = some value ∧ value < 16 ∧ lowerHexDigit value = digit := by
  rcases lowerHexDigit_range hdigit with ⟨hlow, hhigh, hvalue⟩ | ⟨hlow, hhigh, hvalue⟩
  · refine ⟨_, hvalue, by omega, ?_⟩
    rw [lowerHexDigit, if_pos (by omega), show 48 + (digit.toNat - 48) = digit.toNat by omega,
      Char.ofNat_toNat]
  · refine ⟨_, hvalue, by omega, ?_⟩
    rw [lowerHexDigit, if_neg (by omega), show 87 + (digit.toNat - 87) = digit.toNat by omega,
      Char.ofNat_toNat]

/-- An even number of hexadecimal digits are those of bytes. -/
theorem exists_hexText {size : Nat} {text : Text} (hlength : text.length = 2 * size)
    (htext : ∀ digit ∈ text, isLowerHexDigit digit = true) :
    ∃ bytes : List Byte, bytes.length = size ∧ hexText bytes = text := by
  induction size generalizing text with
  | zero => exact ⟨[], rfl, (List.length_eq_zero_iff.mp hlength).symm⟩
  | succ size ih =>
      obtain _ | ⟨high, _ | ⟨low, rest⟩⟩ := text
      · cases hlength
      · simp only [List.length_cons, List.length_nil] at hlength
        omega
      · simp only [List.length_cons] at hlength
        obtain ⟨bytes, hbytes, hrest⟩ := @ih rest (by omega) fun digit hdigit =>
          htext digit (List.mem_cons_of_mem _ (List.mem_cons_of_mem _ hdigit))
        obtain ⟨upper, -, hupper, hhigh⟩ := lowerHexDigit_of_value (htext high List.mem_cons_self)
        obtain ⟨lower, -, hlower, hlow⟩ :=
          lowerHexDigit_of_value (htext low (List.mem_cons_of_mem _ List.mem_cons_self))
        refine ⟨BitVec.ofNat 8 (16 * upper + lower) :: bytes, by rw [List.length_cons, hbytes], ?_⟩
        have hvalue : (BitVec.ofNat 8 (16 * upper + lower)).toNat = 16 * upper + lower := by
          rw [BitVec.toNat_ofNat]
          omega
        have hsplit : hexText (BitVec.ofNat 8 (16 * upper + lower) :: bytes) =
            lowerHexDigit ((BitVec.ofNat 8 (16 * upper + lower)).toNat / 16) ::
              lowerHexDigit ((BitVec.ofNat 8 (16 * upper + lower)).toNat % 16) ::
                hexText bytes := rfl
        rw [hsplit, hvalue, hrest, show (16 * upper + lower) / 16 = upper by omega,
          show (16 * upper + lower) % 16 = lower by omega, hhigh, hlow]

theorem exists_wordDigits {text : Text} (hlength : text.length = 64)
    (htext : ∀ digit ∈ text, isLowerHexDigit digit = true) :
    ∃ word : Bytes32, hexText (wordBytes word) = text := by
  obtain ⟨bytes, hbytes, hdigits⟩ := @exists_hexText 32 text hlength htext
  exact ⟨wordOfBytes bytes, by rw [wordBytes_wordOfBytes hbytes, hdigits]⟩

end TsnProtocol.Lib.HexWords
