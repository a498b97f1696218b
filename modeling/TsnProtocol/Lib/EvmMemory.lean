import TsnProtocol.Lib.Evm

/-!
The memory of an EVM contract as far as `mstore` writes it: words at any byte offset, where a
later word may cover part of an earlier one, and the windows read back for hashing.
-/

namespace TsnProtocol.Lib.EvmMemory

open Lib.ByteReader
open Lib.Evm

abbrev Memory := Nat → Byte

variable {memory : Memory} {word : Bytes32} {offset start size : Nat}

def mstore (memory : Memory) (offset : Nat) (word : Bytes32) : Memory := fun address =>
  if offset ≤ address ∧ address < offset + 32 then (wordBytes word).getD (address - offset) 0
  else memory address

/-- `size` bytes from `start` on. -/
def window (memory : Memory) (start size : Nat) : List Byte :=
  (List.range size).map fun index => memory (start + index)

@[simp] theorem length_window (memory : Memory) (start size : Nat) :
    (window memory start size).length = size := by
  rw [window, List.length_map, List.length_range]

theorem window_append (memory : Memory) (start size size' : Nat) :
    window memory start (size + size') =
      window memory start size ++ window memory (start + size) size' := by
  rw [window, List.range_add, List.map_append, List.map_map]
  refine congrArg (window memory start size ++ ·) (List.map_congr_left ?_)
  intro index _
  rw [Function.comp_apply, Nat.add_assoc]

/-- A word leaves the windows beside it alone. -/
theorem window_mstore_of_disjoint (hdisjoint : start + size ≤ offset ∨ offset + 32 ≤ start) :
    window (mstore memory offset word) start size = window memory start size := by
  refine List.map_congr_left ?_
  intro index hindex
  have hsize := List.mem_range.mp hindex
  exact if_neg (by omega)

/-- The front of a word just written. -/
theorem window_mstore (hsize : size ≤ 32) :
    window (mstore memory offset word) offset size = (wordBytes word).take size := by
  apply List.ext_getElem
  · rw [length_window, List.length_take, length_wordBytes, Nat.min_eq_left hsize]
  · intro index hleft hright
    rw [length_window] at hleft
    have hbound : index < (wordBytes word).length := by
      rw [length_wordBytes]
      omega
    simp only [window, List.getElem_map, List.getElem_range, List.getElem_take]
    rw [mstore, if_pos ⟨by omega, by omega⟩, Nat.add_sub_cancel_left]
    exact (List.getElem_eq_getD (h := hbound) 0).symm

theorem window_mstore_word :
    window (mstore memory offset word) offset 32 = wordBytes word := by
  rw [window_mstore (le_refl 32), List.take_of_length_le (by rw [length_wordBytes])]

theorem wordBytes_injective {left right : Bytes32}
    (hbytes : wordBytes left = wordBytes right) : left = right := by
  rw [← wordOfBytes_wordBytes left, hbytes, wordOfBytes_wordBytes]

/-- Encoded words tell the words apart. -/
theorem abiEncode_injective {left right : List Bytes32}
    (hbytes : abiEncode left = abiEncode right) : left = right := by
  induction left generalizing right with
  | nil =>
      rcases right with _ | ⟨word, right⟩
      · rfl
      · have hlength := congrArg List.length hbytes
        simp only [abiEncode, List.flatMap_cons, List.flatMap_nil, List.length_append,
          List.length_nil, length_wordBytes] at hlength
        omega
  | cons word left ih =>
      rcases right with _ | ⟨word', right⟩
      · have hlength := congrArg List.length hbytes
        simp only [abiEncode, List.flatMap_cons, List.flatMap_nil, List.length_append,
          List.length_nil, length_wordBytes] at hlength
        omega
      · simp only [abiEncode, List.flatMap_cons] at hbytes
        obtain ⟨hword, hrest⟩ := List.append_inj hbytes (by simp)
        rw [wordBytes_injective hword, ih hrest]

/-- A number of 64 bits as a word. -/
theorem setWidth_injective {left right : BitVec 64}
    (hword : left.setWidth 256 = right.setWidth 256) : left = right := by
  have hnat := congrArg BitVec.toNat hword
  have hleft := left.isLt
  have hright := right.isLt
  rw [BitVec.toNat_setWidth, BitVec.toNat_setWidth, Nat.mod_eq_of_lt (by omega),
    Nat.mod_eq_of_lt (by omega)] at hnat
  exact BitVec.eq_of_toNat_eq hnat

theorem leBytes_add (size size' value : Nat) :
    leBytes (size + size') value = leBytes size value ++ leBytes size' (value / 256 ^ size) := by
  induction size generalizing value with
  | zero => simp [leBytes]
  | succ size ih =>
      rw [Nat.succ_add, leBytes, leBytes, ih, List.cons_append, Nat.div_div_eq_div_mul,
        pow_succ']

/-- A number shifted to the top of a word stands in the first bytes of the word. -/
theorem take_wordBytes_shiftLeft (value : BitVec 64) :
    (wordBytes (value.setWidth 256 <<< 192)).take 8 = beBytes 8 value.toNat := by
  have hlt := value.isLt
  have hvalue : (value.setWidth 256 <<< 192).toNat = value.toNat * 2 ^ 192 := by
    rw [BitVec.toNat_shiftLeft, BitVec.toNat_setWidth, Nat.mod_eq_of_lt (by omega),
      Nat.shiftLeft_eq, Nat.mod_eq_of_lt (by omega)]
  have hpow : (256 : Nat) ^ 24 = 2 ^ 192 := by norm_num
  rw [wordBytes, hvalue, leBytes_add 24 8, hpow, Nat.mul_div_cancel _ (Nat.two_pow_pos 192),
    List.reverse_append, ← beBytes, List.take_left' (length_beBytes 8 _)]

theorem beBytes_injective {size left right : Nat} (hleft : left < 256 ^ size)
    (hright : right < 256 ^ size) (hbytes : beBytes size left = beBytes size right) :
    left = right := by
  rw [← beValue_beBytes hleft, hbytes, beValue_beBytes hright]

end TsnProtocol.Lib.EvmMemory
