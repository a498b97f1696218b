import TsnProtocol.Lib.ByteReader

/-!
Fields that stand at a cursor, and lengths in seven bits a byte: every byte but the last has
its high bit set, the lowest seven bits come first.
-/

namespace TsnProtocol.Lib.CompactLength

open Lib.ByteReader

section Fields

variable {Error : Type} {fault : Error} {data left right bytes : List Byte}
  {cursor size : Nat}

/-- Two fields behind each other. -/
theorem append_prefix_drop :
    left ++ right <+: data.drop cursor ↔
      left <+: data.drop cursor ∧ right <+: data.drop (cursor + left.length) := by
  constructor
  · rintro ⟨rest, hrest⟩
    rw [List.append_assoc] at hrest
    refine ⟨⟨right ++ rest, hrest⟩, ⟨rest, ?_⟩⟩
    rw [← List.drop_drop, ← hrest, List.drop_left]
  · rintro ⟨⟨rest, hleft⟩, hright⟩
    rw [← List.drop_drop, ← hleft, List.drop_left] at hright
    rw [← hleft]
    exact (List.prefix_append_right_inj left).mpr hright

theorem length_le_of_prefix_drop (hfield : bytes <+: data.drop cursor) (hbytes : bytes ≠ []) :
    cursor + bytes.length ≤ data.length := by
  have hle := hfield.length_le
  have hpos := List.length_pos_iff.mpr hbytes
  rw [List.length_drop] at hle
  omega

theorem byteAt_eq_ok_iff {byte : Byte} :
    byteAt fault data cursor = .ok byte ↔ [byte] <+: data.drop cursor := by
  constructor
  · intro hbyte
    exact ⟨_, (drop_of_byteAt hbyte).symm⟩
  · rintro ⟨rest, hrest⟩
    rw [byteAt_eq_ok, ← Nat.add_zero cursor, ← List.getElem?_drop, ← hrest]
    rfl

theorem bytesBetween_eq_ok_iff :
    bytesBetween fault data cursor (cursor + size) = .ok bytes ↔
      cursor + size ≤ data.length ∧ bytes.length = size ∧ bytes <+: data.drop cursor := by
  constructor
  · intro hread
    have hbounds := (bytesBetween_eq_ok.mp hread).1.2
    obtain ⟨hdrop, hlength⟩ := drop_of_bytesBetween hread
    exact ⟨hbounds, by omega, ⟨_, hdrop.symm⟩⟩
  · rintro ⟨hbounds, rfl, rest, hrest⟩
    rw [bytesBetween_eq_ok, Nat.add_sub_cancel_left, ← hrest, List.take_left]
    exact ⟨⟨by omega, hbounds⟩, rfl⟩

end Fields

/-- The number that the low seven bits of the bytes are. -/
def compactValue : List Byte → Nat
  | [] => 0
  | byte :: rest => (byte &&& 0x7F).toNat ||| compactValue rest <<< 7

/-- A length in at most `bound` bytes, all but the last of which continue it. -/
def Continued : Nat → List Byte → Prop
  | 0, _ => False
  | _ + 1, [] => False
  | bound + 1, byte :: rest =>
      if byte.toNat < 0x80 then rest = [] else Continued bound rest

/-- The bytes spell the length, in no more than four of them. -/
def Spelled (length : Nat) (bytes : List Byte) : Prop :=
  Continued 4 bytes ∧ compactValue bytes = length

/-- A length below 2^16 in as few bytes as it takes. -/
def encodeCompact (length : Nat) : List Byte :=
  if length < 0x80 then [BitVec.ofNat 8 length]
  else if length < 0x4000 then
    [BitVec.ofNat 8 (length % 0x80 + 0x80), BitVec.ofNat 8 (length / 0x80)]
  else
    [BitVec.ofNat 8 (length % 0x80 + 0x80), BitVec.ofNat 8 (length / 0x80 % 0x80 + 0x80),
      BitVec.ofNat 8 (length / 0x4000)]

/-- The bytes are the one spelling of a length of sixteen bits that is in use. -/
def Shortest (length : Nat) (bytes : List Byte) : Prop :=
  length < 0x10000 ∧ bytes = encodeCompact length

theorem compactValue_cons (byte : Byte) (rest : List Byte) :
    compactValue (byte :: rest) = byte.toNat % 0x80 + 0x80 * compactValue rest := by
  have hlow : (byte &&& 0x7F).toNat = byte.toNat % 0x80 := by
    rw [BitVec.toNat_and]
    exact Nat.and_two_pow_sub_one_eq_mod byte.toNat 7
  have hshift : compactValue rest <<< 7 = 2 ^ 7 * compactValue rest := by
    rw [Nat.shiftLeft_eq, Nat.mul_comm]
  rw [compactValue, hlow, hshift, Nat.or_comm,
    ← Nat.two_pow_add_eq_or_of_lt (show byte.toNat % 0x80 < 2 ^ 7 by omega), Nat.add_comm]

theorem spelled_of_shortest {length : Nat} {bytes : List Byte} (hshort : Shortest length bytes) :
    Spelled length bytes := by
  obtain ⟨hlength, rfl⟩ := hshort
  unfold encodeCompact
  split
  · rename_i hone
    have hbyte : (BitVec.ofNat 8 length).toNat = length := by
      rw [BitVec.toNat_ofNat]
      omega
    refine ⟨?_, ?_⟩
    · simp [Continued, hbyte, hone]
    · rw [compactValue_cons, hbyte, compactValue]
      omega
  · have hfirst : (BitVec.ofNat 8 (length % 0x80 + 0x80)).toNat = length % 0x80 + 0x80 := by
      rw [BitVec.toNat_ofNat]
      omega
    split
    · rename_i htwo
      have hsecond : (BitVec.ofNat 8 (length / 0x80)).toNat = length / 0x80 := by
        rw [BitVec.toNat_ofNat]
        omega
      have hlast : length / 0x80 < 0x80 := by omega
      refine ⟨?_, ?_⟩
      · simp [Continued, hfirst, hsecond, hlast]
      · rw [compactValue_cons, compactValue_cons, hfirst, hsecond, compactValue]
        omega
    · have hsecond : (BitVec.ofNat 8 (length / 0x80 % 0x80 + 0x80)).toNat =
          length / 0x80 % 0x80 + 0x80 := by
        rw [BitVec.toNat_ofNat]
        omega
      have hthird : (BitVec.ofNat 8 (length / 0x4000)).toNat = length / 0x4000 := by
        rw [BitVec.toNat_ofNat]
        omega
      have hlast : length / 0x4000 < 0x80 := by omega
      refine ⟨?_, ?_⟩
      · simp [Continued, hfirst, hsecond, hthird, hlast]
      · rw [compactValue_cons, compactValue_cons, compactValue_cons, hfirst, hsecond, hthird,
          compactValue]
        omega

end TsnProtocol.Lib.CompactLength
