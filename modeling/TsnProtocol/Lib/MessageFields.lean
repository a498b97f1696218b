import TsnProtocol.Lib.ByteReader

/-!
Messages that are fields one after another: which of them tell their fields apart.
-/

namespace TsnProtocol.Lib.MessageFields

open Lib.ByteReader

/-- A number in as many bytes as its type has, lowest byte first. -/
def numberBytes {width : Nat} (value : BitVec width) : List Byte :=
  leBytes (width / 8) value.toNat

@[simp] theorem length_numberBytes {width : Nat} (value : BitVec width) :
    (numberBytes value).length = width / 8 :=
  length_leBytes _ _

theorem leValue_numberBytes {width : Nat} (hwidth : 8 ∣ width) (value : BitVec width) :
    leValue (numberBytes value) = value.toNat := by
  have hpow : 256 ^ (width / 8) = 2 ^ width := by
    rw [show (256 : Nat) = 2 ^ 8 from rfl, ← pow_mul, Nat.mul_div_cancel' hwidth]
  rw [numberBytes, leValue_leBytes, hpow, Nat.mod_eq_of_lt value.isLt]

theorem numberBytes_inj {width : Nat} (hwidth : 8 ∣ width) {left right : BitVec width} :
    numberBytes left = numberBytes right ↔ left = right := by
  refine ⟨fun hbytes => ?_, congrArg _⟩
  have hvalue := congrArg leValue hbytes
  rw [leValue_numberBytes hwidth, leValue_numberBytes hwidth] at hvalue
  exact BitVec.eq_of_toNat_eq hvalue

@[simp] theorem numberBytes_inj_byte {left right : BitVec 8} :
    numberBytes left = numberBytes right ↔ left = right :=
  numberBytes_inj (by decide)

@[simp] theorem numberBytes_inj_u16 {left right : BitVec 16} :
    numberBytes left = numberBytes right ↔ left = right :=
  numberBytes_inj (by decide)

@[simp] theorem numberBytes_inj_u32 {left right : BitVec 32} :
    numberBytes left = numberBytes right ↔ left = right :=
  numberBytes_inj (by decide)

@[simp] theorem numberBytes_inj_u64 {left right : BitVec 64} :
    numberBytes left = numberBytes right ↔ left = right :=
  numberBytes_inj (by decide)

@[simp] theorem wordBytes_inj {left right : BitVec 256} :
    wordBytes left = wordBytes right ↔ left = right := by
  refine ⟨fun hbytes => ?_, congrArg _⟩
  rw [← wordOfBytes_wordBytes left, hbytes, wordOfBytes_wordBytes]

/-- Fields whose sizes are settled by their places. -/
theorem flatten_inj {left right : List (List Byte)}
    (hsizes : left.map List.length = right.map List.length) :
    left.flatten = right.flatten ↔ left = right :=
  ⟨fun hbytes => List.eq_iff_flatten_eq.mpr ⟨hbytes, hsizes⟩, congrArg _⟩

/-- A field is where the sizes of the fields before it put it. -/
theorem between_flatten {parts : List (List Byte)} {part : List Byte} (sizes : List Nat)
    (index : Nat) (hsizes : parts.map List.length = sizes)
    (hpart : parts[index]? = some part) :
    between parts.flatten (sizes.take index).sum (sizes.take (index + 1)).sum = part := by
  obtain ⟨hindex, rfl⟩ := List.getElem?_eq_some_iff.mp hpart
  have hfront : (parts.take index).flatten.length = (sizes.take index).sum := by
    rw [List.length_flatten, List.map_take, hsizes]
  have hsum : (sizes.take (index + 1)).sum = (sizes.take index).sum + parts[index].length := by
    rw [List.take_add_one, List.sum_append, ← hsizes, List.getElem?_map, hpart]
    simp
  have hdrop : parts.flatten.drop (sizes.take index).sum =
      parts[index] ++ (parts.drop (index + 1)).flatten := by
    conv_lhs => rw [← List.take_append_drop index parts, List.flatten_append, ← hfront,
      List.drop_left, List.drop_eq_getElem_cons hindex, List.flatten_cons]
  rw [hsum]
  exact (between_of_drop hdrop rfl).1

/-- A field of one byte. -/
theorem getD_of_between {data : List Byte} {byte : Byte} {index : Nat}
    (hbetween : between data index (index + 1) = [byte]) : data.getD index 0 = byte := by
  rw [between, Nat.add_sub_cancel_left] at hbetween
  rcases hrest : data.drop index with _ | ⟨head, rest⟩
  · simp [hrest] at hbetween
  · rw [hrest, List.take_succ_cons, List.take_zero, List.cons.injEq] at hbetween
    rw [List.getD_eq_getElem?_getD, ← Nat.add_zero index, ← List.getElem?_drop, hrest]
    exact hbetween.1

/-- Texts of which neither starts the other start no common message. -/
theorem append_ne {left right rest rest' : List Byte} {position : Nat}
    (hleft : position < left.length) (hright : position < right.length)
    (hne : left[position]? ≠ right[position]?) : left ++ rest ≠ right ++ rest' := by
  intro heq
  have hbyte := congrArg (fun bytes : List Byte => bytes[position]?) heq
  rw [List.getElem?_append_left hleft, List.getElem?_append_left hright] at hbyte
  exact hne hbyte

end TsnProtocol.Lib.MessageFields
