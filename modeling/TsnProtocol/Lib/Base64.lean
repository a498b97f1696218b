import TsnProtocol.Lib.TextFormat

/-!
How long base64 is, and what its digits are without the padding.
-/

namespace TsnProtocol.Lib.Base64

open Lib.ByteReader
open Lib.TextFormat

theorem length_base64 (plus slash : Char) (bytes : List Byte) :
    (base64 plus slash bytes).length = (bytes.length + 2) / 3 * 4 := by
  induction bytes using base64.induct with
  | case1 => rfl
  | case2 first => simp [base64]
  | case3 first second => simp [base64]
  | case4 first second third rest ih =>
      simp only [base64, List.length_cons, ih]
      omega

theorem length_decodeBase64 (value : Char → Nat) (digits : Text) :
    (decodeBase64 value digits).length = digits.length * 3 / 4 := by
  induction digits using decodeBase64.induct with
  | case1 first second third fourth rest ih =>
      simp only [decodeBase64, List.length_cons, ih]
      omega
  | case2 first second third => simp [decodeBase64]
  | case3 first second => simp [decodeBase64]
  | case4 digits hfour hthree htwo =>
      rcases digits with _ | ⟨first, _ | ⟨second, _ | ⟨third, _ | ⟨fourth, rest⟩⟩⟩⟩
      · rfl
      · simp [decodeBase64]
      · exact (htwo _ _ rfl).elim
      · exact (hthree _ _ _ rfl).elim
      · exact (hfour _ _ _ _ _ rfl).elim

theorem decodeBase64_map (value : Char → Nat) (change : Char → Char) (digits : Text) :
    decodeBase64 value (digits.map change) = decodeBase64 (value ∘ change) digits := by
  induction digits using decodeBase64.induct with
  | case1 first second third fourth rest ih => simp [decodeBase64, ih]
  | case2 first second third => rfl
  | case3 first second => rfl
  | case4 digits hfour hthree htwo =>
      rcases digits with _ | ⟨first, _ | ⟨second, _ | ⟨third, _ | ⟨fourth, rest⟩⟩⟩⟩
      · rfl
      · rfl
      · exact (htwo _ _ rfl).elim
      · exact (hthree _ _ _ rfl).elim
      · exact (hfour _ _ _ _ _ rfl).elim

/-- What base64 is without its padding: digits, which decode to the bytes, and which whole
groups of four lack at most two of. -/
structure Digits (plus slash : Char) (bytes : List Byte) (digits : Text) : Prop where
  alphabet : ∀ digit ∈ digits, ∃ value < 64, digit = base64Digit plus slash value
  decodes : ∀ value : Char → Nat,
    (∀ number < 64, value (base64Digit plus slash number) = number) →
      decodeBase64 value digits = bytes
  groups : (base64 plus slash bytes).length % 4 = 0
  padding : (base64 plus slash bytes).length ≤ digits.length + 2
  length : digits.length % 4 ≠ 1

theorem digits_stripPadding {plus slash : Char}
    (hvalue : ∀ number < 64, base64Value plus (base64Digit plus slash number) = number)
    (hpadding : ∀ number < 64, base64Digit plus slash number ≠ '=') (bytes : List Byte) :
    Digits plus slash bytes (stripPadding (base64 plus slash bytes)) := by
  obtain ⟨digits, padding, hbytes, hdigits, -, hdecode⟩ := base64_eq_append plus slash bytes
  have hstrip : stripPadding (base64 plus slash bytes) = digits := by
    rw [hbytes]
    refine stripPadding_append digits padding fun hmem => ?_
    obtain ⟨number, hnumber, heq⟩ := hdigits _ hmem
    exact hpadding number hnumber heq.symm
  have hlength := length_base64 plus slash bytes
  have hcount := length_decodeBase64 (base64Value plus) digits
  have htotal := congrArg List.length hbytes
  rw [hdecode _ hvalue] at hcount
  rw [List.length_append, List.length_replicate] at htotal
  rw [hstrip]
  exact ⟨hdigits, hdecode, by omega, by omega, by omega⟩

end TsnProtocol.Lib.Base64
