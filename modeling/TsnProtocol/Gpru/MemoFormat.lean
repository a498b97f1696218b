import TsnProtocol.Gpru.Verifier
import TsnProtocol.Lib.ByteReader

/-!
The text format of a settlement memo, as the GPRU program reads it: a loop over indices of
the memo's bytes, what it accepts, and that it reads no byte that is not there.
-/

namespace TsnProtocol.Gpru.MemoFormat

open Gpru.Verifier hiding Byte
open Lib.ByteReader
open Lib.Checked
open Solana.Address

/-- How reading a memo ends without a result: the program's own error, or an index that is
out of range. -/
inductive MemoFault where
  | rejected | outOfRange
  deriving DecidableEq

def colon : Byte :=
  BitVec.ofNat 8 ':'.toNat

/-- The loop over `starts` and `ends`; the last field's separator is looked at after it. -/
def fieldSpans (data : List Byte) : Nat → Nat → Except MemoFault (List (Nat × Nat))
  | 0, _ => return []
  | 1, start => return [(start, start + 64)]
  | count + 2, start => do
      let separator ← byteAt .outOfRange data (start + 64)
      require (separator = colon) .rejected
      let later ← fieldSpans data (count + 1) (start + 65)
      return (start, start + 64) :: later

def nibbleAt (value : List Byte) (index : Nat) : Except MemoFault Nat := do
  let digit ← byteAt .outOfRange value index
  okOr (hexNibble digit) .rejected

/-- The loop of `decode_hex_32` over the bytes of its output. -/
def decodeHexFrom (value : List Byte) : Nat → Nat → Nat → Except MemoFault Nat
  | 0, _, number => return number
  | count + 1, index, number => do
      let high ← nibbleAt value (index * 2)
      let low ← nibbleAt value (index * 2 + 1)
      decodeHexFrom value count (index + 1) (256 * number + (16 * high + low))

def decodeField (value : List Byte) : Except MemoFault Bytes32 := do
  require (value.length = 64) .rejected
  let number ← decodeHexFrom value 32 0 0
  require (isCanonicalBn254Scalar (BitVec.ofNat 256 number) = true) .rejected
  return BitVec.ofNat 256 number

def decodeFields (data : List Byte) : List (Nat × Nat) → Except MemoFault (List Bytes32)
  | [] => return []
  | (start, stop) :: later => do
      let value ← bytesBetween MemoFault.outOfRange data start stop
      let binding ← decodeField value
      let bindings ← decodeFields data later
      return binding :: bindings

/-- `validate_memo_instruction` on the bytes of the memo. -/
def parseMemo (data : List Byte) : Except MemoFault (List Bytes32) := do
  require (memoPrefix.length + 64 * 7 + 7 ≤ data.length) .rejected
  let head ← bytesBetween MemoFault.outOfRange data 0 memoPrefix.length
  require (head = memoPrefix) .rejected
  let spans ← fieldSpans data 7 memoPrefix.length
  let finalSeparator := (spans.getLastD (0, 0)).2
  let separator ← byteAt .outOfRange data finalSeparator
  require (separator = colon) .rejected
  require (finalSeparator + 1 < data.length) .rejected
  let tail ← bytesBetween MemoFault.outOfRange data (finalSeparator + 1) data.length
  require (tail.all isBase64UrlByte = true) .rejected
  decodeFields data spans

section Indices

variable {data : List Byte} {start count : Nat}

/-- Where the fields are that start at `start`. -/
def spansFrom : Nat → Nat → List (Nat × Nat)
  | 0, _ => []
  | count + 1, start => (start, start + 64) :: spansFrom count (start + 65)

theorem getLastD_spansFrom (count start : Nat) :
    ((spansFrom (count + 1) start).getLastD (0, 0)).2 = start + 65 * count + 64 := by
  induction count generalizing start with
  | zero => rfl
  | succ count ih =>
      have hlast := ih (start + 65)
      simp only [spansFrom, List.getLastD_cons] at hlast ⊢
      rw [hlast]
      omega

theorem mem_spansFrom {span : Nat × Nat} (hspan : span ∈ spansFrom count start) :
    span.2 = span.1 + 64 ∧ span.2 < start + 65 * count := by
  induction count generalizing start with
  | zero => cases hspan
  | succ count ih =>
      rcases List.mem_cons.mp hspan with rfl | hlater
      · exact ⟨rfl, by dsimp only; omega⟩
      · obtain ⟨hsize, hstop⟩ := ih hlater
        exact ⟨hsize, by omega⟩

/-- A colon follows each of the fields that start at `start`. -/
def Separated (data : List Byte) (count start : Nat) : Prop :=
  ∀ index < count, data[start + 65 * index + 64]? = some colon

theorem separated_succ :
    Separated data (count + 1) start ↔
      data[start + 64]? = some colon ∧ Separated data count (start + 65) := by
  constructor
  · intro hseparated
    refine ⟨by simpa using hseparated 0 (by omega), ?_⟩
    intro index hindex
    have hnext := hseparated (index + 1) (by omega)
    rwa [show start + 65 * (index + 1) + 64 = start + 65 + 65 * index + 64 by omega] at hnext
  · rintro ⟨hfirst, hlater⟩ index hindex
    cases index with
    | zero => simpa using hfirst
    | succ index =>
        rw [show start + 65 * (index + 1) + 64 = start + 65 + 65 * index + 64 by omega]
        exact hlater index (by omega)

theorem fieldSpans_eq_ok {spans : List (Nat × Nat)} :
    fieldSpans data (count + 1) start = .ok spans ↔
      Separated data count start ∧ spans = spansFrom (count + 1) start := by
  induction count generalizing start spans with
  | zero =>
      simp only [fieldSpans, pure_eq_ok, spansFrom, Separated]
      simp [eq_comm]
  | succ count ih =>
      simp only [fieldSpans, bind_eq_ok, byteAt_eq_ok, require_eq_ok, pure_eq_ok, ih,
        separated_succ]
      constructor
      · rintro ⟨_, hfirst, _, rfl, later, ⟨hlater, rfl⟩, rfl⟩
        exact ⟨⟨hfirst, hlater⟩, rfl⟩
      · rintro ⟨⟨hfirst, hlater⟩, rfl⟩
        exact ⟨_, hfirst, (), rfl, _, ⟨hlater, rfl⟩, rfl⟩

theorem avoids_fieldSpans (hlength : start + 65 * count + 64 ≤ data.length) :
    Avoids .outOfRange (fieldSpans data (count + 1) start) := by
  induction count generalizing start with
  | zero => exact avoids_pure
  | succ count ih =>
      unfold fieldSpans
      refine avoids_bind (avoids_byteAt (by omega)) fun _ _ => ?_
      refine avoids_bind (avoids_require (by decide)) fun _ _ => ?_
      refine avoids_bind (ih (by omega)) fun _ _ => ?_
      exact avoids_pure

/-- The fields of a memo by their place and by what is left of it. -/
theorem splitFields_drop {fields : List (List Byte)} {rest : List Byte} :
    splitFields count (data.drop start) = some (fields, rest) ↔
      Separated data count start ∧
        fields = (spansFrom count start).map (fun span => (data.drop span.1).take 64) ∧
        rest = data.drop (start + 65 * count) := by
  induction count generalizing start fields rest with
  | zero =>
      simp only [splitFields, spansFrom, Separated, Option.some.injEq, Prod.mk.injEq]
      simp [eq_comm]
  | succ count ih =>
      have hstart : start + 65 * (count + 1) = start + 65 + 65 * count := by omega
      rw [splitFields, List.drop_drop, separated_succ, hstart]
      cases hdrop : data.drop (start + 64) with
      | nil =>
          have hnone : data[start + 64]? = none := by
            rw [List.getElem?_eq_none_iff]
            exact List.drop_eq_nil_iff.mp hdrop
          simp [hnone]
      | cons separator later =>
          have hseparator : data[start + 64]? = some separator := by
            rw [← List.head?_drop, hdrop, List.head?_cons]
          have hlater : later = data.drop (start + 65) := by
            rw [show start + 65 = start + 64 + 1 by omega, ← List.drop_drop, hdrop,
              List.drop_one, List.tail_cons]
          simp only [hseparator, hlater, Option.bind_eq_bind, Option.bind_eq_some_iff,
            Option.guard_eq_some', ih, Option.pure_def, Option.some.injEq, Prod.mk.injEq,
            Prod.exists, spansFrom, List.map_cons]
          constructor
          · rintro ⟨_, rfl, _, _, ⟨hseparated, rfl, rfl⟩, rfl, rfl⟩
            exact ⟨⟨rfl, hseparated⟩, rfl, rfl⟩
          · rintro ⟨⟨rfl, hseparated⟩, rfl, rfl⟩
            exact ⟨(), rfl, _, _, ⟨hseparated, rfl, rfl⟩, rfl, rfl⟩

end Indices

section Digits

/-- A hexadecimal digit in either case. -/
def IsHexDigit (byte : Byte) : Prop :=
  (hexNibble byte).isSome

/-- The number a string of hexadecimal digits writes after the digits already read. -/
def hexNumber (number : Nat) (value : List Byte) : Nat :=
  value.foldl (fun number digit => 16 * number + (hexNibble digit).getD 0) number

/-- The word in a field of a memo. -/
def hexWord (value : List Byte) : Bytes32 :=
  BitVec.ofNat 256 (hexNumber 0 value)

theorem hexNibble_eq_some {digit : Byte} {nibble : Nat} :
    hexNibble digit = some nibble ↔ IsHexDigit digit ∧ (hexNibble digit).getD 0 = nibble := by
  cases h : hexNibble digit <;> simp [IsHexDigit, h]

theorem foldlM_hexNibble_eq_some {value : List Byte} {number result : Nat} :
    value.foldlM (fun number digit => do
      let nibble ← hexNibble digit
      return 16 * number + nibble) number = some result ↔
      (∀ digit ∈ value, IsHexDigit digit) ∧ hexNumber number value = result := by
  induction value generalizing number with
  | nil => simp [hexNumber]
  | cons digit rest ih =>
      have hdigit : ∀ next, (do
          let nibble ← hexNibble digit
          return 16 * number + nibble) = some next ↔
            IsHexDigit digit ∧ 16 * number + (hexNibble digit).getD 0 = next := by
        intro next
        cases h : hexNibble digit <;> simp [IsHexDigit, h]
      rw [List.foldlM_cons]
      constructor
      · intro hfold
        obtain ⟨next, hnext, hrest⟩ := Option.bind_eq_some_iff.mp hfold
        obtain ⟨hhex, rfl⟩ := (hdigit next).mp hnext
        obtain ⟨hdigits, hresult⟩ := ih.mp hrest
        exact ⟨List.forall_mem_cons.mpr ⟨hhex, hdigits⟩, hresult⟩
      · rintro ⟨hdigits, hresult⟩
        obtain ⟨hhex, hdigits⟩ := List.forall_mem_cons.mp hdigits
        exact Option.bind_eq_some_iff.mpr
          ⟨_, (hdigit _).mpr ⟨hhex, rfl⟩, ih.mpr ⟨hdigits, hresult⟩⟩

theorem decodeHex32_eq_some {value : List Byte} {word : Bytes32} :
    decodeHex32 value = some word ↔
      value.length = 64 ∧ (∀ digit ∈ value, IsHexDigit digit) ∧ hexWord value = word := by
  have hdecode : ∀ number, decodeHex value = some number ↔
      (∀ digit ∈ value, IsHexDigit digit) ∧ hexNumber 0 value = number :=
    fun _ => foldlM_hexNibble_eq_some
  simp only [decodeHex32, Option.bind_eq_bind, Option.bind_eq_some_iff,
    Option.guard_eq_some', hdecode, Option.pure_def, Option.some.injEq, hexWord]
  constructor
  · rintro ⟨_, hlength, _, ⟨hdigits, rfl⟩, hword⟩
    exact ⟨hlength, hdigits, hword⟩
  · rintro ⟨hlength, hdigits, hword⟩
    exact ⟨(), hlength, _, ⟨hdigits, rfl⟩, hword⟩

theorem nibbleAt_eq_ok {value : List Byte} {index nibble : Nat} :
    nibbleAt value index = .ok nibble ↔
      ∃ digit, value[index]? = some digit ∧ IsHexDigit digit ∧
        (hexNibble digit).getD 0 = nibble := by
  simp [nibbleAt, byteAt_eq_ok, hexNibble_eq_some]

/-- The loop over pairs of digits reads the rest of the string. -/
theorem decodeHexFrom_eq_ok {value : List Byte} {count index number result : Nat}
    (hlength : value.length = 2 * (index + count)) :
    decodeHexFrom value count index number = .ok result ↔
      (∀ digit ∈ value.drop (index * 2), IsHexDigit digit) ∧
        hexNumber number (value.drop (index * 2)) = result := by
  induction count generalizing index number with
  | zero =>
      have hnil : value.drop (index * 2) = [] := List.drop_eq_nil_iff.mpr (by omega)
      simp [decodeHexFrom, hnil, hexNumber]
  | succ count ih =>
      have hhigh : index * 2 < value.length := by omega
      have hlow : index * 2 + 1 < value.length := by omega
      have hdrop : value.drop (index * 2) =
          value[index * 2] :: value[index * 2 + 1] :: value.drop ((index + 1) * 2) := by
        rw [List.drop_eq_getElem_cons hhigh, List.drop_eq_getElem_cons hlow]
        congr 3
        omega
      simp only [decodeHexFrom, bind_eq_ok, nibbleAt_eq_ok, List.getElem?_eq_getElem hhigh,
        List.getElem?_eq_getElem hlow, Option.some.injEq, hdrop, List.forall_mem_cons,
        ih (show value.length = 2 * (index + 1 + count) by omega)]
      have hnumber : ∀ high low : Nat,
          256 * number + (16 * high + low) = 16 * (16 * number + high) + low := by
        intro high low
        omega
      simp only [hnumber]
      constructor
      · rintro ⟨_, ⟨_, rfl, hhex, rfl⟩, _, ⟨_, rfl, hhex', rfl⟩, hrest, hresult⟩
        exact ⟨⟨hhex, hhex', hrest⟩, hresult⟩
      · rintro ⟨⟨hhex, hhex', hrest⟩, hresult⟩
        exact ⟨_, ⟨_, rfl, hhex, rfl⟩, _, ⟨_, rfl, hhex', rfl⟩, hrest, hresult⟩

theorem avoids_nibbleAt {value : List Byte} {index : Nat} (hindex : index < value.length) :
    Avoids .outOfRange (nibbleAt value index) :=
  avoids_bind (avoids_byteAt hindex) fun _ _ => avoids_okOr (by decide)

theorem avoids_decodeHexFrom {value : List Byte} {count index number : Nat}
    (hlength : 2 * (index + count) ≤ value.length) :
    Avoids .outOfRange (decodeHexFrom value count index number) := by
  induction count generalizing index number with
  | zero => exact avoids_pure
  | succ count ih =>
      unfold decodeHexFrom
      refine avoids_bind (avoids_nibbleAt (by omega)) fun _ _ => ?_
      refine avoids_bind (avoids_nibbleAt (by omega)) fun _ _ => ?_
      exact ih (by omega)

theorem decodeField_eq_ok {value : List Byte} {word : Bytes32} :
    decodeField value = .ok word ↔
      decodeHex32 value = some word ∧ isCanonicalBn254Scalar word = true := by
  rw [decodeHex32_eq_some]
  simp only [decodeField, bind_eq_ok, require_eq_ok, pure_eq_ok]
  constructor
  · rintro ⟨_, hlength, number, hnumber, _, hcanonical, rfl⟩
    rw [decodeHexFrom_eq_ok (by omega)] at hnumber
    obtain ⟨hdigits, rfl⟩ := hnumber
    exact ⟨⟨hlength, hdigits, rfl⟩, hcanonical⟩
  · rintro ⟨⟨hlength, hdigits, rfl⟩, hcanonical⟩
    exact ⟨(), hlength, _, (decodeHexFrom_eq_ok (by omega)).mpr ⟨hdigits, rfl⟩, (), hcanonical,
      rfl⟩

theorem avoids_decodeField (value : List Byte) : Avoids .outOfRange (decodeField value) := by
  unfold decodeField
  refine avoids_bind (avoids_require (by decide)) fun _ hlength => ?_
  rw [require_eq_ok] at hlength
  refine avoids_bind (avoids_decodeHexFrom (by omega)) fun _ _ => ?_
  exact avoids_bind (avoids_require (by decide)) fun _ _ => avoids_pure

end Digits

section Parser

variable {data : List Byte} {bindings : List Bytes32}

theorem decodeFields_eq_ok {spans : List (Nat × Nat)}
    (hspans : ∀ span ∈ spans, span.2 = span.1 + 64 ∧ span.2 ≤ data.length) :
    decodeFields data spans = .ok bindings ↔
      (spans.map fun span => (data.drop span.1).take 64).mapM decodeHex32 = some bindings ∧
        bindings.all isCanonicalBn254Scalar = true := by
  induction spans generalizing bindings with
  | nil => cases bindings <;> simp [decodeFields]
  | cons span later ih =>
      obtain ⟨⟨hsize, hfits⟩, hlater⟩ := List.forall_mem_cons.mp hspans
      have hfield : ∀ value, bytesBetween MemoFault.outOfRange data span.1 span.2 = .ok value ↔
          (data.drop span.1).take 64 = value := by
        intro value
        rw [bytesBetween_eq_ok, hsize, Nat.add_sub_cancel_left]
        exact and_iff_right ⟨by omega, hsize ▸ hfits⟩
      simp only [decodeFields, bind_eq_ok, hfield, decodeField_eq_ok, ih hlater, pure_eq_ok,
        List.map_cons, List.mapM_cons, Option.bind_eq_bind, Option.bind_eq_some_iff,
        Option.pure_def, Option.some.injEq]
      constructor
      · rintro ⟨_, rfl, _, ⟨hword, hcanonical⟩, _, ⟨hwords, hall⟩, rfl⟩
        exact ⟨⟨_, hword, _, hwords, rfl⟩, by simp [hcanonical, hall]⟩
      · rintro ⟨⟨_, hword, _, hwords, rfl⟩, hall⟩
        rw [List.all_cons, Bool.and_eq_true] at hall
        exact ⟨_, rfl, _, ⟨hword, hall.1⟩, _, ⟨hwords, hall.2⟩, rfl⟩

theorem avoids_decodeFields {spans : List (Nat × Nat)}
    (hspans : ∀ span ∈ spans, span.2 = span.1 + 64 ∧ span.2 ≤ data.length) :
    Avoids .outOfRange (decodeFields data spans) := by
  induction spans with
  | nil => exact avoids_pure
  | cons span later ih =>
      obtain ⟨⟨hsize, hfits⟩, hlater⟩ := List.forall_mem_cons.mp hspans
      unfold decodeFields
      refine avoids_bind (avoids_bytesBetween (by omega) hfits) fun _ _ => ?_
      refine avoids_bind (avoids_decodeField _) fun _ _ => ?_
      exact avoids_bind (ih hlater) fun _ _ => avoids_pure

theorem memoPrefix_fits (hlength : memoPrefix.length + 64 * 7 + 7 ≤ data.length) :
    memoPrefix.length ≤ data.length :=
  Nat.le_of_add_right_le (Nat.le_of_add_right_le hlength)

theorem spans_fit (hlength : memoPrefix.length + 64 * 7 + 7 ≤ data.length) :
    ∀ span ∈ spansFrom 7 memoPrefix.length,
      span.2 = span.1 + 64 ∧ span.2 ≤ data.length := by
  intro span hspan
  obtain ⟨hsize, hstop⟩ := mem_spansFrom hspan
  exact ⟨hsize, by omega⟩

/-- The parser over indices accepts what the parser over fields does. -/
theorem parseMemo_eq_ok : parseMemo data = .ok bindings ↔ memoBindings data = some bindings := by
  have hlast : ∀ spans, Separated data 6 memoPrefix.length ∧
      spans = spansFrom 7 memoPrefix.length → (spans.getLastD (0, 0)).2 =
        memoPrefix.length + 454 := by
    rintro spans ⟨_, rfl⟩
    exact getLastD_spansFrom 6 memoPrefix.length
  simp only [parseMemo, memoBindings, bind_eq_ok, require_eq_ok, bytesBetween_eq_ok,
    fieldSpans_eq_ok, byteAt_eq_ok, Option.bind_eq_bind, Option.bind_eq_some_iff,
    Option.guard_eq_some', splitFields_drop, Option.pure_def, Option.some.injEq, Prod.exists,
    List.drop_zero, Nat.sub_zero]
  constructor
  · rintro ⟨_, hlength, _, ⟨_, rfl⟩, _, hprefix, spans, hspans, _, hcolon, _, rfl, _, hmore, _,
      ⟨_, rfl⟩, _, hpayload, hfields⟩
    rw [hlast spans hspans] at hcolon hmore hpayload
    obtain ⟨hseparated, rfl⟩ := hspans
    obtain ⟨hwords, hcanonical⟩ := (decodeFields_eq_ok (spans_fit hlength)).mp hfields
    refine ⟨(), hlength, (), hprefix, _, _, ⟨?_, rfl, rfl⟩, (), ⟨?_, ?_⟩, _, hwords, (),
      hcanonical, rfl⟩
    · intro index hindex
      rcases Nat.lt_succ_iff_lt_or_eq.mp hindex with hearlier | rfl
      · exact hseparated index hearlier
      · exact hcolon
    · rw [ne_eq, List.drop_eq_nil_iff]
      omega
    · rwa [List.take_of_length_le (by rw [List.length_drop])] at hpayload
  · rintro ⟨_, hlength, _, hprefix, _, _, ⟨hseparated, rfl, rfl⟩, _, ⟨hpayload, hall⟩, _, hwords,
      _, hcanonical, rfl⟩
    rw [ne_eq, List.drop_eq_nil_iff] at hpayload
    have hspans : Separated data 6 memoPrefix.length ∧
        spansFrom 7 memoPrefix.length = spansFrom 7 memoPrefix.length :=
      ⟨fun index hindex => hseparated index (by omega), rfl⟩
    refine ⟨(), hlength, _, ⟨⟨Nat.zero_le _, memoPrefix_fits hlength⟩, rfl⟩, (),
      hprefix, _, hspans, ?_⟩
    rw [hlast _ hspans]
    refine ⟨_, hseparated 6 (by omega), (), rfl, (), by omega, _, ⟨⟨by omega, le_rfl⟩, rfl⟩, (),
      ?_, (decodeFields_eq_ok (spans_fit hlength)).mpr ⟨hwords, hcanonical⟩⟩
    rwa [List.take_of_length_le (by rw [List.length_drop])]

/-- No index the parser uses is out of range, whatever the bytes. -/
theorem avoids_parseMemo (data : List Byte) : Avoids .outOfRange (parseMemo data) := by
  unfold parseMemo
  refine avoids_bind (avoids_require (by decide)) fun _ hlength => ?_
  rw [require_eq_ok] at hlength
  refine avoids_bind (avoids_bytesBetween (Nat.zero_le _) (memoPrefix_fits hlength)) fun _ _ => ?_
  refine avoids_bind (avoids_require (by decide)) fun _ _ => ?_
  refine avoids_bind (avoids_fieldSpans (by omega)) fun spans hspans => ?_
  obtain ⟨_, rfl⟩ := fieldSpans_eq_ok.mp hspans
  have hlast : ((spansFrom 7 memoPrefix.length).getLastD (0, 0)).2 =
      memoPrefix.length + 454 := getLastD_spansFrom 6 memoPrefix.length
  dsimp only
  rw [hlast]
  refine avoids_bind (avoids_byteAt (by omega)) fun _ _ => ?_
  refine avoids_bind (avoids_require (by decide)) fun _ _ => ?_
  refine avoids_bind (avoids_require (by decide)) fun _ hmore => ?_
  rw [require_eq_ok] at hmore
  refine avoids_bind (avoids_bytesBetween (by omega) le_rfl) fun _ _ => ?_
  refine avoids_bind (avoids_require (by decide)) fun _ _ => ?_
  exact avoids_decodeFields (spans_fit hlength)

end Parser

section Format

variable {data rest tail : List Byte} {fields : List (List Byte)} {bindings : List Bytes32}

/-- Fields as they stand in a memo, each followed by a colon. -/
def joinFields (fields : List (List Byte)) : List Byte :=
  fields.flatMap (· ++ [colon])

/-- The prefix, seven fields of hexadecimal digits that write field elements, and a payload
in the base64url alphabet. -/
structure WellFormedMemo (data : List Byte) (fields : List (List Byte)) (tail : List Byte) :
    Prop where
  data_eq : data = memoPrefix ++ (joinFields fields ++ tail)
  count : fields.length = 7
  digits : ∀ field ∈ fields, field.length = 64 ∧ ∀ digit ∈ field, IsHexDigit digit
  canonical : ∀ field ∈ fields, isCanonicalBn254Scalar (hexWord field) = true
  payload : tail ≠ [] ∧ tail.all isBase64UrlByte = true

theorem splitFields_eq_some {count : Nat} :
    splitFields count data = some (fields, rest) ↔
      fields.length = count ∧ (∀ field ∈ fields, field.length = 64) ∧
        data = joinFields fields ++ rest := by
  induction count generalizing data fields rest with
  | zero =>
      simp only [splitFields, Option.some.injEq, Prod.mk.injEq, List.length_eq_zero_iff]
      constructor
      · rintro ⟨rfl, rfl⟩
        simp [joinFields]
      · rintro ⟨rfl, _, rfl⟩
        simp
  | succ count ih =>
      constructor
      · rw [splitFields]
        intro hsplit
        split at hsplit
        · cases hsplit
        · rename_i separator later hdrop
          simp only [Option.bind_eq_bind, Option.bind_eq_some_iff, Option.guard_eq_some', ih,
            Option.pure_def, Option.some.injEq, Prod.mk.injEq, Prod.exists] at hsplit
          obtain ⟨_, rfl, others, _, ⟨hcount, hsizes, hlater⟩, rfl, rfl⟩ := hsplit
          have hsize : (data.take 64).length = 64 := by
            have hdropped := congrArg List.length hdrop
            simp only [List.length_drop, List.length_cons] at hdropped
            rw [List.length_take]
            omega
          refine ⟨by simp [hcount], List.forall_mem_cons.mpr ⟨hsize, hsizes⟩, ?_⟩
          calc data = data.take 64 ++ data.drop 64 := (List.take_append_drop 64 data).symm
            _ = joinFields (data.take 64 :: others) ++ _ := by
              rw [hdrop, hlater]
              simp [joinFields, colon]
      · rintro ⟨hcount, hsizes, rfl⟩
        cases fields with
        | nil => cases hcount
        | cons field others =>
            obtain ⟨hsize, hsizes⟩ := List.forall_mem_cons.mp hsizes
            have hothers : splitFields count (joinFields others ++ rest) = some (others, rest) :=
              ih.mpr ⟨Nat.succ.inj hcount, hsizes, rfl⟩
            have hjoin : joinFields (field :: others) ++ rest =
                field ++ colon :: (joinFields others ++ rest) := by
              simp [joinFields]
            rw [hjoin, splitFields, List.drop_left' hsize, List.take_left' hsize]
            simp [hothers, colon]

theorem mapM_decodeHex32_eq_some :
    fields.mapM decodeHex32 = some bindings ↔
      (∀ field ∈ fields, field.length = 64 ∧ ∀ digit ∈ field, IsHexDigit digit) ∧
        bindings = fields.map hexWord := by
  induction fields generalizing bindings with
  | nil => simp [eq_comm]
  | cons field others ih =>
      simp only [List.mapM_cons, Option.bind_eq_bind, Option.bind_eq_some_iff,
        decodeHex32_eq_some, ih, Option.pure_def, Option.some.injEq, List.forall_mem_cons,
        List.map_cons]
      constructor
      · rintro ⟨_, ⟨hsize, hdigits, rfl⟩, _, ⟨hothers, rfl⟩, rfl⟩
        exact ⟨⟨⟨hsize, hdigits⟩, hothers⟩, rfl⟩
      · rintro ⟨⟨⟨hsize, hdigits⟩, hothers⟩, rfl⟩
        exact ⟨_, ⟨hsize, hdigits, rfl⟩, _, ⟨hothers, rfl⟩, rfl⟩

theorem length_joinFields (hsizes : ∀ field ∈ fields, field.length = 64) :
    (joinFields fields).length = 65 * fields.length := by
  induction fields with
  | nil => rfl
  | cons field others ih =>
      obtain ⟨hsize, hsizes⟩ := List.forall_mem_cons.mp hsizes
      have hjoin : joinFields (field :: others) = field ++ colon :: joinFields others := by
        simp [joinFields]
      rw [hjoin, List.length_append, List.length_cons, ih hsizes, hsize, List.length_cons]
      omega

/-- What the program accepts as a memo, and what it reads from it. -/
theorem parseMemo_iff_wellFormedMemo :
    parseMemo data = .ok bindings ↔
      ∃ fields tail, WellFormedMemo data fields tail ∧ bindings = fields.map hexWord := by
  rw [parseMemo_eq_ok]
  simp only [memoBindings, Option.bind_eq_bind, Option.bind_eq_some_iff, Option.guard_eq_some',
    Option.pure_def, Option.some.injEq, Prod.exists, splitFields_eq_some,
    mapM_decodeHex32_eq_some]
  constructor
  · rintro ⟨_, _, _, hstart, fields, tail, ⟨hcount, _, hdata⟩, _, hpayload, _,
      ⟨hdigits, rfl⟩, _, hcanonical, rfl⟩
    rw [List.all_map, List.all_eq_true] at hcanonical
    refine ⟨fields, tail, ⟨?_, hcount, hdigits, hcanonical, hpayload⟩, rfl⟩
    calc data = data.take memoPrefix.length ++ data.drop memoPrefix.length :=
          (List.take_append_drop memoPrefix.length data).symm
      _ = memoPrefix ++ (joinFields fields ++ tail) := by rw [hstart, hdata]
  · rintro ⟨fields, tail, hmemo, rfl⟩
    have hsizes : ∀ field ∈ fields, field.length = 64 :=
      fun field hfield => (hmemo.digits field hfield).1
    have hlength := length_joinFields hsizes
    have hpayload : 0 < tail.length := List.length_pos_iff.mpr hmemo.payload.1
    have hcanonical : (fields.map hexWord).all isCanonicalBn254Scalar = true := by
      rw [List.all_map, List.all_eq_true]
      exact hmemo.canonical
    refine ⟨(), ?_, (), ?_, fields, tail, ⟨hmemo.count, hsizes, ?_⟩, (), hmemo.payload, _,
      ⟨hmemo.digits, rfl⟩, (), hcanonical, rfl⟩
    · rw [hmemo.data_eq, List.length_append, List.length_append, hlength, hmemo.count]
      omega
    · rw [hmemo.data_eq, List.take_left]
    · rw [hmemo.data_eq, List.drop_left]

end Format

end TsnProtocol.Gpru.MemoFormat
