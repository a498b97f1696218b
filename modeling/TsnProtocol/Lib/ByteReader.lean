import Mathlib
import TsnProtocol.Lib.Checked

/-!
Byte strings: numbers in a fixed count of bytes, slices at an offset, and readers that
take fields off the front of a string and stop at the first one that does not fit.
-/

namespace TsnProtocol.Lib.ByteReader

open Lib.Checked

abbrev Byte := BitVec 8

/-- The number in a byte string, lowest byte first. -/
def leValue : List Byte → Nat
  | [] => 0
  | byte :: rest => byte.toNat + 256 * leValue rest

/-- A number in `size` bytes, lowest byte first. -/
def leBytes : Nat → Nat → List Byte
  | 0, _ => []
  | size + 1, value => BitVec.ofNat 8 value :: leBytes size (value / 256)

@[simp] theorem length_leBytes (size value : Nat) : (leBytes size value).length = size := by
  induction size generalizing value with
  | zero => rfl
  | succ size ih => simp [leBytes, ih]

theorem leValue_leBytes (size value : Nat) :
    leValue (leBytes size value) = value % 256 ^ size := by
  induction size generalizing value with
  | zero => simp [leBytes, leValue, Nat.mod_one]
  | succ size ih =>
      simp only [leBytes, leValue, ih, BitVec.toNat_ofNat]
      exact (pow_succ' 256 size ▸ Nat.mod_mul).symm

theorem leBytes_leValue (bytes : List Byte) :
    leBytes bytes.length (leValue bytes) = bytes := by
  induction bytes with
  | nil => rfl
  | cons byte rest ih =>
      have hbyte := byte.isLt
      have hdiv : (byte.toNat + 256 * leValue rest) / 256 = leValue rest := by omega
      simp only [List.length_cons, leBytes, leValue, hdiv, ih]
      congr 1
      apply BitVec.eq_of_toNat_eq
      rw [BitVec.toNat_ofNat]
      omega

theorem leValue_lt (bytes : List Byte) : leValue bytes < 256 ^ bytes.length := by
  induction bytes with
  | nil => simp [leValue]
  | cons byte rest ih =>
      have hbyte := byte.isLt
      simp only [leValue, List.length_cons, pow_succ]
      omega

/-- A 256-bit word in 32 bytes, highest byte first. -/
def wordBytes (word : BitVec 256) : List Byte :=
  (leBytes 32 word.toNat).reverse

/-- The word in a byte string, highest byte first. -/
def wordOfBytes (bytes : List Byte) : BitVec 256 :=
  BitVec.ofNat 256 (leValue bytes.reverse)

@[simp] theorem length_wordBytes (word : BitVec 256) : (wordBytes word).length = 32 := by
  simp [wordBytes]

@[simp] theorem wordOfBytes_wordBytes (word : BitVec 256) :
    wordOfBytes (wordBytes word) = word := by
  apply BitVec.eq_of_toNat_eq
  have hpow : (256 : Nat) ^ 32 = 2 ^ 256 := by norm_num
  rw [wordOfBytes, wordBytes, List.reverse_reverse, leValue_leBytes, hpow,
    BitVec.toNat_ofNat, Nat.mod_mod, Nat.mod_eq_of_lt word.isLt]

theorem wordBytes_wordOfBytes {bytes : List Byte} (hlength : bytes.length = 32) :
    wordBytes (wordOfBytes bytes) = bytes := by
  have hlt := leValue_lt bytes.reverse
  rw [List.length_reverse, hlength] at hlt
  have hvalue : (wordOfBytes bytes).toNat = leValue bytes.reverse := by
    rw [wordOfBytes, BitVec.toNat_ofNat, Nat.mod_eq_of_lt (lt_of_lt_of_le hlt (by norm_num))]
  have hbytes := leBytes_leValue bytes.reverse
  rw [List.length_reverse, hlength] at hbytes
  rw [wordBytes, hvalue, hbytes, List.reverse_reverse]

/-- The bytes from `offset` on, where there are `size` of them. -/
def slice (data : List Byte) (offset size : Nat) : Option (List Byte) :=
  if offset + size ≤ data.length then some ((data.drop offset).take size) else none

theorem slice_eq_some {data field : List Byte} {offset size : Nat} :
    slice data offset size = some field ↔
      offset + size ≤ data.length ∧ (data.drop offset).take size = field := by
  simp [slice]

theorem isSome_slice {data : List Byte} {offset size : Nat} :
    (slice data offset size).isSome ↔ offset + size ≤ data.length := by
  simp only [slice]
  split <;> simp_all

theorem slice_append (left right : List Byte) (offset size : Nat) :
    slice (left ++ right) (left.length + offset) size = slice right offset size := by
  have hdrop : (left ++ right).drop (left.length + offset) = right.drop offset := by
    rw [← List.drop_drop, List.drop_left]
  simp only [slice, hdrop, List.length_append, Nat.add_assoc, Nat.add_le_add_iff_left]

theorem slice_field {left field right : List Byte} {offset size : Nat}
    (hoffset : left.length = offset) (hsize : field.length = size) :
    slice (left ++ (field ++ right)) offset size = some field := by
  subst hoffset hsize
  have hslice := slice_append left (field ++ right) 0 field.length
  rw [Nat.add_zero] at hslice
  rw [hslice, slice_eq_some]
  simp

/-- The bytes from `start` to `stop`, of data that is long enough. -/
def between (data : List Byte) (start stop : Nat) : List Byte :=
  (data.drop start).take (stop - start)

theorem length_between {data : List Byte} {start stop : Nat} (hstop : stop ≤ data.length) :
    (between data start stop).length = stop - start := by
  simp only [between, List.length_take, List.length_drop]
  omega

theorem between_append_drop {data : List Byte} {start stop : Nat} (hstart : start ≤ stop) :
    between data start stop ++ data.drop stop = data.drop start := by
  have hdrop : data.drop stop = (data.drop start).drop (stop - start) := by
    rw [List.drop_drop, Nat.add_sub_cancel' hstart]
  rw [between, hdrop, List.take_append_drop]

/-- A field at the front of what is left of the data. -/
theorem between_of_drop {data field rest : List Byte} {start size : Nat}
    (hdrop : data.drop start = field ++ rest) (hsize : field.length = size) :
    between data start (start + size) = field ∧ data.drop (start + size) = rest := by
  constructor
  · rw [between, hdrop, Nat.add_sub_cancel_left, List.take_left' hsize]
  · rw [← List.drop_drop, hdrop, List.drop_left' hsize]

/-- A number in two bytes at an offset, lowest byte first. -/
def u16At (data : List Byte) (offset : Nat) : Option Nat :=
  (slice data offset 2).map leValue

theorem u16At_append_left {left : List Byte} {offset : Nat} (hoffset : offset + 2 ≤ left.length)
    (right : List Byte) : u16At (left ++ right) offset = u16At left offset := by
  have hfits : offset + 2 ≤ (left ++ right).length := by
    rw [List.length_append]
    omega
  have hdrop : (left ++ right).drop offset = left.drop offset ++ right :=
    List.drop_append_of_le_length (by omega)
  simp only [u16At, slice, if_pos hoffset, if_pos hfits, hdrop]
  rw [List.take_append_of_le_length (by rw [List.length_drop]; omega)]

theorem isSome_u16At {data : List Byte} {offset : Nat} :
    (u16At data offset).isSome ↔ offset + 2 ≤ data.length := by
  rw [u16At, Option.isSome_map, isSome_slice]

/-- A number in `size` bytes, highest byte first. -/
def beBytes (size value : Nat) : List Byte :=
  (leBytes size value).reverse

def beValue (bytes : List Byte) : Nat :=
  leValue bytes.reverse

@[simp] theorem length_beBytes (size value : Nat) : (beBytes size value).length = size := by
  simp [beBytes]

theorem beValue_lt (bytes : List Byte) : beValue bytes < 256 ^ bytes.length := by
  have hlt := leValue_lt bytes.reverse
  rwa [List.length_reverse] at hlt

theorem beBytes_beValue {bytes : List Byte} {size : Nat} (hsize : bytes.length = size) :
    beBytes size (beValue bytes) = bytes := by
  have hbytes := leBytes_leValue bytes.reverse
  rw [List.length_reverse, hsize] at hbytes
  rw [beBytes, beValue, hbytes, List.reverse_reverse]

theorem beValue_beBytes {size value : Nat} (hvalue : value < 256 ^ size) :
    beValue (beBytes size value) = value := by
  rw [beBytes, beValue, List.reverse_reverse, leValue_leBytes, Nat.mod_eq_of_lt hvalue]

section Indices

variable {Error : Type} {fault : Error} {data bytes : List Byte} {start stop index : Nat}

/-- The byte at an index, or a fault where there is none. -/
def byteAt (fault : Error) (data : List Byte) (index : Nat) : Except Error Byte :=
  okOr data[index]? fault

/-- The bytes from `start` to `stop`, or a fault where there are not that many. -/
def bytesBetween (fault : Error) (data : List Byte) (start stop : Nat) :
    Except Error (List Byte) := do
  require (start ≤ stop ∧ stop ≤ data.length) fault
  return (data.drop start).take (stop - start)

theorem byteAt_eq_ok {byte : Byte} :
    byteAt fault data index = .ok byte ↔ data[index]? = some byte := by
  simp [byteAt]

theorem avoids_byteAt (hindex : index < data.length) :
    Avoids fault (byteAt fault data index) := by
  apply avoids_okOr_of_isSome
  simpa using hindex

theorem bytesBetween_eq_ok :
    bytesBetween fault data start stop = .ok bytes ↔
      (start ≤ stop ∧ stop ≤ data.length) ∧ (data.drop start).take (stop - start) = bytes := by
  simp [bytesBetween]

theorem avoids_bytesBetween (hstart : start ≤ stop) (hstop : stop ≤ data.length) :
    Avoids fault (bytesBetween fault data start stop) := by
  simp [bytesBetween, Avoids, require, hstart, hstop]

/-- What is read at an index stands in front of what follows it. -/
theorem drop_of_byteAt {byte : Byte} (hbyte : byteAt fault data index = .ok byte) :
    data.drop index = byte :: data.drop (index + 1) := by
  rw [byteAt_eq_ok, List.getElem?_eq_some_iff] at hbyte
  obtain ⟨hindex, rfl⟩ := hbyte
  exact List.drop_eq_getElem_cons hindex

theorem drop_of_bytesBetween (hbytes : bytesBetween fault data start stop = .ok bytes) :
    data.drop start = bytes ++ data.drop stop ∧ bytes.length = stop - start := by
  obtain ⟨⟨hstart, hstop⟩, rfl⟩ := bytesBetween_eq_ok.mp hbytes
  constructor
  · nth_rewrite 2 [← Nat.add_sub_cancel' hstart]
    rw [← List.drop_drop, List.take_append_drop]
  · rw [List.length_take, List.length_drop]
    omega

end Indices

/-- The lowercase hexadecimal digit of a nibble. -/
def hexDigit (nibble : Nat) : Byte :=
  BitVec.ofNat 8 (if nibble < 10 then 48 + nibble else 87 + nibble)

/-- A byte string in lowercase hexadecimal. -/
def hexBytes (bytes : List Byte) : List Byte :=
  bytes.flatMap fun byte => [hexDigit (byte.toNat / 16), hexDigit (byte.toNat % 16)]

section Readers

variable {Error α β : Type}

/-- Takes a value off the front of a byte string, or stops with an error. -/
abbrev Reader (Error α : Type) := StateT (List Byte) (Except Error) α

/-- The next `size` bytes. -/
def take (size : Nat) (problem : Error) : Reader Error (List Byte) := fun input =>
  if size ≤ input.length then .ok (input.take size, input.drop size) else .error problem

theorem take_eq_ok {size : Nat} {problem : Error} {input field rest : List Byte} :
    take size problem input = .ok (field, rest) ↔
      input = field ++ rest ∧ field.length = size := by
  simp only [take]
  split
  · rename_i hsize
    constructor
    · intro htake
      simp only [Except.ok.injEq, Prod.mk.injEq] at htake
      obtain ⟨rfl, rfl⟩ := htake
      exact ⟨(List.take_append_drop _ _).symm, by simpa using hsize⟩
    · rintro ⟨rfl, rfl⟩
      simp
  · rename_i hsize
    constructor
    · nofun
    · rintro ⟨rfl, rfl⟩
      simp at hsize

theorem reader_bind_eq_ok {first : Reader Error α} {rest : α → Reader Error β}
    {input remaining : List Byte} {result : β} :
    (first >>= rest) input = .ok (result, remaining) ↔
      ∃ value middle, first input = .ok (value, middle) ∧
        rest value middle = .ok (result, remaining) := by
  constructor
  · intro hbind
    obtain ⟨⟨value, middle⟩, hfirst, hrest⟩ := bind_eq_ok.mp hbind
    exact ⟨value, middle, hfirst, hrest⟩
  · rintro ⟨value, middle, hfirst, hrest⟩
    exact bind_eq_ok.mpr ⟨(value, middle), hfirst, hrest⟩

/-- The reader takes exactly `bytes` off any string that starts with them, and returns
`value`. -/
def Reads (reader : Reader Error α) (bytes : List Byte) (value : α) : Prop :=
  ∀ rest, reader (bytes ++ rest) = .ok (value, rest)

theorem reads_take {size : Nat} {problem : Error} {field : List Byte}
    (hlength : field.length = size) : Reads (take size problem) field field := by
  intro rest
  exact take_eq_ok.mpr ⟨rfl, hlength⟩

theorem reads_pure {value : α} : Reads (pure value : Reader Error α) [] value := by
  intro rest
  rfl

theorem reads_bind {first : Reader Error α} {rest : α → Reader Error β}
    {bytes more : List Byte} {value : α} {result : β} (hfirst : Reads first bytes value)
    (hrest : Reads (rest value) more result) :
    Reads (first >>= rest) (bytes ++ more) result := by
  intro remaining
  rw [List.append_assoc]
  exact reader_bind_eq_ok.mpr ⟨value, more ++ remaining, hfirst _, hrest _⟩

theorem reads_bind_pure {reader : Reader Error α} {change : α → β} {bytes : List Byte}
    {value : α} (hreader : Reads reader bytes value) :
    Reads (reader >>= fun value => pure (change value)) bytes (change value) := by
  rw [← List.append_nil bytes]
  exact reads_bind hreader reads_pure

theorem reads_map {reader : Reader Error α} {change : α → β} {bytes : List Byte} {value : α}
    (hreader : Reads reader bytes value) :
    Reads (change <$> reader) bytes (change value) := by
  intro rest
  have hrun := hreader rest
  simp only [Functor.map, StateT.map] at hrun ⊢
  rw [hrun]
  rfl

/-- The next byte. -/
def takeByte (problem : Error) : Reader Error Byte
  | [] => .error problem
  | byte :: rest => .ok (byte, rest)

/-- The next number of `size` bytes, lowest byte first. -/
def takeNat (size : Nat) (problem : Error) : Reader Error Nat :=
  leValue <$> take size problem

/-- The next 32 bytes as a word. -/
def takeWord (problem : Error) : Reader Error (BitVec 256) :=
  wordOfBytes <$> take 32 problem

/-- The next byte string behind its length in four bytes. -/
def takeVec (lengthProblem problem : Error) : Reader Error (List Byte) := do
  let length ← takeNat 4 lengthProblem
  take length problem

/-- Values that the reader takes one after another. -/
def takeList (reader : Reader Error α) : Nat → Reader Error (List α)
  | 0 => pure []
  | count + 1 => do
      let value ← reader
      let values ← takeList reader count
      return value :: values

/-- The next byte as a flag. -/
def takeBool (problem : Error) : Reader Error Bool := do
  match (← takeByte problem).toNat with
  | 0 => pure false
  | 1 => pure true
  | _ => fun _ => .error problem

def boolByte (flag : Bool) : Byte :=
  if flag then 1 else 0

theorem reads_takeByte {problem : Error} {byte : Byte} :
    Reads (takeByte problem) [byte] byte := by
  intro rest
  rfl

theorem reads_takeBool {problem : Error} {flag : Bool} :
    Reads (takeBool problem) [boolByte flag] flag := by
  intro rest
  cases flag <;> rfl

theorem reads_takeNat {size value : Nat} {problem : Error} (hvalue : value < 256 ^ size) :
    Reads (takeNat size problem) (leBytes size value) value := by
  have hread : Reads (takeNat size problem) (leBytes size value) _ :=
    reads_map (reads_take (length_leBytes size value))
  rwa [leValue_leBytes, Nat.mod_eq_of_lt hvalue] at hread

theorem reads_takeWord {problem : Error} {word : BitVec 256} :
    Reads (takeWord problem) (wordBytes word) word := by
  have hread : Reads (takeWord problem) (wordBytes word) _ :=
    reads_map (reads_take (length_wordBytes word))
  rwa [wordOfBytes_wordBytes] at hread

theorem reads_takeNat_bytes {size : Nat} {problem : Error} {bytes : List Byte}
    (hsize : bytes.length = size) :
    Reads (takeNat size problem) bytes (leValue bytes) :=
  reads_map (reads_take hsize)

theorem reads_takeWord_bytes {problem : Error} {bytes : List Byte}
    (hsize : bytes.length = 32) : Reads (takeWord problem) bytes (wordOfBytes bytes) :=
  reads_map (reads_take hsize)

theorem takeBool_eq_ok {problem : Error} {input rest : List Byte} {flag : Bool}
    (hread : takeBool problem input = .ok (flag, rest)) : input = boolByte flag :: rest := by
  rcases input with _ | ⟨byte, input⟩
  · cases hread
  · rcases reader_bind_eq_ok.mp hread with ⟨value, middle, hbyte, hflag⟩
    cases hbyte
    rcases hvalue : byte.toNat with _ | _ | value
    · simp only [hvalue] at hflag
      cases hflag
      exact congrArg (· :: rest) (BitVec.eq_of_toNat_eq hvalue)
    · simp only [hvalue] at hflag
      cases hflag
      exact congrArg (· :: rest) (BitVec.eq_of_toNat_eq hvalue)
    · simp only [hvalue] at hflag
      cases hflag

theorem reads_takeVec {lengthProblem problem : Error} {bytes : List Byte}
    (hlength : bytes.length < 2 ^ 32) :
    Reads (takeVec lengthProblem problem) (leBytes 4 bytes.length ++ bytes) bytes :=
  reads_bind (reads_takeNat (lt_of_lt_of_eq hlength (by norm_num))) (reads_take rfl)

section Offsets

variable {problem : Error} {data bytes rest : List Byte} {offset size : Nat}

/-- Reading from an offset on. -/
theorem take_drop_eq_ok (hsize : 0 < size) :
    take size problem (data.drop offset) = .ok (bytes, rest) ↔
      offset + size ≤ data.length ∧ (data.drop offset).take size = bytes ∧
        data.drop (offset + size) = rest := by
  simp only [take, List.length_drop, List.drop_drop]
  split
  · rename_i hfits
    have hfits' : offset + size ≤ data.length := by omega
    simp [hfits']
  · rename_i hfits
    have hfits' : ¬ offset + size ≤ data.length := by omega
    simp [hfits']

theorem map_take_drop_eq_ok {change : List Byte → β} {value : β} (hsize : 0 < size) :
    (change <$> take size problem) (data.drop offset) = .ok (value, rest) ↔
      offset + size ≤ data.length ∧ change ((data.drop offset).take size) = value ∧
        data.drop (offset + size) = rest := by
  constructor
  · intro hread
    simp only [Functor.map, StateT.map] at hread
    rcases bind_eq_ok.mp hread with ⟨⟨bytes, rest'⟩, htake, hpure⟩
    rcases (take_drop_eq_ok hsize).mp htake with ⟨hfits, hbytes, hrest⟩
    cases hpure
    exact ⟨hfits, by rw [hbytes], hrest⟩
  · rintro ⟨hfits, rfl, rfl⟩
    have htake : take size problem (data.drop offset) =
        .ok ((data.drop offset).take size, data.drop (offset + size)) :=
      (take_drop_eq_ok hsize).mpr ⟨hfits, rfl, rfl⟩
    simp only [Functor.map, StateT.map]
    rw [htake]
    rfl

theorem takeNat_drop_eq_ok {value : Nat} (hsize : 0 < size) :
    takeNat size problem (data.drop offset) = .ok (value, rest) ↔
      offset + size ≤ data.length ∧ leValue ((data.drop offset).take size) = value ∧
        data.drop (offset + size) = rest :=
  map_take_drop_eq_ok hsize

theorem takeWord_drop_eq_ok {word : BitVec 256} :
    takeWord problem (data.drop offset) = .ok (word, rest) ↔
      offset + 32 ≤ data.length ∧ wordOfBytes ((data.drop offset).take 32) = word ∧
        data.drop (offset + 32) = rest :=
  map_take_drop_eq_ok (by decide)

theorem reader_pure_eq_ok {value result : α} {input : List Byte} :
    (pure value : Reader Error α) input = .ok (result, rest) ↔
      value = result ∧ input = rest := by
  constructor
  · intro hpure
    cases hpure
    exact ⟨rfl, rfl⟩
  · rintro ⟨rfl, rfl⟩
    rfl

end Offsets

end Readers

section Writing

variable {data bytes : List Byte} {size offset : Nat}

/-- The data in `size` bytes: cut off, or filled up with zeros. -/
def resize (data : List Byte) (size : Nat) : List Byte :=
  data.take size ++ List.replicate (size - data.length) 0

/-- `copy_from_slice` at an offset. -/
def writeAt (data : List Byte) (offset : Nat) (bytes : List Byte) : List Byte :=
  data.take offset ++ (bytes ++ data.drop (offset + bytes.length))

/-- A write right behind what has been written. -/
theorem writeAt_next {left rest : List Byte} (hoffset : left.length = offset)
    (hsize : bytes.length = size) :
    writeAt (left ++ rest) offset bytes = (left ++ bytes) ++ rest.drop size := by
  rw [writeAt, List.take_left' hoffset, ← List.drop_drop, List.drop_left' hoffset, hsize,
    List.append_assoc]

end Writing

end TsnProtocol.Lib.ByteReader
