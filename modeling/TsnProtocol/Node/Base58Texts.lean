import TsnProtocol.Node.SolanaPubkey
import TsnProtocol.Sdk.Base58

/-!
The base-58 encoders of the Node and of the SDK against the standard text. All of them write one
digit for the number zero, which the standard text does not have.
-/

namespace TsnProtocol.Node.Base58Texts

open Lib.Base58
open Lib.ByteReader
open Lib.Checked
open Lib.PythonText (stripText trimmed_eq_self)
open Lib.TextFormat
open Lib.Utf16 (points textOf_points)
open Node.SolanaPubkey

/-- The decoder that the Node has twice. -/
def decodeText (value : Text) : Except String (List Byte) :=
  okOr (ThresholdAccess.decodeBase58 (points value)) "Invalid base58 value"

/-- `encode_base58` of `app/utils/encoding.py`. -/
def encodingEncodeBase58 (data : List Byte) : Text :=
  encodeBytes data

def encodingDecodeBase58 (value : Text) : Except String (List Byte) :=
  decodeText value

/-- `encode_base58` of `server.py`. -/
def serverEncodeBase58 (data : List Byte) : Text :=
  encodeBytes data

def serverDecodeBase58 (value : Text) : Except String (List Byte) :=
  decodeText value

/-- The encoder writes the standard text, and the decoder reads it back. -/
def Exact (encode : List Byte → Text) (decode : Text → Except String (List Byte))
    (data : List Byte) : Prop :=
  encode data = standardText data ∧ decode (encode data) = .ok data

section Decoding

theorem decodeBase58_standardText (data : List Byte) :
    ThresholdAccess.decodeBase58 (points (standardText data)) = some data := by
  have hdigits : (standardText data).mapM ThresholdAccess.base58Alphabet.idxOf? =
      some (List.replicate (leadingZeros data) 0 ++
        (Nat.digits 58 (beValue data)).reverse) := mapM_standardText data
  rw [ThresholdAccess.decodeBase58, textOf_points]
  simp only [Option.bind_eq_bind, Option.bind_some, hdigits, length_takeWhile_standardText]
  have hvalue := digitsValue_standard data
  rw [digitsValue] at hvalue
  rw [hvalue]
  exact congrArg some (replicate_append_minimalBytes data)

theorem decodeText_standardText (data : List Byte) :
    decodeText (standardText data) = .ok data := by
  rw [decodeText, decodeBase58_standardText]
  rfl

theorem standardText_ne_nil {data : List Byte} (hdata : data ≠ []) : standardText data ≠ [] := by
  intro htext
  rw [standardText, List.append_eq_nil_iff, digitText_eq_nil_iff, List.replicate_eq_nil_iff]
    at htext
  have hbytes := replicate_append_minimalBytes data
  rw [htext.1, htext.2] at hbytes
  exact hdata hbytes.symm

theorem decodeBase58_of_ne_nil {data : List Byte} (hdata : data ≠ []) :
    decodeBase58 (standardText data) = .ok data := by
  rw [decodeBase58, bind_eq_ok]
  refine ⟨(), require_eq_ok.mpr (standardText_ne_nil hdata), ?_⟩
  show okOr _ _ = _
  rw [decodeBase58_standardText]
  rfl

/-- Zeros are written as one zero more. -/
theorem encodeBytes_zeros {data : List Byte} (hzero : beValue data = 0) :
    encodeBytes data = standardText (0 :: data) := by
  have hmore : beValue (0 :: data) = 0 := by
    rw [beValue_eq_zero_iff] at hzero ⊢
    exact List.forall_mem_cons.mpr ⟨rfl, hzero⟩
  have hcount : leadingZeros (0 :: data) = leadingZeros data + 1 := by
    rw [leadingZeros, List.takeWhile_cons_of_pos rfl]
    rfl
  rw [encodeBytes_eq, if_pos hzero, standardText, standardText, hcount, hmore, hzero,
    List.replicate_succ', List.append_assoc, List.append_assoc]
  rfl

theorem encodeBytes_nonzero {data : List Byte} (hnonzero : beValue data ≠ 0) :
    encodeBytes data = standardText data := by
  rw [encodeBytes_eq, if_neg hnonzero, List.append_nil]

theorem beValue_ne_zero_iff {data : List Byte} : beValue data ≠ 0 ↔ ∃ byte ∈ data, byte ≠ 0 := by
  rw [Ne, beValue_eq_zero_iff]
  push Not
  rfl

theorem ne_nil_of_beValue {data : List Byte} (hnonzero : beValue data ≠ 0) : data ≠ [] := by
  rintro rfl
  exact hnonzero rfl

end Decoding

section Keys

/-- A base-58 text has no blanks to strip. -/
theorem stripText_standardText (data : List Byte) :
    stripText (standardText data) = standardText data := by
  have hall : ∀ character ∈ alphabet, Lib.PythonText.isSpace character = false := by
    decide +kernel
  have halphabet : ∀ digit, digitChar digit ∈ alphabet := by
    intro digit
    rw [digitChar, List.getD_eq_getElem?_getD]
    by_cases hdigit : digit < alphabet.length
    · rw [List.getElem?_eq_getElem hdigit]
      exact List.getElem_mem hdigit
    · rw [List.getElem?_eq_none (not_lt.mp hdigit)]
      decide
  refine trimmed_eq_self fun character hcharacter => hall character ?_
  rcases List.mem_append.mp hcharacter with hone | hdigit
  · rw [List.eq_of_mem_replicate hone]
    decide
  · obtain ⟨digit, -, rfl⟩ := List.mem_map.mp hdigit
    exact halphabet digit

theorem fromString_standardText {data : List Byte} (hdata : data ≠ []) :
    PublicKey.fromString (standardText data) =
      (require (data.length = 32) "public key must decode to 32 bytes" >>= fun _ =>
        PublicKey.new data) := by
  rw [PublicKey.fromString, stripText_standardText, decodeBase58_of_ne_nil hdata]
  rfl

/-- A key is read back from its text unless all of its bytes are zero. -/
theorem fromString_str_iff (key : PublicKey) :
    PublicKey.fromString key.str = .ok key ↔ ∃ byte ∈ key.bytes, byte ≠ 0 := by
  rw [PublicKey.str, encodeBase58, ← beValue_ne_zero_iff]
  constructor
  · intro hread hzero
    rw [encodeBytes_zeros hzero, fromString_standardText (List.cons_ne_nil _ _), bind_eq_ok]
      at hread
    obtain ⟨done, hsize, -⟩ := hread
    rw [require_eq_ok, List.length_cons, key.size] at hsize
    exact absurd hsize (by decide)
  · intro hnonzero
    rw [encodeBytes_nonzero hnonzero, fromString_standardText (ne_nil_of_beValue hnonzero),
      bind_eq_ok]
    exact ⟨(), require_eq_ok.mpr key.size, dif_pos key.size⟩

end Keys

section Encoders

variable (data : List Byte)

/-- What the encoders of the Node write is exact unless all bytes are zero. -/
theorem exact_encodeBytes_iff {decode : Text → Except String (List Byte)}
    (hdecode : data ≠ [] → decode (standardText data) = .ok data) :
    Exact encodeBytes decode data ↔ ∃ byte ∈ data, byte ≠ 0 := by
  rw [Exact, encodeBytes_eq_standardText_iff, and_iff_left_iff_imp]
  intro hbyte
  have hnonzero := beValue_ne_zero_iff.mpr hbyte
  rw [encodeBytes_nonzero hnonzero]
  exact hdecode (ne_nil_of_beValue hnonzero)

theorem exact_sdk_iff :
    Exact Sdk.Base58.encodeBase58 decodeText data ↔ data = [] ∨ ∃ byte ∈ data, byte ≠ 0 := by
  rw [Exact, Sdk.Base58.encodeBase58_eq_standardText_iff, beValue_ne_zero_iff,
    and_iff_left_iff_imp]
  intro hdata
  rw [(Sdk.Base58.encodeBase58_eq_standardText_iff data).mpr
    (hdata.imp_right beValue_ne_zero_iff.mpr)]
  exact decodeText_standardText data

end Encoders

/-- The encoders and the text of a key are exact for every byte string with a byte that is not
zero, and, but for the empty string in the SDK, for no other. -/
theorem base58_exact_iff (key : PublicKey) (data : List Byte) :
    (PublicKey.fromString key.str = .ok key ↔ ∃ byte ∈ key.bytes, byte ≠ 0) ∧
    (Exact encodeBase58 decodeBase58 data ↔ ∃ byte ∈ data, byte ≠ 0) ∧
    (Exact encodingEncodeBase58 encodingDecodeBase58 data ↔ ∃ byte ∈ data, byte ≠ 0) ∧
    (Exact serverEncodeBase58 serverDecodeBase58 data ↔ ∃ byte ∈ data, byte ≠ 0) ∧
    (Exact Sdk.Base58.encodeBase58 encodingDecodeBase58 data ↔
      data = [] ∨ ∃ byte ∈ data, byte ≠ 0) :=
  ⟨fromString_str_iff key, exact_encodeBytes_iff data decodeBase58_of_ne_nil,
    exact_encodeBytes_iff data fun _ => decodeText_standardText data,
    exact_encodeBytes_iff data fun _ => decodeText_standardText data,
    exact_sdk_iff data⟩

/-- The key of the system program. -/
def systemProgram : PublicKey where
  bytes := List.replicate 32 0
  size := rfl

/-- The key of the system program is written with 33 ones, which are refused. -/
theorem systemProgram_refused :
    systemProgram.str = List.replicate 33 '1' ∧
      PublicKey.fromString systemProgram.str = .error "public key must decode to 32 bytes" := by
  have htext : systemProgram.str = List.replicate 33 '1' := by decide +kernel
  refine ⟨htext, ?_⟩
  rw [htext]
  decide +kernel

end TsnProtocol.Node.Base58Texts
