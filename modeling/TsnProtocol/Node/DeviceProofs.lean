import Mathlib
import TsnProtocol.Lib.Base64
import TsnProtocol.Node.ThresholdAccess

/-!
The SDK's canonical fields beside the Node's, and which device proofs of the SDK the Node
accepts.
-/

namespace TsnProtocol.Node.DeviceProofs

open Lib.Base64
open Lib.ByteReader
open Lib.Checked
open Lib.TextFormat
open Lib.Utf16
open Lib.Utf8
open Node.ThresholdAccess
open Sdk.DeviceAccess hiding canonicalFields

/-- No half of a pair, hence no pair: a code unit for each code point. -/
def Plain (string : JsString) : Prop :=
  ∀ unit ∈ string, ¬ IsSurrogate unit

section Encoders

/-- A field behind its length in code units, as code points. -/
theorem codePoints_field (size : Nat) (field rest : JsString) :
    codePoints (units (decimal size) ++ (js ":" ++ field) ++ rest) =
      points (decimal size) ++ .char ':' :: codePoints (field ++ rest) := by
  have hcolon : ¬ IsSurrogate (BitVec.ofNat 16 58) := by decide
  have hsplit : units (decimal size) ++ (js ":" ++ field) ++ rest =
      units (decimal size) ++ BitVec.ofNat 16 58 :: (field ++ rest) := by
    rw [List.append_assoc, List.append_assoc]
    rfl
  rw [hsplit, codePoints_append_plain hcolon, codePoints_units, codePoints_cons_plain hcolon]
  rfl

theorem codePoints_joined (fields : List JsString) :
    codePoints ((js "|").intercalate (fields.map fun field =>
        units (decimal field.length) ++ (js ":" ++ field))) =
      joined (fields.map fun field => prefixed field.length (codePoints field)) := by
  have hbar : ¬ IsSurrogate (BitVec.ofNat 16 124) := by decide
  induction fields with
  | nil => rfl
  | cons field fields ih =>
      rcases fields with _ | ⟨next, fields⟩
      · have hfield := codePoints_field field.length field []
        rw [List.append_nil, List.append_nil] at hfield
        simp only [List.map_cons, List.map_nil, List.intercalate_singleton, joined, hfield]
        rfl
      · simp only [List.map_cons, List.intercalate_cons_cons, joined] at ih ⊢
        rw [List.append_assoc, codePoints_field]
        have hstep : codePoints (field ++ (js "|" ++ (js "|").intercalate
            ((units (decimal next.length) ++ (js ":" ++ next)) :: fields.map fun field =>
              units (decimal field.length) ++ (js ":" ++ field)))) =
            codePoints field ++ .char '|' :: codePoints ((js "|").intercalate
              ((units (decimal next.length) ++ (js ":" ++ next)) :: fields.map fun field =>
                units (decimal field.length) ++ (js ":" ++ field))) := by
          rw [show js "|" = [BitVec.ofNat 16 124] from rfl, List.singleton_append,
            codePoints_append_plain hbar, codePoints_cons_plain hbar]
          rfl
        rw [hstep, ih]
        simp only [prefixed, List.append_assoc, List.cons_append, List.nil_append]

theorem canonicalFields_eq (fields : List PyString) :
    canonicalFields fields =
      encodeStrict (joined (fields.map fun field => prefixed field.length field)) :=
  rfl

theorem sdk_canonicalFields_eq (fields : List JsString) :
    Sdk.DeviceAccess.canonicalFields fields = encodeReplacing
      (joined (fields.map fun field => prefixed field.length (codePoints field))) := by
  rw [Sdk.DeviceAccess.canonicalFields, textEncode, codePoints_joined]

/-- Where the Node gets the SDK's bytes from fields as long as these, its fields are the SDK's,
and the SDK's have a unit for each code point. -/
theorem fields_of_canonicalFields {fields : List JsString} {received : List PyString}
    (hlengths : List.Forall₂ (fun field string => (codePoints field).length = string.length)
      fields received)
    (hsame : canonicalFields received = some (Sdk.DeviceAccess.canonicalFields fields)) :
    List.Forall₂ (fun field string => (codePoints field).map replaced = string ∧
      field.length = string.length) fields received := by
  rw [canonicalFields_eq, sdk_canonicalFields_eq] at hsame
  obtain ⟨text, hreceived, hbytes⟩ := encodeStrict_eq_some.mp hsame
  obtain ⟨text', hfields, hencoded⟩ := encodeReplacing_eq
    (joined (fields.map fun field => prefixed field.length (codePoints field)))
  obtain rfl := encodeUtf8_injective (hbytes.symm.trans hencoded)
  rw [map_replaced_joined, List.map_map, ← hreceived] at hfields
  have hpairs : (fields.map fun field => (field.length, (codePoints field).map replaced)) =
      received.map fun string => (string.length, string) := by
    apply joined_prefixed_cancel
    · rw [List.forall₂_map_left_iff, List.forall₂_map_right_iff]
      refine hlengths.imp fun field string hlength => ?_
      rw [List.length_map, hlength]
    · rw [List.map_map, List.map_map]
      calc joined (fields.map fun field =>
              prefixed field.length ((codePoints field).map replaced))
          = joined (fields.map (List.map replaced ∘ fun field =>
              prefixed field.length (codePoints field))) := by
            refine congrArg joined (List.map_congr_left fun field _ => ?_)
            exact (map_replaced_prefixed _ _).symm
        _ = _ := hfields
  clear hsame hreceived hbytes hencoded hfields
  induction hlengths with
  | nil => exact .nil
  | cons _ _ ih =>
      obtain ⟨hfield, hrest⟩ := List.cons.inj hpairs
      obtain ⟨hsize, hcontent⟩ := Prod.mk.inj hfield
      exact .cons ⟨hcontent, hsize⟩ (ih hrest)

theorem plain_of_replaced {string : JsString}
    (hreplaced : (codePoints string).map replaced = codePoints string)
    (hlength : string.length = (codePoints string).length) : Plain string := by
  have hchars : ∀ points' : List CodePoint, points'.map replaced = points' →
      ∃ text, points' = points text := by
    intro points' hsame
    induction points' with
    | nil => exact ⟨[], rfl⟩
    | cons point points' ih =>
        obtain ⟨hpoint, hrest⟩ := List.cons.inj hsame
        obtain ⟨text, rfl⟩ := ih hrest
        rcases point with character | unit
        · exact ⟨character :: text, rfl⟩
        · cases hpoint
  obtain ⟨text, htext⟩ := hchars _ hreplaced
  exact plain_of_length htext hlength.symm

/-- Texts behind any sizes, joined, are a text. -/
theorem joined_points {α : Type} (size : α → Nat) (content : α → List CodePoint)
    {fields : List α} (hcontent : ∀ field ∈ fields, ∃ text, content field = points text) :
    ∃ text, joined (fields.map fun field => prefixed (size field) (content field)) =
      points text := by
  obtain ⟨text, htext, -⟩ := encodeReplacing_eq
    (joined (fields.map fun field => prefixed (size field) (content field)))
  refine ⟨text, ?_⟩
  rw [← htext, map_replaced_joined, List.map_map]
  refine congrArg joined (List.map_congr_left fun field hfield => ?_)
  obtain ⟨content', hpoints⟩ := hcontent field hfield
  rw [Function.comp_apply, map_replaced_prefixed, hpoints, map_replaced_points]

/-- The Node gets the SDK's bytes exactly from fields without surrogates. -/
theorem canonicalFields_agree_iff (fields : List JsString) :
    canonicalFields (fields.map codePoints) = some (Sdk.DeviceAccess.canonicalFields fields) ↔
      ∀ field ∈ fields, Plain field := by
  constructor
  · intro hsame
    have hlengths : List.Forall₂ (fun field string => (codePoints field).length = string.length)
        fields (fields.map codePoints) := by
      rw [List.forall₂_map_right_iff]
      exact List.forall₂_same.mpr fun _ _ => rfl
    have hfields := fields_of_canonicalFields hlengths hsame
    rw [List.forall₂_map_right_iff, List.forall₂_same] at hfields
    exact fun field hfield => plain_of_replaced (hfields field hfield).1 (hfields field hfield).2
  · intro hplain
    have hpoints : ∀ field ∈ fields, ∃ text, codePoints field = points text ∧
        (codePoints field).length = field.length := by
      intro field hfield
      refine ⟨_, codePoints_of_plain (hplain field hfield), ?_⟩
      rw [codePoints_of_plain (hplain field hfield), points, List.length_map, List.length_map]
    have hsame : joined ((fields.map codePoints).map fun field => prefixed field.length field) =
        joined (fields.map fun field => prefixed field.length (codePoints field)) := by
      rw [List.map_map]
      refine congrArg joined (List.map_congr_left fun field hfield => ?_)
      obtain ⟨text, -, hlength⟩ := hpoints field hfield
      rw [Function.comp_apply, hlength]
    obtain ⟨text, htext⟩ := joined_points (fun field : JsString => field.length) codePoints
      fun field hfield => (hpoints field hfield).imp fun _ => And.left
    rw [canonicalFields_eq, hsame, sdk_canonicalFields_eq, htext, encodeReplacing_points,
      encodeStrict_points]

/-- How many units a code point takes. -/
def unitCount : CodePoint → Nat
  | .char character => (charUnits character).length
  | .lone _ => 1

theorem unitCount_pos (point : CodePoint) : 0 < unitCount point := by
  rcases point with character | unit
  · rw [unitCount, charUnits]
    split <;> exact Nat.succ_pos _
  · exact Nat.one_pos

theorem length_units (text : Text) : (units text).length = ((points text).map unitCount).sum := by
  rw [units, List.length_flatMap, points, List.map_map]
  rfl

/-- Lists of texts have different bytes, as the SDK writes them. -/
theorem sdk_canonicalFields_injective :
    Function.Injective fun fields : List Text =>
      Sdk.DeviceAccess.canonicalFields (fields.map units) := by
  intro first second hsame
  have hjoined : ∀ fields : List Text, ∃ text, points text =
      joined ((fields.map points).map fun field =>
        prefixed (field.map unitCount).sum field) ∧
      Sdk.DeviceAccess.canonicalFields (fields.map units) = encodeUtf8 text := by
    intro fields
    obtain ⟨text, htext⟩ := joined_points (fun text => (units text).length) points
      fun (field : Text) (_ : field ∈ fields) => ⟨field, rfl⟩
    refine ⟨text, ?_, ?_⟩
    · rw [← htext, List.map_map]
      refine congrArg joined (List.map_congr_left fun field _ => ?_)
      rw [length_units, Function.comp_apply]
    · rw [sdk_canonicalFields_eq, List.map_map, ← encodeReplacing_points, ← htext]
      refine congrArg (fun fields => encodeReplacing (joined fields))
        (List.map_congr_left fun field _ => ?_)
      rw [Function.comp_apply, codePoints_units]
  obtain ⟨text, hfirst, hbytes⟩ := hjoined first
  obtain ⟨text', hsecond, hbytes'⟩ := hjoined second
  obtain rfl := encodeUtf8_injective (hbytes.symm.trans (hsame.trans hbytes'))
  exact List.map_injective_iff.mpr points_injective
    (joined_weighed_injective unitCount_pos (hfirst.symm.trans hsecond))

theorem canonicalFields_injective :
    Function.Injective fun fields : List Text => canonicalFields (fields.map points) := by
  intro first second hsame
  have hjoined : ∀ fields : List Text, ∃ text, points text =
      joined ((fields.map points).map fun field => prefixed (field.map fun _ => 1).sum field) ∧
      canonicalFields (fields.map points) = some (encodeUtf8 text) := by
    intro fields
    obtain ⟨text, htext⟩ := joined_points List.length points
      fun (field : Text) (_ : field ∈ fields) => ⟨field, rfl⟩
    have hlengths : (fields.map points).map (fun field => prefixed field.length field) =
        fields.map fun field => prefixed field.length (points field) := by
      rw [List.map_map]
      refine List.map_congr_left fun field _ => ?_
      rw [Function.comp_apply, points, List.length_map]
    refine ⟨text, ?_, ?_⟩
    · rw [← htext, ← hlengths]
      refine congrArg joined (List.map_congr_left fun field _ => ?_)
      simp
    · rw [canonicalFields_eq, hlengths, htext, encodeStrict_points]
  obtain ⟨text, hfirst, hbytes⟩ := hjoined first
  obtain ⟨text', hsecond, hbytes'⟩ := hjoined second
  obtain rfl := encodeUtf8_injective (Option.some.inj (hbytes.symm.trans (hsame.trans hbytes')))
  exact List.map_injective_iff.mpr points_injective
    (joined_weighed_injective (fun _ => Nat.one_pos) (hfirst.symm.trans hsecond))

end Encoders

section Base64

/-- A digit of the alphabet for URLs in the standard one. -/
def standardDigit (character : Char) : Char :=
  if character = '-' then '+' else if character = '_' then '/' else character

def isStandardDigit (character : Char) : Prop :=
  character ≠ '=' ∧ (character.isAlphanum ∨ character = '+' ∨ character = '/')

theorem standardDigit_base64Digit {value : Nat} (hvalue : value < 64) :
    standardDigit (base64Digit '-' '_' value) = base64Digit '+' '/' value := by
  interval_cases value <;> decide

theorem isStandardDigit_base64Digit {value : Nat} (hvalue : value < 64) :
    isStandardDigit (base64Digit '+' '/' value) := by
  refine ⟨?_, ?_⟩ <;> interval_cases value <;> decide

/-- Digits with the padding that is missing are decoded. -/
theorem a2bBase64_padded {digits : Text} (hdigits : ∀ digit ∈ digits, isStandardDigit digit)
    (hlength : digits.length % 4 ≠ 1) :
    a2bBase64 [] 0 (digits ++ List.replicate ((4 - digits.length % 4) % 4) '=') =
      some (decodeBase64 (base64Value '+') digits) := by
  induction digits using decodeBase64.induct with
  | case1 first second third fourth rest ih =>
      simp only [List.forall_mem_cons] at hdigits
      obtain ⟨⟨hne₁, hfirst⟩, ⟨hne₂, hsecond⟩, ⟨hne₃, hthird⟩, ⟨hne₄, hfourth⟩, hrest⟩ := hdigits
      have hmod : (first :: second :: third :: fourth :: rest).length % 4 = rest.length % 4 := by
        simp only [List.length_cons]
        omega
      rw [hmod] at hlength ⊢
      simp only [List.cons_append, a2bBase64, if_neg hne₁, if_neg hne₂, if_neg hne₃, if_neg hne₄,
        if_pos hfirst, if_pos hsecond, if_pos hthird, if_pos hfourth, List.length_nil,
        List.nil_append, List.length_cons, ih hrest hlength]
      simp [decodeBase64]
  | case2 first second third =>
      simp only [List.forall_mem_cons] at hdigits
      obtain ⟨⟨hne₁, hfirst⟩, ⟨hne₂, hsecond⟩, ⟨hne₃, hthird⟩, -⟩ := hdigits
      simp [a2bBase64, hne₁, hne₂, hne₃, hfirst, hsecond, hthird]
  | case3 first second =>
      simp only [List.forall_mem_cons] at hdigits
      obtain ⟨⟨hne₁, hfirst⟩, ⟨hne₂, hsecond⟩, -⟩ := hdigits
      simp [a2bBase64, hne₁, hne₂, hfirst, hsecond, List.replicate]
  | case4 digits hfour hthree htwo =>
      rcases digits with _ | ⟨first, _ | ⟨second, _ | ⟨third, _ | ⟨fourth, rest⟩⟩⟩⟩
      · rfl
      · exact (hlength rfl).elim
      · exact (htwo _ _ rfl).elim
      · exact (hthree _ _ _ rfl).elim
      · exact (hfour _ _ _ _ _ rfl).elim

/-- The Node decodes the bytes that the SDK encodes. -/
theorem base64urlDecode_bytes (bytes : List Byte) (label : String) :
    base64urlDecode (points (bytesToBase64Url bytes)) label = .ok bytes := by
  have hdigits := @digits_stripPadding '-' '_' (by decide) (by decide) bytes
  rw [base64urlDecode, textOf_points, bytesToBase64Url]
  generalize stripPadding (base64 '-' '_' bytes) = digits at hdigits ⊢
  have hascii : isAscii digits = true := by
    refine List.all_eq_true.mpr fun digit hmem => ?_
    obtain ⟨value, hvalue, rfl⟩ := hdigits.alphabet digit hmem
    exact (by decide : ∀ value < 64, decide ((base64Digit '-' '_' value).toNat < 128) = true)
      value hvalue
  have hstandard : ∀ digit ∈ digits.map standardDigit, isStandardDigit digit := by
    intro digit hmem
    obtain ⟨source, hsource, rfl⟩ := List.mem_map.mp hmem
    obtain ⟨value, hvalue, rfl⟩ := hdigits.alphabet source hsource
    rw [standardDigit_base64Digit hvalue]
    exact isStandardDigit_base64Digit hvalue
  have hdecode : decodeBase64 (base64Value '+') (digits.map standardDigit) = bytes := by
    rw [decodeBase64_map]
    refine hdigits.decodes _ fun number hnumber => ?_
    rw [Function.comp_apply, standardDigit_base64Digit hnumber]
    exact (by decide : ∀ number < 64,
      base64Value '+' (base64Digit '+' '/' number) = number) number hnumber
  have hpadded := a2bBase64_padded hstandard (by rw [List.length_map]; exact hdigits.length)
  rw [hdecode, List.length_map] at hpadded
  have hmap : (digits ++ List.replicate ((4 - digits.length % 4) % 4) '=').map standardDigit =
      digits.map standardDigit ++ List.replicate ((4 - digits.length % 4) % 4) '=' := by
    rw [List.map_append, List.map_replicate]
    rfl
  rw [← hmap] at hpadded
  simp only [Option.bind_eq_bind, Option.bind_some, hascii, if_true]
  exact congrArg (fun decoded => okOr decoded _) hpadded

end Base64

end TsnProtocol.Node.DeviceProofs
