import TsnProtocol.Lib.Utf8

/-!
Strings of UTF-16 code units and the code points that they stand for, a half of a pair
without the other included; and fields joined behind their lengths.
-/

namespace TsnProtocol.Lib.Utf16

open Lib.ByteReader
open Lib.TextFormat
open Lib.Utf8

abbrev CodeUnit := BitVec 16

inductive CodePoint where
  | char (character : Char)
  | lone (unit : CodeUnit)
  deriving DecidableEq

def IsHigh (unit : CodeUnit) : Prop :=
  0xD800 ≤ unit.toNat ∧ unit.toNat < 0xDC00

def IsLow (unit : CodeUnit) : Prop :=
  0xDC00 ≤ unit.toNat ∧ unit.toNat < 0xE000

def IsSurrogate (unit : CodeUnit) : Prop :=
  0xD800 ≤ unit.toNat ∧ unit.toNat < 0xE000

instance (unit : CodeUnit) : Decidable (IsHigh unit) := inferInstanceAs (Decidable (_ ∧ _))
instance (unit : CodeUnit) : Decidable (IsLow unit) := inferInstanceAs (Decidable (_ ∧ _))
instance (unit : CodeUnit) : Decidable (IsSurrogate unit) := inferInstanceAs (Decidable (_ ∧ _))

/-- A unit on its own. -/
def codePoint (unit : CodeUnit) : CodePoint :=
  if IsSurrogate unit then .lone unit else .char (Char.ofNat unit.toNat)

def pairChar (high low : CodeUnit) : Char :=
  Char.ofNat (0x10000 + ((high.toNat - 0xD800) * 0x400 + (low.toNat - 0xDC00)))

def codePoints : List CodeUnit → List CodePoint
  | [] => []
  | [unit] => [codePoint unit]
  | unit :: next :: rest =>
      if IsHigh unit ∧ IsLow next then .char (pairChar unit next) :: codePoints rest
      else codePoint unit :: codePoints (next :: rest)

def charUnits (character : Char) : List CodeUnit :=
  if character.toNat < 0x10000 then [BitVec.ofNat 16 character.toNat]
  else [BitVec.ofNat 16 (0xD800 + (character.toNat - 0x10000) / 0x400),
    BitVec.ofNat 16 (0xDC00 + (character.toNat - 0x10000) % 0x400)]

/-- A text as a string of code units. -/
def units (text : Text) : List CodeUnit :=
  text.flatMap charUnits

/-- The code points of a text. -/
def points (text : Text) : List CodePoint :=
  text.map .char

/-- Bytes of UTF-8, with the replacement character for half a pair. -/
def encodeReplacing (string : List CodePoint) : List Byte :=
  string.flatMap fun
    | .char character => encodeChar character
    | .lone _ => [0xEF, 0xBF, 0xBD]

/-- Bytes of UTF-8, where every code point is a character. -/
def encodeStrict : List CodePoint → Option (List Byte)
  | [] => some []
  | .char character :: string => (encodeChar character ++ ·) <$> encodeStrict string
  | .lone _ :: _ => none

/-- The text of a string without half pairs. -/
def textOf : List CodePoint → Option Text
  | [] => some []
  | .char character :: string => (character :: ·) <$> textOf string
  | .lone _ :: _ => none

section Points

variable {unit : CodeUnit} {text : Text} {string : List CodePoint} {bytes : List Byte}

theorem points_injective : Function.Injective points :=
  List.map_injective_iff.mpr fun _ _ => CodePoint.char.inj

theorem encodeReplacing_points : encodeReplacing (points text) = encodeUtf8 text := by
  rw [encodeReplacing, points, List.flatMap_map]
  rfl

theorem encodeStrict_eq_some :
    encodeStrict string = some bytes ↔
      ∃ text, string = points text ∧ bytes = encodeUtf8 text := by
  constructor
  · intro hencode
    induction string generalizing bytes with
    | nil =>
        obtain rfl := Option.some.inj hencode
        exact ⟨[], rfl, rfl⟩
    | cons point string ih =>
        rcases point with character | unit
        · obtain ⟨rest, hrest, rfl⟩ := Option.map_eq_some_iff.mp hencode
          obtain ⟨text, rfl, rfl⟩ := ih hrest
          exact ⟨character :: text, rfl, rfl⟩
        · cases hencode
  · rintro ⟨text, rfl, rfl⟩
    induction text with
    | nil => rfl
    | cons character text ih =>
        rw [points, List.map_cons, encodeStrict, ← points, ih]
        rfl

theorem encodeStrict_points : encodeStrict (points text) = some (encodeUtf8 text) :=
  encodeStrict_eq_some.mpr ⟨text, rfl, rfl⟩

/-- The code point that is written in its place. -/
def replaced : CodePoint → CodePoint
  | .char character => .char character
  | .lone _ => .char '\uFFFD'

theorem map_replaced_points (text : Text) : (points text).map replaced = points text := by
  rw [points, List.map_map]
  rfl

theorem encodeReplacing_eq (string : List CodePoint) :
    ∃ text, string.map replaced = points text ∧ encodeReplacing string = encodeUtf8 text := by
  induction string with
  | nil => exact ⟨[], rfl, rfl⟩
  | cons point string ih =>
      obtain ⟨text, hpoints, hbytes⟩ := ih
      rcases point with character | unit
      · refine ⟨character :: text, congrArg (CodePoint.char character :: ·) hpoints, ?_⟩
        rw [encodeReplacing, List.flatMap_cons, ← encodeReplacing, hbytes]
        rfl
      · refine ⟨'\uFFFD' :: text, congrArg (CodePoint.char '\uFFFD' :: ·) hpoints, ?_⟩
        rw [encodeReplacing, List.flatMap_cons, ← encodeReplacing, hbytes]
        rfl

@[simp] theorem textOf_points (text : Text) : textOf (points text) = some text := by
  induction text with
  | nil => rfl
  | cons character text ih =>
      rw [points, List.map_cons, textOf, ← points, ih]
      rfl

theorem plain_units (htext : ∀ character ∈ text, character.toNat < 0xD800) :
    ∀ unit ∈ units text, ¬ IsSurrogate unit := by
  intro unit hunit
  obtain ⟨character, hcharacter, hunit⟩ := List.mem_flatMap.mp hunit
  have hsmall := htext character hcharacter
  rw [charUnits, if_pos (by omega)] at hunit
  obtain rfl := List.mem_singleton.mp hunit
  rintro ⟨hlow, -⟩
  rw [BitVec.toNat_ofNat] at hlow
  omega

theorem codePoints_cons_plain (hunit : ¬ IsSurrogate unit) (rest : List CodeUnit) :
    codePoints (unit :: rest) = codePoint unit :: codePoints rest := by
  rcases rest with _ | ⟨next, rest⟩
  · rfl
  · rw [codePoints, if_neg]
    rintro ⟨⟨hlow, hhigh⟩, -⟩
    exact hunit ⟨hlow, by omega⟩

theorem codePoints_append_plain (hunit : ¬ IsSurrogate unit) (left right : List CodeUnit) :
    codePoints (left ++ unit :: right) = codePoints left ++ codePoints (unit :: right) := by
  induction left using codePoints.induct with
  | case1 => rfl
  | case2 last =>
      have hunpaired : ¬ (IsHigh last ∧ IsLow unit) := by
        rintro ⟨-, hlow, hhigh⟩
        exact hunit ⟨by omega, hhigh⟩
      have hlast : codePoints (last :: unit :: right) =
          codePoint last :: codePoints (unit :: right) := by
        rw [codePoints, if_neg hunpaired]
      rw [List.singleton_append, hlast]
      rfl
  | case3 first next rest hpair ih =>
      rw [List.cons_append, List.cons_append, codePoints, if_pos hpair, ih, codePoints,
        if_pos hpair, List.cons_append]
  | case4 first next rest hpair ih =>
      rw [List.cons_append] at ih
      rw [List.cons_append, List.cons_append, codePoints, if_neg hpair, ih, codePoints,
        if_neg hpair, List.cons_append]

theorem isSurrogate_of_charUnits {character : Char} (hbasic : character.toNat < 0x10000) :
    ¬ IsSurrogate (BitVec.ofNat 16 character.toNat) := by
  have hvalid := character.valid
  change character.toNat < 0xD800 ∨ 0xDFFF < character.toNat ∧ character.toNat < 0x110000 at hvalid
  rintro ⟨hlow, hhigh⟩
  rw [BitVec.toNat_ofNat] at hlow hhigh
  omega

theorem codePoint_ofNat {character : Char} (hbasic : character.toNat < 0x10000) :
    codePoint (BitVec.ofNat 16 character.toNat) = .char character := by
  rw [codePoint, if_neg (isSurrogate_of_charUnits hbasic), BitVec.toNat_ofNat,
    Nat.mod_eq_of_lt hbasic, Char.ofNat_toNat]

/-- The code points of a text's units are its characters. -/
theorem codePoints_units (text : Text) : codePoints (units text) = points text := by
  induction text with
  | nil => rfl
  | cons character text ih =>
      rw [units, List.flatMap_cons, ← units, charUnits]
      split
      · rename_i hbasic
        rw [List.singleton_append, codePoints_cons_plain (isSurrogate_of_charUnits hbasic), ih,
          codePoint_ofNat hbasic]
        rfl
      · rename_i hlarge
        have hvalid := character.valid
        change character.toNat < 0xD800 ∨
          0xDFFF < character.toNat ∧ character.toNat < 0x110000 at hvalid
        have hhigh : (BitVec.ofNat 16 (0xD800 + (character.toNat - 0x10000) / 0x400)).toNat =
            0xD800 + (character.toNat - 0x10000) / 0x400 := by
          rw [BitVec.toNat_ofNat]
          omega
        have hlow : (BitVec.ofNat 16 (0xDC00 + (character.toNat - 0x10000) % 0x400)).toNat =
            0xDC00 + (character.toNat - 0x10000) % 0x400 := by
          rw [BitVec.toNat_ofNat]
          omega
        have hvalue : 0x10000 + ((0xD800 + (character.toNat - 0x10000) / 0x400 - 0xD800) * 0x400 +
            (0xDC00 + (character.toNat - 0x10000) % 0x400 - 0xDC00)) = character.toNat := by
          omega
        have hpair : pairChar (BitVec.ofNat 16 (0xD800 + (character.toNat - 0x10000) / 0x400))
            (BitVec.ofNat 16 (0xDC00 + (character.toNat - 0x10000) % 0x400)) = character := by
          rw [pairChar, hhigh, hlow, hvalue, Char.ofNat_toNat]
        rw [List.cons_append, List.singleton_append, codePoints, if_pos, ih, hpair]
        · rfl
        · exact ⟨⟨by omega, by omega⟩, ⟨by omega, by omega⟩⟩

theorem length_codePoints_le (string : List CodeUnit) :
    (codePoints string).length ≤ string.length := by
  induction string using codePoints.induct with
  | case1 => exact Nat.le_refl _
  | case2 last => exact Nat.le_refl _
  | case3 first next rest hpair ih =>
      rw [codePoints, if_pos hpair]
      simp only [List.length_cons]
      omega
  | case4 first next rest hpair ih =>
      rw [codePoints, if_neg hpair]
      simp only [List.length_cons] at ih ⊢
      omega

/-- A string without surrogates has a character for every unit. -/
theorem codePoints_of_plain {string : List CodeUnit} (hplain : ∀ unit ∈ string, ¬ IsSurrogate unit) :
    codePoints string = points (string.map fun unit => Char.ofNat unit.toNat) := by
  induction string with
  | nil => rfl
  | cons unit string ih =>
      obtain ⟨hunit, hplain⟩ := List.forall_mem_cons.mp hplain
      rw [codePoints_cons_plain hunit, ih hplain, codePoint, if_neg hunit]
      rfl

theorem plain_of_length {string : List CodeUnit} (hpoints : codePoints string = points text)
    (hlength : (codePoints string).length = string.length) :
    ∀ unit ∈ string, ¬ IsSurrogate unit := by
  have hsingle : ∀ {unit : CodeUnit} {character : Char}, codePoint unit = .char character →
      ¬ IsSurrogate unit := by
    intro unit character hunit hsurrogate
    rw [codePoint, if_pos hsurrogate] at hunit
    cases hunit
  induction string using codePoints.induct generalizing text with
  | case1 => exact fun _ hunit => (List.not_mem_nil hunit).elim
  | case2 last =>
      rcases text with _ | ⟨character, text⟩
      · cases hpoints
      · exact List.forall_mem_singleton.mpr (hsingle (List.cons.inj hpoints).1)
  | case3 first next rest hpair ih =>
      have hle := length_codePoints_le rest
      rw [codePoints, if_pos hpair] at hlength
      simp only [List.length_cons] at hlength
      omega
  | case4 first next rest hpair ih =>
      rw [codePoints, if_neg hpair] at hpoints hlength
      rcases text with _ | ⟨character, text⟩
      · cases hpoints
      · obtain ⟨hfirst, hrest⟩ := List.cons.inj hpoints
        exact List.forall_mem_cons.mpr ⟨hsingle hfirst, ih hrest (Nat.succ.inj hlength)⟩

end Points

section Fields

variable {α : Type} {field other left right : List CodePoint}

/-- A field behind a size. -/
def prefixed (size : Nat) (field : List CodePoint) : List CodePoint :=
  points (decimal size) ++ .char ':' :: field

/-- Fields with bars between them. -/
def joined (fields : List (List CodePoint)) : List CodePoint :=
  [CodePoint.char '|'].intercalate fields

theorem joined_cons (field : List CodePoint) (fields : List (List CodePoint)) :
    joined (field :: fields) = field ++ fields.flatMap (.char '|' :: ·) := by
  induction fields generalizing field with
  | nil => simp [joined]
  | cons next fields ih =>
      have htail := ih next
      rw [joined] at htail
      rw [joined, List.intercalate_cons_cons, htail, List.flatMap_cons]
      simp only [List.append_assoc, List.nil_append, List.cons_append]

theorem map_replaced_joined (fields : List (List CodePoint)) :
    (joined fields).map replaced = joined (fields.map (List.map replaced)) := by
  rcases fields with _ | ⟨field, fields⟩
  · rfl
  · rw [List.map_cons, joined_cons, joined_cons, List.map_append, List.map_flatMap,
      List.flatMap_map]
    rfl

theorem map_replaced_prefixed (size : Nat) (field : List CodePoint) :
    (prefixed size field).map replaced = prefixed size (field.map replaced) := by
  rw [prefixed, prefixed, List.map_append, map_replaced_points, List.map_cons]
  rfl

theorem append_cons_cancel {separator : α} {first second rest rest' : List α}
    (hfirst : separator ∉ first) (hsecond : separator ∉ second)
    (hsame : first ++ separator :: rest = second ++ separator :: rest') :
    first = second ∧ rest = rest' := by
  induction first generalizing second with
  | nil =>
      rcases second with _ | ⟨value, second⟩
      · exact ⟨rfl, (List.cons.inj hsame).2⟩
      · exact (hsecond (List.mem_cons.mpr (.inl (List.cons.inj hsame).1))).elim
  | cons value first ih =>
      rcases second with _ | ⟨value', second⟩
      · exact (hfirst (List.mem_cons.mpr (.inl (List.cons.inj hsame).1.symm))).elim
      · obtain ⟨rfl, hrest⟩ := List.cons.inj hsame
        obtain ⟨rfl, rfl⟩ := ih (fun hmem => hfirst (List.mem_cons_of_mem _ hmem))
          (fun hmem => hsecond (List.mem_cons_of_mem _ hmem)) hrest
        exact ⟨rfl, rfl⟩

theorem colon_notMem_decimal (size : Nat) : CodePoint.char ':' ∉ points (decimal size) := by
  intro hmem
  obtain ⟨digit, hdigit, heq⟩ := List.mem_map.mp hmem
  obtain rfl := CodePoint.char.inj heq
  exact absurd (isDigit_of_mem_decimal hdigit) (by decide)

/-- The size and what stands behind it can be told apart. -/
theorem prefixed_append_cancel {size size' : Nat}
    (hsame : prefixed size field ++ left = prefixed size' other ++ right) :
    size = size' ∧ field ++ left = other ++ right := by
  simp only [prefixed, List.append_assoc, List.cons_append] at hsame
  obtain ⟨hsize, hrest⟩ := append_cons_cancel (colon_notMem_decimal size)
    (colon_notMem_decimal size') hsame
  have hvalue := congrArg decimalValue (points_injective hsize)
  rw [decimalValue_decimal, decimalValue_decimal] at hvalue
  exact ⟨hvalue, hrest⟩

/-- Fields of the same lengths behind any sizes: the sizes and the fields are told apart. -/
theorem joined_prefixed_cancel {first second : List (Nat × List CodePoint)}
    (hlengths : List.Forall₂ (fun left right => left.2.length = right.2.length) first second)
    (hsame : joined (first.map fun field => prefixed field.1 field.2) =
      joined (second.map fun field => prefixed field.1 field.2)) : first = second := by
  have hcancel : ∀ {field other : Nat × List CodePoint} {left right : List CodePoint},
      field.2.length = other.2.length →
      prefixed field.1 field.2 ++ left = prefixed other.1 other.2 ++ right →
      field = other ∧ left = right := by
    rintro ⟨size, field⟩ ⟨size', other⟩ left right hlength hsame
    obtain ⟨rfl, hrest⟩ := prefixed_append_cancel hsame
    obtain ⟨rfl, rfl⟩ := List.append_inj hrest hlength
    exact ⟨rfl, rfl⟩
  have htails : ∀ {first second : List (Nat × List CodePoint)},
      List.Forall₂ (fun left right => left.2.length = right.2.length) first second →
      (first.map fun field => prefixed field.1 field.2).flatMap (.char '|' :: ·) =
        (second.map fun field => prefixed field.1 field.2).flatMap (.char '|' :: ·) →
      first = second := by
    intro first second hlengths
    induction hlengths with
    | nil => exact fun _ => rfl
    | cons hlength _ ih =>
        intro hsame
        simp only [List.map_cons, List.flatMap_cons, List.cons_append] at hsame
        obtain ⟨rfl, htail⟩ := hcancel hlength (List.cons.inj hsame).2
        rw [ih htail]
  rcases hlengths with _ | ⟨hlength, hlengths⟩
  · rfl
  · simp only [List.map_cons, joined_cons] at hsame
    obtain ⟨rfl, htail⟩ := hcancel hlength hsame
    rw [htails hlengths htail]

/-- Two beginnings of one string that weigh the same are the same. -/
theorem append_cancel_of_weight {weight : CodePoint → Nat} (hweight : ∀ point, 0 < weight point)
    (hsize : (field.map weight).sum = (other.map weight).sum)
    (hsame : field ++ left = other ++ right) : field = other ∧ left = right := by
  have hnone : ∀ extra : List CodePoint, (extra.map weight).sum = 0 → extra = [] := by
    intro extra hzero
    rcases extra with _ | ⟨point, extra⟩
    · rfl
    · rw [List.map_cons, List.sum_cons] at hzero
      have hpoint := hweight point
      omega
  rcases List.append_eq_append_iff.mp hsame with ⟨extra, rfl, rfl⟩ | ⟨extra, rfl, rfl⟩
  · rw [List.map_append, List.sum_append] at hsize
    obtain rfl := hnone extra (by omega)
    exact ⟨(List.append_nil _).symm, rfl⟩
  · rw [List.map_append, List.sum_append] at hsize
    obtain rfl := hnone extra (by omega)
    exact ⟨List.append_nil _, rfl⟩

/-- Fields behind their weights can be read back. -/
theorem joined_weighed_injective {weight : CodePoint → Nat} (hweight : ∀ point, 0 < weight point) :
    Function.Injective fun fields : List (List CodePoint) =>
      joined (fields.map fun field => prefixed (field.map weight).sum field) := by
  have htails : ∀ first second : List (List CodePoint),
      (first.map fun field => prefixed (field.map weight).sum field).flatMap (.char '|' :: ·) =
        (second.map fun field => prefixed (field.map weight).sum field).flatMap
          (.char '|' :: ·) → first = second := by
    intro first
    induction first with
    | nil =>
        rintro (_ | ⟨field, second⟩) hsame
        · rfl
        · cases hsame
    | cons field first ih =>
        rintro (_ | ⟨other, second⟩) hsame
        · cases hsame
        · simp only [List.map_cons, List.flatMap_cons, List.cons_append] at hsame
          obtain ⟨hsize, htail⟩ := prefixed_append_cancel (List.cons.inj hsame).2
          obtain ⟨rfl, hrest⟩ := append_cancel_of_weight hweight hsize htail
          rw [ih second hrest]
  have hcons : ∀ (field : List CodePoint) (fields : List (List CodePoint)),
      joined (prefixed (field.map weight).sum field :: fields) ≠ [] := by
    intro field fields hempty
    rw [joined_cons, prefixed] at hempty
    simp at hempty
  rintro (_ | ⟨field, first⟩) (_ | ⟨other, second⟩) hsame
  · rfl
  · exact (hcons _ _ hsame.symm).elim
  · exact (hcons _ _ hsame).elim
  · simp only [List.map_cons, joined_cons] at hsame
    obtain ⟨hsize, htail⟩ := prefixed_append_cancel hsame
    obtain ⟨rfl, hrest⟩ := append_cancel_of_weight hweight hsize htail
    rw [htails _ _ hrest]

end Fields

end TsnProtocol.Lib.Utf16
