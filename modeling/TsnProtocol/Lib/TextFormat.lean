import Mathlib
import TsnProtocol.Lib.ByteReader

/-!
Texts as lists of characters: decimal and hexadecimal numbers, base64, slots of a fixed
width, and flat JSON objects, each with the reader that undoes its writer.
-/

namespace TsnProtocol.Lib.TextFormat

open Lib.ByteReader

abbrev Text := List Char

/-- A property of the characters of a text is decided along the text, never over all of
Unicode. -/
instance (priority := high) decidableForallMem (property : Char → Prop)
    [DecidablePred property] (text : Text) : Decidable (∀ character ∈ text, property character) :=
  List.decidableBAll property text

/-- The bytes of a text whose characters are all ASCII. -/
def encodeAscii (text : Text) : List Byte :=
  text.map fun character => BitVec.ofNat 8 character.toNat

def isAscii (text : Text) : Bool :=
  text.all fun character => character.toNat < 128

/-- The text in bytes that are all ASCII. -/
def decodeAscii (bytes : List Byte) : Option Text :=
  if bytes.all (fun byte => byte.toNat < 128) = true then
    some (bytes.map fun byte => Char.ofNat byte.toNat)
  else none

theorem toNat_ofNat_toNat {character : Char} (hascii : character.toNat < 128) :
    (BitVec.ofNat 8 character.toNat).toNat = character.toNat := by
  rw [BitVec.toNat_ofNat]
  omega

theorem decodeAscii_encodeAscii {text : Text} (htext : isAscii text = true) :
    decodeAscii (encodeAscii text) = some text := by
  have hascii : ∀ character ∈ text, character.toNat < 128 := by
    intro character hcharacter
    exact of_decide_eq_true (List.all_eq_true.mp htext character hcharacter)
  have hall : (encodeAscii text).all (fun byte => byte.toNat < 128) = true := by
    rw [encodeAscii, List.all_map, List.all_eq_true]
    intro character hcharacter
    rw [Function.comp_apply, toNat_ofNat_toNat (hascii character hcharacter)]
    exact decide_eq_true (hascii character hcharacter)
  rw [decodeAscii, if_pos hall, encodeAscii, List.map_map]
  nth_rewrite 2 [← List.map_id text]
  refine congrArg some (List.map_congr_left fun character hcharacter => ?_)
  rw [Function.comp_apply, toNat_ofNat_toNat (hascii character hcharacter), Char.ofNat_toNat]
  rfl

section Numbers

def decimal (value : Nat) : Text :=
  Nat.toDigits 10 value

/-- A decimal number without a leading zero. -/
def isPositiveDecimal (text : Text) : Bool :=
  text.head?.any (· ≠ '0') && text.all Char.isDigit

def decimalValue (text : Text) : Nat :=
  Nat.ofDigitChars 10 text 0

@[simp] theorem decimalValue_decimal (value : Nat) : decimalValue (decimal value) = value :=
  Nat.ofDigitChars_ten_toDigits

theorem isDigit_of_mem_decimal {value : Nat} {digit : Char} (hdigit : digit ∈ decimal value) :
    digit.isDigit = true :=
  Nat.isDigit_of_mem_toDigits (by decide) (by decide) hdigit

theorem isPositiveDecimal_decimal {value : Nat} (hvalue : 0 < value) :
    isPositiveDecimal (decimal value) = true := by
  have hhead : (decimal value).head?.any (· ≠ '0') = true := by
    induction value using Nat.strong_induction_on with
    | _ value ih =>
        rw [decimal, Nat.toDigits_eq_if (by decide)]
        split
        · rename_i hsmall
          interval_cases value <;> decide
        · rename_i hlarge
          have hearlier := ih (value / 10) (by omega) (by omega)
          rw [decimal] at hearlier
          cases hdigits : Nat.toDigits 10 (value / 10) with
          | nil => simp [hdigits] at hearlier
          | cons first rest => simpa [hdigits] using hearlier
  have hdigits : (decimal value).all Char.isDigit = true :=
    List.all_eq_true.mpr fun _ => isDigit_of_mem_decimal
  rw [isPositiveDecimal, hhead, hdigits]
  rfl

/-- The value of a lowercase hexadecimal digit. -/
def lowerHexValue (digit : Char) : Option Nat :=
  if '0' ≤ digit ∧ digit ≤ '9' then some (digit.toNat - 48)
  else if 'a' ≤ digit ∧ digit ≤ 'f' then some (digit.toNat - 87)
  else none

def isLowerHexDigit (digit : Char) : Bool :=
  (lowerHexValue digit).isSome

theorem lowerHexDigit_range {digit : Char} (hdigit : isLowerHexDigit digit = true) :
    (48 ≤ digit.toNat ∧ digit.toNat ≤ 57 ∧ lowerHexValue digit = some (digit.toNat - 48)) ∨
      (97 ≤ digit.toNat ∧ digit.toNat ≤ 102 ∧
        lowerHexValue digit = some (digit.toNat - 87)) := by
  rw [isLowerHexDigit, lowerHexValue] at hdigit
  rw [lowerHexValue]
  by_cases hnumber : '0' ≤ digit ∧ digit ≤ '9'
  · exact .inl ⟨hnumber.1, hnumber.2, if_pos hnumber⟩
  · rw [if_neg hnumber] at hdigit ⊢
    by_cases hletter : 'a' ≤ digit ∧ digit ≤ 'f'
    · exact .inr ⟨hletter.1, hletter.2, if_pos hletter⟩
    · rw [if_neg hletter] at hdigit
      cases hdigit

theorem toLower_of_isLowerHexDigit {digit : Char}
    (hdigit : isLowerHexDigit digit = true) :
    digit.toLower = digit := by
  unfold Char.toLower
  apply dif_neg
  rintro ⟨hlow, hhigh⟩
  have hupper : 65 ≤ digit.toNat ∧ digit.toNat ≤ 90 := ⟨hlow, hhigh⟩
  rcases lowerHexDigit_range hdigit with ⟨_, hbound, _⟩ | ⟨hbound, _, _⟩ <;> omega

theorem map_toLower_of_lowerHex {text : Text}
    (htext : text.all isLowerHexDigit = true) :
    text.map Char.toLower = text := by
  nth_rewrite 2 [← List.map_id text]
  exact List.map_congr_left fun digit hdigit =>
    toLower_of_isLowerHexDigit (List.all_eq_true.mp htext digit hdigit)

def hexTextValue (text : Text) : Nat :=
  text.foldl (fun number digit => 16 * number + (lowerHexValue digit).getD 0) 0

def lowerHexDigit (nibble : Nat) : Char :=
  Char.ofNat (if nibble < 10 then 48 + nibble else 87 + nibble)

/-- Bytes in lowercase hexadecimal. -/
def hexText (bytes : List Byte) : Text :=
  bytes.flatMap fun byte => [lowerHexDigit (byte.toNat / 16), lowerHexDigit (byte.toNat % 16)]

def bytesOfHex : Text → Option (List Byte)
  | [] => some []
  | [_] => none
  | high :: low :: rest => do
      let highValue ← lowerHexValue high
      let lowValue ← lowerHexValue low
      let bytes ← bytesOfHex rest
      return BitVec.ofNat 8 (16 * highValue + lowValue) :: bytes

theorem lowerHexValue_lowerHexDigit {nibble : Nat} (hnibble : nibble < 16) :
    lowerHexValue (lowerHexDigit nibble) = some nibble := by
  interval_cases nibble <;> decide

theorem bytesOfHex_hexText (bytes : List Byte) : bytesOfHex (hexText bytes) = some bytes := by
  induction bytes with
  | nil => rfl
  | cons byte rest ih =>
      have hbyte := byte.isLt
      have hhigh : byte.toNat / 16 < 16 := by omega
      have hlow : byte.toNat % 16 < 16 := by omega
      have hvalue : 16 * (byte.toNat / 16) + byte.toNat % 16 = byte.toNat := by omega
      have htext : hexText (byte :: rest) = lowerHexDigit (byte.toNat / 16) ::
          lowerHexDigit (byte.toNat % 16) :: hexText rest := rfl
      rw [htext]
      simp [bytesOfHex, lowerHexValue_lowerHexDigit hhigh, lowerHexValue_lowerHexDigit hlow, ih,
        hvalue]

theorem mem_hexText {bytes : List Byte} {digit : Char} (hdigit : digit ∈ hexText bytes) :
    isLowerHexDigit digit = true := by
  rw [hexText, List.mem_flatMap] at hdigit
  obtain ⟨byte, _, hdigit⟩ := hdigit
  have hbyte := byte.isLt
  rcases List.mem_pair.mp hdigit with rfl | rfl
  · rw [isLowerHexDigit, lowerHexValue_lowerHexDigit (by omega)]
    rfl
  · rw [isLowerHexDigit, lowerHexValue_lowerHexDigit (by omega)]
    rfl

end Numbers

section Base64

/-- The character of a value of six bits, in the alphabet that ends in the two characters
given. -/
def base64Digit (plus slash : Char) (value : Nat) : Char :=
  if value < 26 then Char.ofNat (65 + value)
  else if value < 52 then Char.ofNat (97 + (value - 26))
  else if value < 62 then Char.ofNat (48 + (value - 52))
  else if value = 62 then plus
  else slash

def base64 (plus slash : Char) : List Byte → Text
  | [] => []
  | [first] =>
      [base64Digit plus slash (first.toNat / 4), base64Digit plus slash (first.toNat % 4 * 16),
        '=', '=']
  | [first, second] =>
      [base64Digit plus slash (first.toNat / 4),
        base64Digit plus slash (first.toNat % 4 * 16 + second.toNat / 16),
        base64Digit plus slash (second.toNat % 16 * 4), '=']
  | first :: second :: third :: rest =>
      base64Digit plus slash (first.toNat / 4) ::
        base64Digit plus slash (first.toNat % 4 * 16 + second.toNat / 16) ::
        base64Digit plus slash (second.toNat % 16 * 4 + third.toNat / 64) ::
        base64Digit plus slash (third.toNat % 64) :: base64 plus slash rest

def b64encode : List Byte → Text :=
  base64 '+' '/'

def urlsafeB64encode : List Byte → Text :=
  base64 '-' '_'

/-- Strip the padding off the end of a text. -/
def stripPadding (text : Text) : Text :=
  text.rdropWhile (· = '=')

def isBase64UrlChar (character : Char) : Bool :=
  character.isUpper || character.isLower || character.isDigit || character = '_' ||
    character = '-'

/-- The value of a digit in the alphabet that ends in the two characters given. -/
def base64Value (plus digit : Char) : Nat :=
  if digit.isUpper then digit.toNat - 65
  else if digit.isLower then digit.toNat - 97 + 26
  else if digit.isDigit then digit.toNat - 48 + 52
  else if digit = plus then 62
  else 63

/-- The bytes of unpadded digits with the values given. -/
def decodeBase64 (value : Char → Nat) : Text → List Byte
  | first :: second :: third :: fourth :: rest =>
      BitVec.ofNat 8 (value first * 4 + value second / 16) ::
        BitVec.ofNat 8 (value second % 16 * 16 + value third / 4) ::
        BitVec.ofNat 8 (value third % 4 * 64 + value fourth) :: decodeBase64 value rest
  | [first, second, third] =>
      [BitVec.ofNat 8 (value first * 4 + value second / 16),
        BitVec.ofNat 8 (value second % 16 * 16 + value third / 4)]
  | [first, second] => [BitVec.ofNat 8 (value first * 4 + value second / 16)]
  | _ => []

theorem byte_eq_ofNat {byte : Byte} {value : Nat} (hvalue : value = byte.toNat) :
    BitVec.ofNat 8 value = byte := by
  rw [hvalue, BitVec.ofNat_toNat, BitVec.setWidth_eq]

/-- Base64 is digits of its alphabet, which decode to the bytes, and padding. -/
theorem base64_eq_append (plus slash : Char) (bytes : List Byte) :
    ∃ digits padding, base64 plus slash bytes = digits ++ List.replicate padding '=' ∧
      (∀ digit ∈ digits, ∃ value < 64, digit = base64Digit plus slash value) ∧
      (bytes ≠ [] → digits ≠ []) ∧
      ∀ value : Char → Nat, (∀ number < 64, value (base64Digit plus slash number) = number) →
        decodeBase64 value digits = bytes := by
  induction bytes using base64.induct with
  | case1 => exact ⟨[], 0, rfl, nofun, fun hbytes => (hbytes rfl).elim, fun _ _ => rfl⟩
  | case2 first =>
      have hfirst := first.isLt
      refine ⟨[_, _], 2, rfl, ?_, fun _ => List.cons_ne_nil _ _, ?_⟩
      · simp only [List.mem_cons, List.not_mem_nil, or_false]
        rintro digit (rfl | rfl)
        · exact ⟨_, by omega, rfl⟩
        · exact ⟨_, by omega, rfl⟩
      · intro value hvalue
        rw [decodeBase64, hvalue _ (by omega), hvalue _ (by omega)]
        exact congrArg (List.cons · []) (byte_eq_ofNat (by omega))
  | case3 first second =>
      have hfirst := first.isLt
      have hsecond := second.isLt
      refine ⟨[_, _, _], 1, rfl, ?_, fun _ => List.cons_ne_nil _ _, ?_⟩
      · simp only [List.mem_cons, List.not_mem_nil, or_false]
        rintro digit (rfl | rfl | rfl)
        · exact ⟨_, by omega, rfl⟩
        · exact ⟨_, by omega, rfl⟩
        · exact ⟨_, by omega, rfl⟩
      · intro value hvalue
        rw [decodeBase64, hvalue _ (by omega), hvalue _ (by omega), hvalue _ (by omega)]
        rw [@byte_eq_ofNat first _ (by omega), @byte_eq_ofNat second _ (by omega)]
  | case4 first second third rest ih =>
      have hfirst := first.isLt
      have hsecond := second.isLt
      have hthird := third.isLt
      obtain ⟨digits, padding, hrest, hdigits, _, hdecode⟩ := ih
      rw [base64, hrest]
      refine ⟨_ :: _ :: _ :: _ :: digits, padding, rfl, ?_, fun _ => List.cons_ne_nil _ _, ?_⟩
      · simp only [List.mem_cons]
        rintro digit (rfl | rfl | rfl | rfl | hdigit)
        · exact ⟨_, by omega, rfl⟩
        · exact ⟨_, by omega, rfl⟩
        · exact ⟨_, by omega, rfl⟩
        · exact ⟨_, by omega, rfl⟩
        · exact hdigits digit hdigit
      · intro value hvalue
        rw [decodeBase64, hvalue _ (by omega), hvalue _ (by omega), hvalue _ (by omega),
          hvalue _ (by omega), hdecode value hvalue]
        rw [@byte_eq_ofNat first _ (by omega), @byte_eq_ofNat second _ (by omega),
          @byte_eq_ofNat third _ (by omega)]

theorem stripPadding_eq_self {text : Text} (htext : '=' ∉ text) : stripPadding text = text := by
  rw [stripPadding, List.rdropWhile_eq_self_iff]
  intro hne hlast
  apply htext
  rw [← of_decide_eq_true hlast]
  exact List.getLast_mem hne

theorem stripPadding_append (text : Text) (padding : Nat) (htext : '=' ∉ text) :
    stripPadding (text ++ List.replicate padding '=') = text := by
  induction padding with
  | zero => simpa using stripPadding_eq_self htext
  | succ padding ih =>
      rw [List.replicate_succ', ← List.append_assoc, stripPadding,
        List.rdropWhile_concat_pos _ _ _ (by decide)]
      exact ih

theorem isBase64UrlChar_base64Digit {value : Nat} (hvalue : value < 64) :
    isBase64UrlChar (base64Digit '-' '_' value) = true := by
  interval_cases value <;> decide

/-- Unpadded base64url is a text of the alphabet. -/
theorem stripPadding_urlsafeB64encode (bytes : List Byte) :
    (stripPadding (urlsafeB64encode bytes)).all isBase64UrlChar = true ∧
      (bytes ≠ [] → stripPadding (urlsafeB64encode bytes) ≠ []) := by
  obtain ⟨digits, padding, hbytes, hdigits, hne, _⟩ := base64_eq_append '-' '_' bytes
  have hall : ∀ digit ∈ digits, isBase64UrlChar digit = true := by
    intro digit hdigit
    obtain ⟨value, hvalue, rfl⟩ := hdigits digit hdigit
    exact isBase64UrlChar_base64Digit hvalue
  have hpadding : '=' ∉ digits := by
    intro hmem
    exact absurd (hall '=' hmem) (by decide)
  rw [urlsafeB64encode, hbytes, stripPadding_append digits padding hpadding]
  exact ⟨List.all_eq_true.mpr hall, hne⟩

/-- Decoding undoes encoding, in an alphabet without the padding character. -/
theorem decodeBase64_base64 {plus slash : Char}
    (hvalue : ∀ number < 64, base64Value plus (base64Digit plus slash number) = number)
    (hpadding : ∀ number < 64, base64Digit plus slash number ≠ '=') (bytes : List Byte) :
    decodeBase64 (base64Value plus) (stripPadding (base64 plus slash bytes)) = bytes := by
  obtain ⟨digits, padding, hbytes, hdigits, _, hdecode⟩ := base64_eq_append plus slash bytes
  have hdigits : '=' ∉ digits := by
    intro hmem
    obtain ⟨number, hnumber, heq⟩ := hdigits '=' hmem
    exact hpadding number hnumber heq.symm
  rw [hbytes, stripPadding_append digits padding hdigits, hdecode _ hvalue]

end Base64

section Slots

/-- Pieces of `width` characters; the first argument bounds their number. -/
def pieces (width : Nat) : Nat → Text → List Text
  | 0, _ => []
  | _ + 1, [] => []
  | bound + 1, text => text.take width :: pieces width bound (text.drop width)

def padSlot (width : Nat) (text : Text) : Text :=
  text ++ List.replicate (width - text.length) '='

/-- A text in padded slots of `width` characters. -/
def slots (width : Nat) (text : Text) : List Text :=
  (pieces width text.length text).map (padSlot width)

theorem flatten_pieces {width bound : Nat} {text : Text} (hwidth : 0 < width)
    (hbound : text.length ≤ bound) : (pieces width bound text).flatten = text := by
  induction bound generalizing text with
  | zero => simpa [pieces, eq_comm] using hbound
  | succ bound ih =>
      cases text with
      | nil => rfl
      | cons first rest =>
          have hrest : ((first :: rest).drop width).length ≤ bound := by
            rw [List.length_drop]
            simp only [List.length_cons] at hbound ⊢
            omega
          rw [pieces, List.flatten_cons, ih hrest, List.take_append_drop]
          nofun

theorem mem_of_mem_pieces {width bound : Nat} {text piece : Text} {character : Char}
    (hpiece : piece ∈ pieces width bound text) (hcharacter : character ∈ piece) :
    character ∈ text := by
  induction bound generalizing text with
  | zero => cases hpiece
  | succ bound ih =>
      cases text with
      | nil => cases hpiece
      | cons first rest =>
          rw [pieces] at hpiece
          · rcases List.mem_cons.mp hpiece with rfl | hlater
            · exact List.mem_of_mem_take hcharacter
            · exact List.mem_of_mem_drop (ih hlater)
          · nofun

/-- The slots of a text without padding, stripped and joined, are the text. -/
theorem flatten_stripPadding_slots {width : Nat} {text : Text} (hwidth : 0 < width)
    (htext : '=' ∉ text) : ((slots width text).map stripPadding).flatten = text := by
  have hstrip : (slots width text).map stripPadding = pieces width text.length text := by
    rw [slots, List.map_map]
    nth_rewrite 2 [← List.map_id (pieces width text.length text)]
    apply List.map_congr_left
    intro piece hpiece
    exact stripPadding_append piece _ fun hmem => htext (mem_of_mem_pieces hpiece hmem)
  rw [hstrip, flatten_pieces hwidth le_rfl]

end Slots

section Json

/-- A value of a flat JSON object. -/
inductive JsonValue where
  | str (text : Text)
  | num (value : Nat)
  deriving DecidableEq

abbrev JsonObject := List (String × JsonValue)

/-- Characters that stand for themselves in a JSON string. -/
def isPlain (character : Char) : Bool :=
  32 ≤ character.toNat && character ≠ '"' && character ≠ '\\' && character.toNat < 128

def quote (text : Text) : Text :=
  '"' :: (text ++ ['"'])

def dumpValue : JsonValue → Text
  | .str text => quote text
  | .num value => decimal value

def dumpMember (member : String × JsonValue) : Text :=
  quote member.1.toList ++ ':' :: dumpValue member.2

def dumpMembers : JsonObject → Text
  | [] => []
  | [member] => dumpMember member
  | member :: rest => dumpMember member ++ ',' :: dumpMembers rest

/-- A flat object without white space, its members in the order given. -/
def dumps (members : JsonObject) : Text :=
  '{' :: (dumpMembers members ++ ['}'])

/-- A string without escapes, and what follows it. -/
def readString : Text → Option (Text × Text)
  | '"' :: rest =>
      match rest.dropWhile isPlain with
      | '"' :: later => some (rest.takeWhile isPlain, later)
      | _ => none
  | _ => none

def readNumber (text : Text) : Option (Nat × Text) :=
  let digits := text.takeWhile Char.isDigit
  if digits = ['0'] ∨ isPositiveDecimal digits = true then
    some (decimalValue digits, text.dropWhile Char.isDigit)
  else none

def readValue : Text → Option (JsonValue × Text)
  | '"' :: rest => (readString ('"' :: rest)).map fun (text, later) => (.str text, later)
  | text => (readNumber text).map fun (value, later) => (.num value, later)

def readMembers : Nat → Text → Option JsonObject
  | 0, _ => none
  | bound + 1, text => do
      let (key, afterKey) ← readString text
      guard (afterKey.head? = some ':')
      let (value, rest) ← readValue (afterKey.drop 1)
      if rest = ['}'] then return [(String.ofList key, value)]
      guard (rest.head? = some ',')
      let others ← readMembers bound (rest.drop 1)
      return (String.ofList key, value) :: others

/-- A flat object without escapes or white space. -/
def parseObject (text : Text) : Option JsonObject := do
  guard (text.head? = some '{')
  if text.drop 1 = ['}'] then return []
  readMembers text.length (text.drop 1)

theorem readString_quote {text : Text} (htext : text.all isPlain = true) (later : Text) :
    readString (quote text ++ later) = some (text, later) := by
  have hplain : ∀ character ∈ text, isPlain character = true := List.all_eq_true.mp htext
  have hquote : quote text ++ later = '"' :: (text ++ '"' :: later) := by simp [quote]
  have hdrop : (text ++ '"' :: later).dropWhile isPlain = '"' :: later := by
    rw [List.dropWhile_append_of_pos hplain, List.dropWhile_cons_of_neg (by decide)]
  have htake : (text ++ '"' :: later).takeWhile isPlain = text := by
    rw [List.takeWhile_append_of_pos hplain, List.takeWhile_cons_of_neg (by decide),
      List.append_nil]
  rw [hquote, readString, hdrop, htake]
  rfl

theorem readNumber_decimal (value : Nat) {later : Text}
    (hlater : later.head?.all (fun character => !character.isDigit) = true) :
    readNumber (decimal value ++ later) = some (value, later) := by
  have hdigits : ∀ digit ∈ decimal value, digit.isDigit = true :=
    fun _ => isDigit_of_mem_decimal
  have hdrop : (decimal value ++ later).dropWhile Char.isDigit = later := by
    rw [List.dropWhile_append_of_pos hdigits]
    cases later with
    | nil => rfl
    | cons first rest => simpa using hlater
  have htake : (decimal value ++ later).takeWhile Char.isDigit = decimal value := by
    rw [List.takeWhile_append_of_pos hdigits]
    cases later with
    | nil => simp
    | cons first rest => simpa using hlater
  have hnumber : decimal value = ['0'] ∨ isPositiveDecimal (decimal value) = true := by
    rcases Nat.eq_zero_or_pos value with rfl | hpos
    · exact .inl rfl
    · exact .inr (isPositiveDecimal_decimal hpos)
  simp only [readNumber, htake, hdrop, if_pos hnumber, decimalValue_decimal]

/-- Keys and texts of the object need no escapes. -/
def IsPlainObject (members : JsonObject) : Prop :=
  ∀ member ∈ members, member.1.toList.all isPlain = true ∧
    ∀ text, member.2 = .str text → text.all isPlain = true

theorem isPlain_str {key : String} {text : Text} (hkey : key.toList.all isPlain = true)
    (htext : text.all isPlain = true) : key.toList.all isPlain = true ∧
      ∀ content, JsonValue.str text = .str content → content.all isPlain = true :=
  ⟨hkey, fun _ hcontent => JsonValue.str.inj hcontent ▸ htext⟩

theorem isPlain_of_isLowerHexDigit {digit : Char}
    (hdigit : isLowerHexDigit digit = true) :
    isPlain digit = true := by
  have hrange : 48 ≤ digit.toNat ∧ digit.toNat ≤ 102 ∧ digit.toNat ≠ 92 := by
    rcases lowerHexDigit_range hdigit with ⟨hlow, hhigh, _⟩ | ⟨hlow, hhigh, _⟩ <;> omega
  have hquote : digit ≠ '"' := by
    rintro rfl
    exact absurd hrange.1 (by decide)
  have hslash : digit ≠ '\\' := by
    rintro rfl
    exact hrange.2.2 rfl
  simp only [isPlain, Bool.and_eq_true, decide_eq_true_eq, ne_eq]
  exact ⟨⟨⟨by omega, hquote⟩, hslash⟩, by omega⟩

theorem all_isPlain_of_lowerHex {text : Text} (htext : text.all isLowerHexDigit = true) :
    text.all isPlain = true := by
  rw [List.all_eq_true]
  exact fun digit hdigit => isPlain_of_isLowerHexDigit (List.all_eq_true.mp htext digit hdigit)

theorem all_isPlain_hexText (bytes : List Byte) : (hexText bytes).all isPlain = true := by
  rw [List.all_eq_true]
  exact fun digit hdigit => isPlain_of_isLowerHexDigit (mem_hexText hdigit)

theorem all_isPlain_decimal (value : Nat) : (decimal value).all isPlain = true := by
  rw [List.all_eq_true]
  intro digit hdigit
  have hrange := isDigit_of_mem_decimal hdigit
  apply isPlain_of_isLowerHexDigit
  simp only [Char.isDigit, Bool.and_eq_true, decide_eq_true_eq] at hrange
  rw [isLowerHexDigit, lowerHexValue, if_pos ⟨hrange.1, hrange.2⟩]
  rfl

theorem all_isPlain_b64encode (bytes : List Byte) : (b64encode bytes).all isPlain = true := by
  obtain ⟨digits, padding, hbytes, hdigits, _⟩ := base64_eq_append '+' '/' bytes
  rw [b64encode, hbytes, List.all_append, Bool.and_eq_true]
  constructor
  · rw [List.all_eq_true]
    intro digit hdigit
    obtain ⟨value, hvalue, rfl⟩ := hdigits digit hdigit
    interval_cases value <;> decide
  · rw [List.all_eq_true]
    intro character hcharacter
    rw [List.eq_of_mem_replicate hcharacter]
    decide

theorem readValue_dumpValue {value : JsonValue}
    (hvalue : ∀ text, value = .str text → text.all isPlain = true) {later : Text}
    (hlater : later.head?.all (fun character => !character.isDigit) = true) :
    readValue (dumpValue value ++ later) = some (value, later) := by
  cases value with
  | str text =>
      have hread := readString_quote (hvalue text rfl) later
      rw [quote, List.cons_append] at hread
      rw [dumpValue, quote, List.cons_append, readValue, hread]
      rfl
  | num number =>
      have hread := readNumber_decimal number hlater
      cases hdigits : decimal number ++ later with
      | nil =>
          rw [List.append_eq_nil_iff] at hdigits
          exact absurd hdigits.1 (Nat.toDigits_ne_nil)
      | cons first rest =>
          have hfirst : first ≠ '"' := by
            rintro rfl
            cases hnumber : decimal number with
            | nil => exact absurd hnumber Nat.toDigits_ne_nil
            | cons digit others =>
                rw [hnumber, List.cons_append] at hdigits
                have hdigit : digit.isDigit = true := by
                  apply @isDigit_of_mem_decimal number
                  simp [hnumber]
                rw [(List.cons.inj hdigits).1] at hdigit
                exact absurd hdigit (by decide)
          rw [hdigits] at hread
          rw [dumpValue, hdigits, readValue, hread]
          · rfl
          · intro later heq
            exact hfirst (List.cons.inj heq).1

theorem readMembers_dumpMembers {members : JsonObject} (hplain : IsPlainObject members)
    (hmembers : members ≠ []) {bound : Nat} (hbound : members.length ≤ bound) :
    readMembers bound (dumpMembers members ++ ['}']) = some members := by
  induction members generalizing bound with
  | nil => exact (hmembers rfl).elim
  | cons member rest ih =>
      obtain ⟨⟨hkey, hvalue⟩, hrest⟩ := List.forall_mem_cons.mp hplain
      obtain ⟨bound, rfl⟩ : ∃ earlier, bound = earlier + 1 :=
        Nat.exists_eq_succ_of_ne_zero (by
          rintro rfl
          cases hbound)
      have hread : ∀ tail : Text, tail.head?.all (fun character => !character.isDigit) = true →
          readString (dumpMember member ++ tail) =
              some (member.1.toList, ':' :: (dumpValue member.2 ++ tail)) ∧
            readValue (dumpValue member.2 ++ tail) = some (member.2, tail) := by
        intro tail htail
        rw [dumpMember, List.append_assoc, readString_quote hkey]
        exact ⟨rfl, readValue_dumpValue hvalue htail⟩
      cases rest with
      | nil =>
          obtain ⟨hmember, hafter⟩ := hread ['}'] (by decide)
          simp [readMembers, dumpMembers, hmember, hafter]
      | cons second others =>
          obtain ⟨hmember, hafter⟩ :=
            hread (',' :: (dumpMembers (second :: others) ++ ['}'])) (by simp)
          have hothers := ih hrest (List.cons_ne_nil _ _)
            (Nat.le_of_succ_le_succ hbound)
          have hdump : dumpMembers (member :: second :: others) ++ ['}'] =
              dumpMember member ++ ',' :: (dumpMembers (second :: others) ++ ['}']) := by
            simp [dumpMembers]
          rw [hdump, readMembers]
          simp [hmember, hafter, hothers]

theorem length_le_dumpMembers (members : JsonObject) :
    members.length ≤ (dumpMembers members).length := by
  induction members with
  | nil => exact le_rfl
  | cons member rest ih =>
      cases rest with
      | nil =>
          simp only [dumpMembers, dumpMember, List.length_cons, List.length_append,
            List.length_nil]
          omega
      | cons second others =>
          simp only [dumpMembers, List.length_cons, List.length_append] at ih ⊢
          omega

/-- What `dumps` writes, `parseObject` reads. -/
theorem parseObject_dumps {members : JsonObject} (hplain : IsPlainObject members)
    (hmembers : members ≠ []) : parseObject (dumps members) = some members := by
  have hlength := length_le_dumpMembers members
  have hne : dumpMembers members ++ ['}'] ≠ ['}'] := by
    intro heq
    have hnil : dumpMembers members = [] := List.append_left_eq_self.mp heq
    rw [hnil] at hlength
    exact hmembers (List.length_eq_zero_iff.mp (Nat.le_zero.mp hlength))
  have hread := @readMembers_dumpMembers members hplain hmembers (dumps members).length (by
    rw [dumps, List.length_cons, List.length_append]
    omega)
  simp only [parseObject, dumps, List.head?_cons, List.drop_one, List.tail_cons, if_neg hne]
  rw [← dumps, hread]
  rfl

theorem isAscii_append {first second : Text} :
    isAscii (first ++ second) = true ↔ isAscii first = true ∧ isAscii second = true := by
  simp [isAscii]

theorem isAscii_cons {character : Char} {text : Text} :
    isAscii (character :: text) = true ↔ character.toNat < 128 ∧ isAscii text = true := by
  simp [isAscii]

theorem isAscii_of_isPlain {text : Text} (htext : text.all isPlain = true) :
    isAscii text = true := by
  rw [isAscii, List.all_eq_true]
  intro character hcharacter
  have hplain := List.all_eq_true.mp htext character hcharacter
  rw [isPlain, Bool.and_eq_true] at hplain
  exact hplain.2

theorem isAscii_quote {text : Text} (htext : text.all isPlain = true) :
    isAscii (quote text) = true := by
  rw [quote, isAscii_cons, isAscii_append]
  exact ⟨by decide, isAscii_of_isPlain htext, by decide⟩

theorem isAscii_dumpMember {member : String × JsonValue}
    (hkey : member.1.toList.all isPlain = true)
    (hvalue : ∀ text, member.2 = .str text → text.all isPlain = true) :
    isAscii (dumpMember member) = true := by
  rw [dumpMember, isAscii_append, isAscii_cons]
  refine ⟨isAscii_quote hkey, by decide, ?_⟩
  cases hcontent : member.2 with
  | str text => exact isAscii_quote (hvalue text hcontent)
  | num value =>
      rw [dumpValue, isAscii, List.all_eq_true]
      intro digit hdigit
      have hrange := isDigit_of_mem_decimal hdigit
      simp only [Char.isDigit, Bool.and_eq_true, decide_eq_true_eq] at hrange
      have hnine : digit.toNat ≤ 57 := hrange.2
      exact decide_eq_true (by omega)

theorem isAscii_dumps {members : JsonObject} (hplain : IsPlainObject members) :
    isAscii (dumps members) = true := by
  have hmembers : isAscii (dumpMembers members) = true := by
    induction members with
    | nil => rfl
    | cons member rest ih =>
        obtain ⟨⟨hkey, hvalue⟩, hrest⟩ := List.forall_mem_cons.mp hplain
        cases rest with
        | nil => exact isAscii_dumpMember hkey hvalue
        | cons second others =>
            rw [dumpMembers, isAscii_append, isAscii_cons]
            · exact ⟨isAscii_dumpMember hkey hvalue, by decide, ih hrest⟩
            · nofun
  rw [dumps, isAscii_cons, isAscii_append]
  exact ⟨by decide, hmembers, by decide⟩

end Json

end TsnProtocol.Lib.TextFormat
