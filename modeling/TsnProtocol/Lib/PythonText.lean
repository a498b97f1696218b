import Mathlib
import TsnProtocol.Lib.TextFormat

/-!
Texts and the numbers written in them, as Python reads them.
-/

namespace TsnProtocol.Lib.PythonText

open Lib.TextFormat

/-- What the tables of Unicode say of letters and of decimal digits. -/
structure Unicode where
  lower : String → String
  digitOf : Char → Option Nat

/-- White space, as `strip` removes it. -/
def isSpace (character : Char) : Bool :=
  [9, 10, 11, 12, 13, 28, 29, 30, 31, 32, 0x85, 0xa0, 0x1680, 0x2028, 0x2029, 0x202f,
      0x205f, 0x3000].contains character.toNat ||
    (0x2000 ≤ character.toNat && character.toNat ≤ 0x200a)

def stripText (text : Text) : Text :=
  (text.dropWhile isSpace).rdropWhile isSpace

def strip (text : String) : String :=
  String.ofList (stripText text.toList)

def splitLines (text : String) : List String :=
  (text.toList.splitOn '\n').map String.ofList

/-- The two parts around the first colon that a blank follows. -/
def splitLabel : Text → Option (Text × Text)
  | ':' :: ' ' :: value => some ([], value)
  | character :: rest =>
      (splitLabel rest).map fun parts => (character :: parts.1, parts.2)
  | [] => none

theorem splitLabel_append {label value : Text} (hlabel : ':' ∉ label) :
    splitLabel (label ++ ':' :: ' ' :: value) = some (label, value) := by
  induction label with
  | nil => rfl
  | cons character label ih =>
      rw [List.mem_cons, not_or] at hlabel
      rw [List.cons_append, splitLabel, ih hlabel.2]
      · rfl
      · intro _ hcolon _
        exact hlabel.1 hcolon.symm

section Integers

/-- The value of digits, unless there are more than a conversion takes. -/
def naturalOf (unicode : Unicode) (text : Text) : Option Nat := do
  let digits ← text.mapM unicode.digitOf
  if digits = [] ∨ 4300 < digits.length then none
  else some (Nat.ofDigits 10 digits.reverse)

/-- Underscores stand between digits only. -/
def groupedOf (unicode : Unicode) (text : Text) : Option Nat :=
  if (text.splitOn '_').all (fun group => group ≠ []) = true then
    naturalOf unicode (text.filter (· ≠ '_'))
  else none

def signOf : Text → Bool × Text
  | '-' :: rest => (true, rest)
  | '+' :: rest => (false, rest)
  | rest => (false, rest)

def intOf (unicode : Unicode) (text : String) : Option Int :=
  let (negative, digits) := signOf (stripText text.toList)
  (groupedOf unicode digits).map fun value => if negative then -(value : Int) else value

end Integers

section Decimals

inductive Decimal where
  | finite (negative : Bool) (coefficient : Nat) (exponent : Int)
  | infinite (negative : Bool)
  | nan (signaling : Bool)
  deriving DecidableEq, Repr

def exponentOf : Text → Option Int
  | [] => some 0
  | _ :: rest =>
      let (negative, digits) := signOf rest
      if digits ≠ [] ∧ digits.all Char.isDigit = true then
        some (if negative then -(decimalValue digits : Int) else decimalValue digits)
      else none

/-- Within the exponents that a decimal is kept exactly with. -/
def keptExactly (coefficient : Nat) (exponent : Int) : Prop :=
  -1999999999999999997 ≤ exponent ∧
    exponent + (decimal coefficient).length ≤ 1000000000000000000

instance (coefficient : Nat) (exponent : Int) : Decidable (keptExactly coefficient exponent) :=
  inferInstanceAs (Decidable (_ ∧ _))

def finiteOf (negative : Bool) (text : Text) : Option Decimal := do
  let mantissa := text.takeWhile fun character => character ≠ 'e' && character ≠ 'E'
  let fraction := (mantissa.dropWhile (· ≠ '.')).drop 1
  let digits := mantissa.takeWhile (· ≠ '.') ++ fraction
  let shift ← exponentOf (text.drop mantissa.length)
  if digits ≠ [] ∧ digits.all Char.isDigit = true ∧
      keptExactly (decimalValue digits) (shift - fraction.length) then
    some (.finite negative (decimalValue digits) (shift - fraction.length))
  else none

/-- Digits of every script as those of ASCII, underscores dropped. -/
def asciiDigits (unicode : Unicode) (text : Text) : Text :=
  ((stripText text).filter (· ≠ '_')).map fun character =>
    ((unicode.digitOf character).map fun digit => Char.ofNat (48 + digit)).getD character

def decimalOf (unicode : Unicode) (text : String) : Option Decimal :=
  let (negative, body) := signOf (asciiDigits unicode text.toList)
  match body.map Char.toLower with
  | ['i', 'n', 'f'] | ['i', 'n', 'f', 'i', 'n', 'i', 't', 'y'] => some (.infinite negative)
  | 'n' :: 'a' :: 'n' :: digits => if digits.all Char.isDigit then some (.nan false) else none
  | 's' :: 'n' :: 'a' :: 'n' :: digits =>
      if digits.all Char.isDigit then some (.nan true) else none
  | _ => finiteOf negative body

def finiteValue (negative : Bool) (coefficient : Nat) (exponent : Int) : Rat :=
  (if negative then -1 else 1) * coefficient * (10 : Rat) ^ exponent

/-- To the nearest integer, to the even one of two. -/
def halfEven (value : Rat) : Int :=
  let below := ⌊value⌋
  if value - below < 1 / 2 ∨ value - below = 1 / 2 ∧ below % 2 = 0 then below else below + 1

/-- The least decimal place that 28 digits reach. -/
def lastPlace (value : Rat) : Int :=
  max (Int.log 10 |value| - 27) (-1000026)

/-- A result in the default context; `none` where it overflows. -/
def roundInContext (value : Rat) : Option Rat :=
  let place := (10 : Rat) ^ lastPlace value
  let rounded := halfEven (value / place) * place
  if Int.log 10 |rounded| < 1000000 then some rounded else none

/-- A decimal in positional notation. -/
def positional (negative : Bool) (coefficient : Nat) (exponent : Int) : String :=
  let digits := decimal coefficient
  let sign := if negative then "-" else ""
  if 0 ≤ exponent then
    sign ++ String.ofList (digits ++
      List.replicate (if coefficient = 0 then 0 else exponent.toNat) '0')
  else
    let places := (-exponent).toNat
    let padded := List.replicate (places + 1 - digits.length) '0' ++ digits
    sign ++ String.ofList (padded.take (padded.length - places)) ++ "." ++
      String.ofList (padded.drop (padded.length - places))

theorem halfEven_intCast (value : Int) : halfEven value = value := by
  have hfloor : ⌊(value : Rat)⌋ = value := Int.floor_intCast value
  rw [halfEven]
  simp [hfloor]

/-- A natural number of at most 28 digits is kept as it is. -/
theorem roundInContext_natCast {value : Nat} (hvalue : value < 10 ^ 28) :
    roundInContext (value : Rat) = some (value : Rat) := by
  have hlog : Int.log 10 |(value : Rat)| = Nat.log 10 value := by
    rw [abs_of_nonneg (Nat.cast_nonneg value), Int.log_natCast]
  have hsmall : Nat.log 10 value < 28 := by
    rcases Nat.eq_zero_or_pos value with rfl | hpos
    · simp
    · exact Nat.log_lt_of_lt_pow (by omega) hvalue
  obtain ⟨places, hplaces⟩ : ∃ places : Nat, lastPlace (value : Rat) = -(places : Int) := by
    refine ⟨(-lastPlace (value : Rat)).toNat, ?_⟩
    have hle : lastPlace (value : Rat) ≤ 0 := by
      rw [lastPlace, hlog]
      omega
    omega
  have hpower : (10 : Rat) ^ lastPlace (value : Rat) = ((10 : Rat) ^ places)⁻¹ := by
    rw [hplaces, zpow_neg, zpow_natCast]
  have hscaled : (value : Rat) / (10 : Rat) ^ lastPlace (value : Rat) =
      (((value * 10 ^ places : Nat) : Int) : Rat) := by
    rw [hpower, div_inv_eq_mul]
    push_cast
    rfl
  have hback : (((value * 10 ^ places : Nat) : Int) : Rat) *
      (10 : Rat) ^ lastPlace (value : Rat) = value := by
    rw [hpower]
    push_cast
    rw [mul_assoc, mul_inv_cancel₀ (pow_ne_zero _ (by norm_num)), mul_one]
  have hfits : (Nat.log 10 value : Int) < 1000000 := by omega
  simp only [roundInContext]
  rw [hscaled, halfEven_intCast, hback, hlog, if_pos hfits]

theorem floor_le_halfEven (value : Rat) : ⌊value⌋ ≤ halfEven value := by
  simp only [halfEven]
  split_ifs <;> omega

theorem nonneg_of_roundInContext {value rounded : Rat} (hvalue : 0 ≤ value)
    (hround : roundInContext value = some rounded) : 0 ≤ rounded := by
  have hplace : (0 : Rat) < (10 : Rat) ^ lastPlace value := zpow_pos (by norm_num) _
  have hfloor : 0 ≤ halfEven (value / (10 : Rat) ^ lastPlace value) :=
    le_trans (Int.floor_nonneg.mpr (div_nonneg hvalue hplace.le)) (floor_le_halfEven _)
  simp only [roundInContext] at hround
  split at hround
  · obtain rfl := Option.some.inj hround
    exact mul_nonneg (Int.cast_nonneg hfloor) hplace.le
  · cases hround

/-- Rounding takes no number of more than 28 digits to one of less than 28. -/
theorem le_of_roundInContext {value rounded : Rat} (hvalue : 10 ^ 28 ≤ value)
    (hround : roundInContext value = some rounded) : 10 ^ 27 ≤ rounded := by
  have hpos : 0 < value := lt_of_lt_of_le (by norm_num) hvalue
  have hlog : 28 ≤ Int.log 10 |value| := by
    rw [abs_of_pos hpos, ← Int.zpow_le_iff_le_log (by decide) hpos]
    exact_mod_cast hvalue
  have hplace : lastPlace value = Int.log 10 |value| - 27 := by
    rw [lastPlace]
    omega
  have hscaled : (10 : Rat) ^ 27 ≤ value / (10 : Rat) ^ lastPlace value := by
    have hbelow : (10 : Rat) ^ Int.log 10 |value| ≤ value := by
      rw [abs_of_pos hpos]
      exact_mod_cast Int.zpow_log_le_self (by decide) hpos
    rw [le_div_iff₀ (zpow_pos (by norm_num) _), hplace, ← zpow_natCast,
      ← zpow_add₀ (by norm_num)]
    simpa using hbelow
  have hfloor : (10 : Int) ^ 27 ≤ halfEven (value / (10 : Rat) ^ lastPlace value) :=
    le_trans (Int.le_floor.mpr (by exact_mod_cast hscaled)) (floor_le_halfEven _)
  have hone : (1 : Rat) ≤ (10 : Rat) ^ lastPlace value :=
    one_le_zpow₀ (by norm_num) (by omega)
  simp only [roundInContext] at hround
  split at hround
  · obtain rfl := Option.some.inj hround
    calc (10 : Rat) ^ 27 ≤ (halfEven (value / (10 : Rat) ^ lastPlace value) : Rat) := by
          exact_mod_cast hfloor
      _ ≤ _ := le_mul_of_one_le_right (le_trans (by norm_num) (Int.cast_le.mpr hfloor)) hone
  · cases hround

/-- Digits of ASCII, as the tables of Unicode have them. -/
def AsciiDigits (unicode : Unicode) : Prop :=
  ∀ character : Char, character.toNat < 128 → unicode.digitOf character =
    if character.isDigit = true then some (character.toNat - 48) else none

def isPlain (character : Char) : Bool :=
  character.isDigit || character = '.'

theorem isDigit_range {character : Char} (hdigit : character.isDigit = true) :
    48 ≤ character.toNat ∧ character.toNat ≤ 57 := by
  rw [Char.isDigit, Bool.and_eq_true, decide_eq_true_eq, decide_eq_true_eq] at hdigit
  exact ⟨hdigit.1, hdigit.2⟩

theorem signOf_of_isDigit {first : Char} {rest : Text} (hfirst : first.isDigit = true) :
    signOf (first :: rest) = (false, first :: rest) := by
  rw [signOf]
  · rintro _ heq
    exact absurd ((List.cons.inj heq).1 ▸ hfirst) (by decide)
  · rintro _ heq
    exact absurd ((List.cons.inj heq).1 ▸ hfirst) (by decide)

theorem isSpace_of_isPlain {character : Char} (hplain : isPlain character = true) :
    isSpace character = false := by
  have hrange : 46 ≤ character.toNat ∧ character.toNat ≤ 57 := by
    rw [isPlain, Bool.or_eq_true, decide_eq_true_eq] at hplain
    rcases hplain with hdigit | rfl
    · have hbounds := isDigit_range hdigit
      omega
    · decide
  obtain ⟨hlow, hhigh⟩ := hrange
  rw [isSpace]
  interval_cases character.toNat <;> rfl

theorem trimmed_eq_self {drop : Char → Bool} {text : Text}
    (htext : ∀ character ∈ text, drop character = false) :
    (text.dropWhile drop).rdropWhile drop = text := by
  have hdrop : text.dropWhile drop = text := by
    cases text with
    | nil => rfl
    | cons first rest =>
        exact List.dropWhile_cons_of_neg (by simp [htext first List.mem_cons_self])
  rw [hdrop, List.rdropWhile_eq_self_iff]
  intro hnonempty
  simp [htext _ (List.getLast_mem hnonempty)]

theorem asciiDigits_eq_self {unicode : Unicode} (hascii : AsciiDigits unicode) {text : Text}
    (htext : ∀ character ∈ text, isPlain character = true) :
    asciiDigits unicode text = text := by
  have hfilter : text.filter (· ≠ '_') = text := by
    rw [List.filter_eq_self]
    intro character hcharacter
    have hplain := htext character hcharacter
    refine decide_eq_true ?_
    rintro rfl
    exact absurd hplain (by decide)
  rw [asciiDigits, stripText, trimmed_eq_self fun character hcharacter =>
    isSpace_of_isPlain (htext character hcharacter), hfilter]
  nth_rewrite 2 [← List.map_id text]
  refine List.map_congr_left fun character hcharacter => ?_
  have hplain := htext character hcharacter
  rw [isPlain, Bool.or_eq_true, decide_eq_true_eq] at hplain
  rcases hplain with hdigit | rfl
  · have hbounds := isDigit_range hdigit
    have hvalue : 48 + (character.toNat - 48) = character.toNat := by omega
    rw [hascii character (by omega), if_pos hdigit]
    simp [hvalue, Char.ofNat_toNat]
  · rw [hascii '.' (by decide), if_neg (by decide)]
    rfl

theorem finiteOf_plain {whole fraction point : Text} (hwhole : whole.all Char.isDigit = true)
    (hfraction : fraction.all Char.isDigit = true) (hnonempty : whole ≠ [])
    (hpoint : point = [] ∧ fraction = [] ∨ point = '.' :: fraction) :
    finiteOf false (whole ++ point) =
      if keptExactly (decimalValue (whole ++ fraction)) (0 - fraction.length) then
        some (.finite false (decimalValue (whole ++ fraction)) (0 - fraction.length))
      else none := by
  have hdigit : ∀ character : Char, character.isDigit = true →
      character ≠ 'e' ∧ character ≠ 'E' ∧ character ≠ '.' := by
    intro character hcharacter
    refine ⟨?_, ?_, ?_⟩ <;> rintro rfl <;> exact absurd hcharacter (by decide)
  have hmantissa : (whole ++ point).takeWhile
      (fun character => character ≠ 'e' && character ≠ 'E') = whole ++ point := by
    rw [List.takeWhile_eq_self_iff]
    intro character hcharacter
    have hplain : character.isDigit = true ∨ character = '.' := by
      rcases List.mem_append.mp hcharacter with hmem | hmem
      · exact .inl (List.all_eq_true.mp hwhole character hmem)
      · rcases hpoint with ⟨rfl, -⟩ | rfl
        · exact absurd hmem List.not_mem_nil
        · rcases List.mem_cons.mp hmem with hdot | hmem
          · exact .inr hdot
          · exact .inl (List.all_eq_true.mp hfraction character hmem)
    rcases hplain with hplain | rfl
    · simp [(hdigit character hplain).1, (hdigit character hplain).2.1]
    · decide
  have hparts : (whole ++ point).takeWhile (· ≠ '.') = whole ∧
      ((whole ++ point).dropWhile (· ≠ '.')).drop 1 = fraction := by
    have hall : ∀ character ∈ whole, decide (character ≠ '.') = true := by
      intro character hcharacter
      exact decide_eq_true (hdigit character (List.all_eq_true.mp hwhole character hcharacter)).2.2
    rcases hpoint with ⟨rfl, rfl⟩ | rfl
    · rw [List.append_nil, List.takeWhile_eq_self_iff.mpr hall, List.dropWhile_eq_nil_iff.mpr hall]
      exact ⟨rfl, rfl⟩
    · rw [List.takeWhile_append_of_pos hall, List.dropWhile_append_of_pos hall]
      simp
  have hnonempty : whole ++ fraction ≠ [] := by simp [hnonempty]
  have hdigits : (whole ++ fraction).all Char.isDigit = true := by
    rw [List.all_append, hwhole, hfraction]
    rfl
  simp only [finiteOf]
  rw [hmantissa, hparts.1, hparts.2, List.drop_length, exponentOf, hdigits]
  simp only [Option.bind_eq_bind, Option.bind_some, ne_eq, hnonempty, not_false_eq_true,
    true_and]

/-- A text of digits, with others after a point or none, is read as it stands. -/
theorem decimalOf_digits {unicode : Unicode} (hascii : AsciiDigits unicode)
    {whole fraction point : Text} (hwhole : whole.all Char.isDigit = true)
    (hfraction : fraction.all Char.isDigit = true) (hnonempty : whole ≠ [])
    (hpoint : point = [] ∧ fraction = [] ∨ point = '.' :: fraction) :
    decimalOf unicode (String.ofList (whole ++ point)) =
      if keptExactly (decimalValue (whole ++ fraction)) (0 - fraction.length) then
        some (.finite false (decimalValue (whole ++ fraction)) (0 - fraction.length))
      else none := by
  have hplain : ∀ character ∈ whole ++ point, isPlain character = true := by
    intro character hcharacter
    rw [isPlain, Bool.or_eq_true, decide_eq_true_eq]
    rcases List.mem_append.mp hcharacter with hmem | hmem
    · exact .inl (List.all_eq_true.mp hwhole character hmem)
    · rcases hpoint with ⟨rfl, -⟩ | rfl
      · exact absurd hmem List.not_mem_nil
      · rcases List.mem_cons.mp hmem with hdot | hmem
        · exact .inr hdot
        · exact .inl (List.all_eq_true.mp hfraction character hmem)
  obtain ⟨first, rest, rfl⟩ := List.exists_cons_of_ne_nil hnonempty
  have hfirst : first.isDigit = true := by
    rw [List.all_cons, Bool.and_eq_true] at hwhole
    exact hwhole.1
  have hlower : first.toLower = first := by
    have hbounds := isDigit_range hfirst
    unfold Char.toLower
    apply dif_neg
    rintro ⟨hlow, -⟩
    have hupper : 65 ≤ first.toNat := hlow
    omega
  have hother : ∀ {character : Char}, character.isDigit = false → first ≠ character := by
    rintro character hcharacter rfl
    rw [hfirst] at hcharacter
    cases hcharacter
  have hsign : signOf (first :: rest ++ point) = (false, first :: rest ++ point) :=
    signOf_of_isDigit hfirst
  rw [decimalOf, String.toList_ofList, asciiDigits_eq_self hascii hplain, hsign]
  simp only [List.cons_append, List.map_cons, hlower]
  split
  case h_5 => exact finiteOf_plain hwhole hfraction hnonempty hpoint
  all_goals
    rename_i heq
    exact absurd (List.cons.inj heq).1 (hother (by decide))

theorem decimalOf_plain {unicode : Unicode} (hascii : AsciiDigits unicode)
    {whole fraction point : Text} (hwhole : whole.all Char.isDigit = true)
    (hfraction : fraction.all Char.isDigit = true) (hnonempty : whole ≠ [])
    (hpoint : point = [] ∧ fraction = [] ∨ point = '.' :: fraction)
    (hkept : keptExactly (decimalValue (whole ++ fraction)) (0 - fraction.length)) :
    decimalOf unicode (String.ofList (whole ++ point)) =
      some (.finite false (decimalValue (whole ++ fraction)) (0 - fraction.length)) := by
  rw [decimalOf_digits hascii hwhole hfraction hnonempty hpoint, if_pos hkept]

end Decimals

section Naturals

variable {unicode : Unicode}

theorem mapM_digitOf (hascii : AsciiDigits unicode) {digits : Text}
    (hdigits : digits.all Char.isDigit = true) :
    digits.mapM unicode.digitOf = some (digits.map fun digit => digit.toNat - 48) := by
  induction digits with
  | nil => rfl
  | cons digit digits ih =>
      rw [List.all_cons, Bool.and_eq_true] at hdigits
      have hbounds := isDigit_range hdigits.1
      rw [List.mapM_cons, hascii digit (by omega), if_pos hdigits.1, ih hdigits.2]
      rfl

theorem ofDigits_eq_decimalValue (digits : Text) :
    Nat.ofDigits 10 (digits.map fun digit => digit.toNat - 48).reverse = decimalValue digits := by
  induction digits using List.reverseRecOn with
  | nil => rfl
  | append_singleton digits digit ih =>
      rw [List.map_append, List.reverse_append, decimalValue, Nat.ofDigitChars_append]
      rw [List.map_singleton, List.reverse_singleton, List.singleton_append, Nat.ofDigits_cons,
        ih, decimalValue, Nat.ofDigitChars_cons, Nat.ofDigitChars_nil, Nat.add_comm]
      rfl

theorem naturalOf_digits (hascii : AsciiDigits unicode) {digits : Text}
    (hdigits : digits.all Char.isDigit = true) (hnonempty : digits ≠ [])
    (hlength : digits.length ≤ 4300) :
    naturalOf unicode digits = some (decimalValue digits) := by
  have hsize : ¬ (digits.map (fun digit => digit.toNat - 48) = [] ∨
      4300 < (digits.map fun digit => digit.toNat - 48).length) := by
    rw [List.map_eq_nil_iff, List.length_map]
    rintro (hempty | hlong)
    · exact hnonempty hempty
    · omega
  simp only [naturalOf, mapM_digitOf hascii hdigits, Option.bind_eq_bind, Option.bind_some]
  rw [if_neg hsize, ofDigits_eq_decimalValue]

theorem intOf_digits (hascii : AsciiDigits unicode) {digits : Text}
    (hdigits : digits.all Char.isDigit = true) (hnonempty : digits ≠ [])
    (hlength : digits.length ≤ 4300) :
    intOf unicode (String.ofList digits) = some (decimalValue digits : Int) := by
  have hchar : ∀ {character : Char}, character ∈ digits → character.isDigit = true :=
    fun hmem => List.all_eq_true.mp hdigits _ hmem
  have hother : ∀ {character : Char}, character.isDigit = false → character ∉ digits := by
    intro character hcharacter hmem
    rw [hchar hmem] at hcharacter
    cases hcharacter
  have hstrip : stripText digits = digits := by
    apply trimmed_eq_self
    intro character hmem
    exact isSpace_of_isPlain (by rw [isPlain, hchar hmem]; rfl)
  have hsign : signOf digits = (false, digits) := by
    obtain ⟨first, rest, rfl⟩ := List.exists_cons_of_ne_nil hnonempty
    exact signOf_of_isDigit (hchar List.mem_cons_self)
  have hgroups : digits.splitOn '_' = [digits] :=
    List.splitOn_eq_singleton (hother (by decide))
  have hfilter : digits.filter (· ≠ '_') = digits := by
    rw [List.filter_eq_self]
    intro character hmem
    refine decide_eq_true ?_
    rintro rfl
    exact hother (by decide) hmem
  rw [intOf, String.toList_ofList, hstrip, hsign]
  simp only [groupedOf, hgroups, hfilter, naturalOf_digits hascii hdigits hnonempty hlength]
  simp [hnonempty]

end Naturals

end TsnProtocol.Lib.PythonText
