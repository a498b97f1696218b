import TsnProtocol.Node.AuthorizedMessages
import TsnProtocol.Sdk.MessageParsing

/-!
Which parameters of a canonical message are read back from the message that is built of them.
-/

namespace TsnProtocol.Sdk.MessageRoundTrip

open Lib.Checked
open Lib.JsonData
open Lib.LabelledLines
open Lib.PythonText (splitLabel)
open Lib.PythonValues (intText)
open Lib.TextFormat
open Sdk.CanonicalMessage
open Sdk.TokenAmounts
open Sdk.MessageParsing

section Lines

/-- A text that fills the rest of its line. -/
structure IsLine (value : String) : Prop where
  oneLine : '\n' ∉ value.toList
  nonempty : value ≠ ""
  trimmed : trimEnd value.toList = value.toList

instance (value : String) : Decidable (IsLine value) :=
  decidable_of_iff ('\n' ∉ value.toList ∧ value ≠ "" ∧ trimEnd value.toList = value.toList)
    ⟨fun ⟨hline, hnonempty, htrimmed⟩ => ⟨hline, hnonempty, htrimmed⟩,
      fun ⟨hline, hnonempty, htrimmed⟩ => ⟨hline, hnonempty, htrimmed⟩⟩

/-- The field of a line, whose label is not empty. -/
def readLine (line : Text) : Option (String × String) :=
  ((splitLabel line).filter fun parts => parts.1 ≠ []).map fun parts =>
    (String.ofList parts.1, String.ofList parts.2)

theorem readLine_eq_some {line : Text} {field : String × String} :
    readLine line = some field ↔
      IsLabel field.1.toList ∧ field.1 ≠ "" ∧
        line = field.1.toList ++ ':' :: ' ' :: field.2.toList := by
  have hempty : field.1 ≠ "" ↔ field.1.toList ≠ [] := by
    rw [Ne, Ne, String.toList_eq_nil_iff]
  simp only [readLine, Option.map_eq_some_iff, Option.filter_eq_some_iff, Prod.exists,
    splitLabel_eq_some, decide_eq_true_eq, hempty]
  constructor
  · rintro ⟨label, value, ⟨⟨hlabel, rfl⟩, hnonempty⟩, rfl⟩
    simp only [String.toList_ofList]
    exact ⟨hlabel, hnonempty, trivial⟩
  · rintro ⟨hlabel, hnonempty, rfl⟩
    exact ⟨field.1.toList, field.2.toList, ⟨⟨hlabel, rfl⟩, hnonempty⟩, by simp⟩

theorem parseLine_appends : AppendsField readLine parseLine := by
  intro parsed line next
  simp only [parseLine, readLine, bind_eq_ok, okOr_eq_ok, require_eq_ok, pure_eq_ok,
    Option.map_eq_some_iff, exists_const]
  constructor
  · rintro ⟨parts, hparts, hnew, rfl⟩
    exact ⟨_, ⟨parts, hparts, rfl⟩, hnew, rfl⟩
  · rintro ⟨_, ⟨parts, hparts, rfl⟩, hnew, rfl⟩
    exact ⟨parts, hparts, hnew, rfl⟩

/-- The lines of a message without the white space at their ends. -/
def linesOf (message : String) : List Text :=
  (message.toList.splitOn '\n').map trimEnd

theorem parseMessage_eq_ok {message action : String} {fields : Fields} :
    parseMessage message action = .ok fields ↔
      "TSN ".toList.isPrefixOf message.toList = true ∧
        (linesOf message)[0]? = some ("TSN " ++ action).toList ∧
        (linesOf message)[1]? = some "---".toList ∧
        List.Forall₂ (fun line field => readLine line = some field)
          ((linesOf message).drop 2) fields ∧
        (fields.map Prod.fst).Nodup ∧
        fields.lookup "Domain" = some canonicalDomainDisplay := by
  simp only [parseMessage, bind_eq_ok, require_eq_ok, pure_eq_ok, exists_const,
    foldlM_eq_ok parseLine_appends, List.nil_append, linesOf]
  constructor
  · rintro ⟨hstart, htitle, hrule, fields, ⟨_, hread, hnodup, -, rfl⟩, hdomain, rfl⟩
    exact ⟨hstart, htitle, hrule, hread, hnodup, hdomain⟩
  · rintro ⟨hstart, htitle, hrule, hread, hnodup, hdomain⟩
    exact ⟨hstart, htitle, hrule, fields, ⟨fields, hread, hnodup, fun _ _ => rfl, rfl⟩,
      hdomain, rfl⟩

theorem newline_not_mem_splitOn {text line : Text} (hline : line ∈ text.splitOn '\n') :
    '\n' ∉ line := by
  induction text generalizing line with
  | nil =>
      rw [List.splitOn_nil, List.mem_singleton] at hline
      simp [hline]
  | cons character text ih =>
      rw [List.splitOn_cons_eq_if_modifyHead] at hline
      split at hline
      · rcases List.mem_cons.mp hline with rfl | hline
        · exact List.not_mem_nil
        · exact ih hline
      · rename_i hcharacter
        rcases hlines : text.splitOn '\n' with _ | ⟨first, rest⟩
        · exact absurd hlines (List.splitOn_ne_nil _ _)
        · rw [hlines, List.modifyHead_cons, List.mem_cons] at hline
          rcases hline with rfl | hline
          · have hfirst := ih (hlines ▸ List.mem_cons_self)
            have hne : '\n' ≠ character := by
              rintro rfl
              simp at hcharacter
            simp [hne, hfirst]
          · exact ih (hlines ▸ List.mem_cons_of_mem _ hline)

/-- Every value that a message is read as fills its line. -/
theorem isLine_of_lookup {message action label value : String} {fields : Fields}
    (hparse : parseMessage message action = .ok fields)
    (hlookup : fields.lookup label = some value) : IsLine value := by
  obtain ⟨-, -, -, hread, -, -⟩ := parseMessage_eq_ok.mp hparse
  obtain ⟨line, hline, hfield⟩ := exists_line_of_mem hread (mem_of_lookup hlookup)
  obtain ⟨-, -, hparts⟩ := readLine_eq_some.mp hfield
  obtain ⟨raw, hraw, htrim⟩ := List.mem_map.mp (List.mem_of_mem_drop hline)
  have honeLine : '\n' ∉ line := by
    rw [← htrim]
    exact fun hmem => newline_not_mem_splitOn hraw
      ((List.rdropWhile_prefix _ raw).subset hmem)
  have htrimmed : trimEnd line = line := by
    rw [← htrim]
    exact List.rdropWhile_idempotent _ raw
  rw [hparts, trimEnd, rdropWhile_line (by decide) (by decide)] at htrimmed
  rw [hparts] at honeLine
  split_ifs at htrimmed with hblank
  · have hlength := congrArg List.length htrimmed
    simp at hlength
  · have hvalue := (List.cons.inj (List.cons.inj (List.append_cancel_left htrimmed)).2).2
    refine ⟨fun hmem => honeLine (by simp [hmem]), ?_, hvalue⟩
    rintro rfl
    exact hblank rfl

theorem trimEnd_line {label value : String} (hvalue : IsLine value) :
    trimEnd (label.toList ++ ':' :: ' ' :: value.toList) =
      label.toList ++ ':' :: ' ' :: value.toList := by
  have htrimmed : value.toList.rdropWhile isSpace = value.toList := hvalue.trimmed
  have hnonempty : value.toList ≠ [] := by
    rw [Ne, String.toList_eq_nil_iff]
    exact hvalue.nonempty
  rw [trimEnd, rdropWhile_line (by decide) (by decide), htrimmed, if_neg hnonempty]

/-- The lines of a message that is built of fields whose values fill their lines. -/
theorem linesOf_buildMessage {action : String} {fields : Fields}
    (haction : IsLine ("TSN " ++ action)) (hfields : ∀ field ∈ fields, IsLine field.2)
    (hlabels : ∀ field ∈ fields, '\n' ∉ field.1.toList) :
    linesOf (buildMessage action fields) = ("TSN " ++ action).toList :: "---".toList ::
      (fields ++ [("Domain", canonicalDomainDisplay)]).map fun field =>
        field.1.toList ++ ':' :: ' ' :: field.2.toList := by
  have hall : ∀ field ∈ fields ++ [("Domain", canonicalDomainDisplay)],
      IsLine field.2 ∧ '\n' ∉ field.1.toList := by
    intro field hfield
    rcases List.mem_append.mp hfield with hfield | hfield
    · exact ⟨hfields field hfield, hlabels field hfield⟩
    · rw [List.mem_singleton.mp hfield]
      decide
  have hmessage : buildMessage action fields = String.ofList (['\n'].intercalate
      (("TSN " ++ action).toList :: "---".toList ::
        (fields ++ [("Domain", canonicalDomainDisplay)]).map fun field =>
          field.1.toList ++ ':' :: ' ' :: field.2.toList)) := by
    rw [List.map_append]
    rfl
  have hlines : ∀ line ∈ ("TSN " ++ action).toList :: "---".toList ::
      ((fields ++ [("Domain", canonicalDomainDisplay)]).map fun field =>
        field.1.toList ++ ':' :: ' ' :: field.2.toList),
      '\n' ∉ line ∧ trimEnd line = line := by
    intro line hline
    rw [List.mem_cons, List.mem_cons, List.mem_map] at hline
    rcases hline with rfl | rfl | ⟨field, hfield, rfl⟩
    · exact ⟨haction.oneLine, haction.trimmed⟩
    · decide
    · obtain ⟨hvalue, hlabel⟩ := hall field hfield
      exact ⟨by simp [hlabel, hvalue.oneLine], trimEnd_line hvalue⟩
  rw [linesOf, hmessage, String.toList_ofList,
    List.splitOn_intercalate _ (fun line hline => (hlines line hline).1) (by simp)]
  nth_rewrite 2 [← List.map_id (_ :: _ :: _)]
  exact List.map_congr_left fun line hline => (hlines line hline).2

/-- A label that is one word of a message. -/
structure IsFieldLabel (label : String) : Prop where
  colon : ':' ∉ label.toList
  newline : '\n' ∉ label.toList
  nonempty : label ≠ ""

/-- A message of fields whose values fill their lines is read as these fields. -/
theorem parseMessage_buildMessage {action : String} {fields : Fields}
    (haction : IsLine ("TSN " ++ action)) (hfields : ∀ field ∈ fields, IsLine field.2)
    (hlabels : ∀ field ∈ fields, IsFieldLabel field.1)
    (hnodup : ((fields ++ [("Domain", canonicalDomainDisplay)]).map Prod.fst).Nodup) :
    parseMessage (buildMessage action fields) action =
      .ok (fields ++ [("Domain", canonicalDomainDisplay)]) := by
  have hlines := linesOf_buildMessage haction hfields fun field hfield =>
    (hlabels field hfield).newline
  have hstart : "TSN ".toList.isPrefixOf (buildMessage action fields).toList = true := by
    simp only [List.isPrefixOf_iff_prefix, buildMessage, String.toList_ofList,
      List.intercalate_cons_cons, String.toList_append, List.append_assoc]
    exact List.prefix_append _ _
  have hdomain : (fields ++ [("Domain", canonicalDomainDisplay)]).lookup "Domain" =
      some canonicalDomainDisplay := by
    rw [List.lookup_append]
    have hfresh : fields.lookup "Domain" = none := by
      rw [List.lookup_eq_none_iff]
      intro field hfield
      rw [List.map_append, List.nodup_append] at hnodup
      exact bne_iff_ne.mpr (Ne.symm (hnodup.2.2 field.1 (List.mem_map_of_mem hfield) "Domain"
        (by simp)))
    rw [hfresh]
    rfl
  refine parseMessage_eq_ok.mpr ⟨hstart, by rw [hlines]; rfl, by rw [hlines]; rfl, ?_, hnodup,
    hdomain⟩
  rw [hlines, List.drop_succ_cons, List.drop_succ_cons, List.drop_zero,
    List.forall₂_map_left_iff, List.forall₂_same]
  intro field hfield
  rw [readLine_eq_some]
  rcases List.mem_append.mp hfield with hfield | hfield
  · have hlabel := hlabels field hfield
    exact ⟨isLabel_of_colon_notMem hlabel.colon, hlabel.nonempty, rfl⟩
  · rw [List.mem_singleton.mp hfield]
    exact ⟨isLabel_of_colon_notMem (by decide), by decide, rfl⟩

end Lines

section Values

theorem isLine_of_getLast {text : Text} (hnewline : '\n' ∉ text) (hnonempty : text ≠ [])
    (hlast : isSpace (text.getLast hnonempty) = false) : IsLine (String.ofList text) := by
  refine ⟨by rwa [String.toList_ofList], ?_, ?_⟩
  · rintro hempty
    exact hnonempty (by rw [← @String.toList_ofList text, hempty]; rfl)
  · rw [String.toList_ofList, trimEnd, List.rdropWhile_eq_self_iff]
    intro _
    simp [hlast]

theorem isLine_of_solid {text : Text} (hnonempty : text ≠ [])
    (hsolid : ∀ character ∈ text, isSpace character = false) : IsLine (String.ofList text) := by
  refine isLine_of_getLast ?_ hnonempty (hsolid _ (List.getLast_mem hnonempty))
  intro hmem
  exact absurd (hsolid '\n' hmem) (by decide)

theorem isSpace_of_printed {character : Char} (hlow : 33 ≤ character.toNat)
    (hhigh : character.toNat < 128) : isSpace character = false := by
  rw [isSpace, Bool.or_eq_false_iff]
  refine ⟨?_, by simp; omega⟩
  simp only [List.contains_eq_mem, List.mem_cons, List.not_mem_nil, or_false,
    decide_eq_false_iff_not]
  omega

theorem isSpace_of_isDigit {digit : Char} (hdigit : digit.isDigit = true) :
    isSpace digit = false := by
  obtain ⟨hlow, hhigh⟩ := Lib.PythonText.isDigit_range hdigit
  exact isSpace_of_printed (by omega) (by omega)

theorem isLine_decimal (value : Nat) : IsLine (String.ofList (decimal value)) :=
  isLine_of_solid Nat.toDigits_ne_nil fun _ hdigit =>
    isSpace_of_isDigit (isDigit_of_mem_decimal hdigit)

theorem parseTin_eq_ok {value label result : String} :
    parseTin value label = .ok result ↔
      (value ≠ "" ∧ value.toList.all Char.isDigit = true) ∧ value = result := by
  simp only [parseTin, bind_eq_ok, require_eq_ok, pure_eq_ok, exists_const]

theorem isLine_of_digits {value : String}
    (hdigits : value ≠ "" ∧ value.toList.all Char.isDigit = true) : IsLine value := by
  rw [← @String.ofList_toList value]
  refine isLine_of_solid ?_ fun digit hdigit =>
    isSpace_of_isDigit (List.all_eq_true.mp hdigits.2 digit hdigit)
  rw [Ne, String.toList_eq_nil_iff]
  exact hdigits.1

end Values

section Amounts

/-- The amount is read back from its text: it is not negative, and no whole amount of a token
with one decimal place, which is written with two. -/
def IsReadable (baseUnits : Int) (decimals : Nat) : Prop :=
  0 ≤ baseUnits ∧ ¬ (decimals = 1 ∧ 10 ∣ baseUnits)

theorem intText_natCast (value : Nat) : intText (value : Int) = decimal value := by
  rw [intText, if_neg (by omega), Int.natAbs_natCast]

/-- The digits behind the point of an amount. -/
def placesOf (baseUnits decimals : Nat) : Text :=
  if decimals = 0 then []
  else if fractionDigits baseUnits decimals = [] then "00".toList
  else fractionDigits baseUnits decimals

theorem formatPlaces_natCast (baseUnits decimals : Nat) :
    formatPlaces baseUnits decimals =
      plainText (decimal (baseUnits / 10 ^ decimals)) (placesOf baseUnits decimals) := by
  have hscale : ((10 : Int) ^ decimals) = ((10 ^ decimals : Nat) : Int) := by push_cast; rfl
  have hwhole : (baseUnits : Int).tdiv (10 ^ decimals) =
      ((baseUnits / 10 ^ decimals : Nat) : Int) := by
    rw [hscale]
    rfl
  have hfraction : signedFraction baseUnits decimals = fractionDigits baseUnits decimals := by
    have hrest : (baseUnits : Int).tmod (10 ^ decimals) =
        ((baseUnits % 10 ^ decimals : Nat) : Int) := by
      rw [hscale]
      rfl
    rw [signedFraction, hrest, intText_natCast]
    rfl
  rw [formatPlaces, hwhole, hfraction, intText_natCast, placesOf]
  by_cases hzero : decimals = 0
  · simp [hzero, plainText]
  · by_cases hempty : fractionDigits baseUnits decimals = []
    · simp [hzero, hempty, plainText]
    · simp [hzero, hempty, plainText]

theorem isPlain_format (baseUnits decimals : Nat) :
    IsPlain (decimal (baseUnits / 10 ^ decimals)) (placesOf baseUnits decimals) := by
  refine ⟨Nat.toDigits_ne_nil, List.all_eq_true.mpr fun _ => isDigit_of_mem_decimal, ?_⟩
  rw [placesOf]
  split_ifs with hzero
  · rfl
  · rfl
  · exact (fractionDigits_spec (Nat.pos_of_ne_zero hzero)).1

/-- The digits of the text are the base units. -/
theorem unitsOf_format (baseUnits decimals : Nat) :
    unitsOf (decimal (baseUnits / 10 ^ decimals)) (placesOf baseUnits decimals) decimals =
      baseUnits := by
  have hsplit : baseUnits / 10 ^ decimals * 10 ^ decimals + baseUnits % 10 ^ decimals =
      baseUnits := by
    rw [Nat.mul_comm]
    exact Nat.div_add_mod _ _
  have hfraction : fractionUnits (placesOf baseUnits decimals) decimals =
      baseUnits % 10 ^ decimals := by
    rw [fractionUnits_eq, placesOf]
    by_cases hzero : decimals = 0
    · subst hzero
      rw [if_pos rfl, pow_zero, Nat.mod_one]
      rfl
    · obtain ⟨-, -, hvalue⟩ := @fractionDigits_spec baseUnits decimals (Nat.pos_of_ne_zero hzero)
      rw [if_neg hzero]
      split_ifs with hempty
      · rw [hempty] at hvalue
        have hzeros : decimalValue "00".toList = 0 := by decide
        have hnone : decimalValue [] = 0 := rfl
        rw [← hvalue, hzeros, hnone, Nat.zero_mul, Nat.zero_mul]
      · exact hvalue
  rw [unitsOf, decimalValue_decimal, hfraction, hsplit]

theorem length_placesOf_le {baseUnits decimals : Nat} :
    (placesOf baseUnits decimals).length ≤ decimals ↔ ¬ (decimals = 1 ∧ 10 ∣ baseUnits) := by
  have hwhole : 10 ∣ baseUnits → fractionDigits baseUnits 1 = [] := by
    intro hdvd
    rw [fractionDigits, pow_one, Nat.mod_eq_zero_of_dvd hdvd]
    rfl
  rw [placesOf]
  split_ifs with hzero hempty
  · simp [hzero]
  · constructor
    · rintro hlength ⟨rfl, -⟩
      exact absurd hlength (by decide)
    · rintro hreadable
      have hone : decimals ≠ 1 := by
        rintro rfl
        obtain ⟨-, -, hvalue⟩ := @fractionDigits_spec baseUnits 1 (by decide)
        rw [hempty, pow_one] at hvalue
        have hnone : decimalValue [] = 0 := rfl
        rw [hnone, Nat.zero_mul] at hvalue
        exact hreadable ⟨rfl, Nat.dvd_of_mod_eq_zero hvalue.symm⟩
      have htwo : "00".toList.length = 2 := rfl
      omega
  · obtain ⟨-, hlength, -⟩ := @fractionDigits_spec baseUnits decimals (Nat.pos_of_ne_zero hzero)
    refine iff_of_true hlength ?_
    rintro ⟨rfl, hdvd⟩
    exact hempty (hwhole hdvd)

theorem isSpace_of_mem_intText {value : Int} {character : Char}
    (hcharacter : character ∈ intText value) : isSpace character = false := by
  rw [intText] at hcharacter
  split_ifs at hcharacter
  · rcases List.mem_cons.mp hcharacter with rfl | hdigit
    · decide
    · exact isSpace_of_isDigit (isDigit_of_mem_decimal hdigit)
  · exact isSpace_of_isDigit (isDigit_of_mem_decimal hcharacter)

theorem isSpace_of_mem_signedFraction {baseUnits : Int} {decimals : Nat} {character : Char}
    (hcharacter : character ∈ signedFraction baseUnits decimals) :
    isSpace character = false := by
  rcases List.mem_append.mp ((List.rdropWhile_prefix _ _).subset hcharacter) with hmem | hmem
  · rw [List.eq_of_mem_replicate hmem]
    decide
  · exact isSpace_of_mem_intText hmem

theorem isSpace_of_mem_formatPlaces {baseUnits : Int} {decimals : Nat} {character : Char}
    (hcharacter : character ∈ formatPlaces baseUnits decimals) : isSpace character = false := by
  rw [formatPlaces] at hcharacter
  split at hcharacter
  · exact isSpace_of_mem_intText hcharacter
  · rcases List.mem_append.mp hcharacter with hmem | hmem
    · exact isSpace_of_mem_intText hmem
    · split at hmem
      · have hzeros : ".00".toList.all (isSpace · = false) = true := by decide
        exact of_decide_eq_true (List.all_eq_true.mp hzeros character hmem)
      · rcases List.mem_cons.mp hmem with rfl | hmem
        · decide
        · exact isSpace_of_mem_signedFraction hmem

theorem formatPlaces_ne_nil {baseUnits : Int} {decimals : Nat} :
    formatPlaces baseUnits decimals ≠ [] := by
  have hwhole : intText (baseUnits.tdiv (10 ^ decimals)) ≠ [] := by
    rw [intText]
    split_ifs
    · exact List.cons_ne_nil _ _
    · exact Nat.toDigits_ne_nil
  rw [formatPlaces]
  split
  · exact hwhole
  · intro hempty
    exact hwhole (List.append_eq_nil_iff.mp hempty).1

theorem isLine_formatPlaces (baseUnits : Int) (decimals : Nat) :
    IsLine (String.ofList (formatPlaces baseUnits decimals)) :=
  isLine_of_solid formatPlaces_ne_nil fun _ => isSpace_of_mem_formatPlaces

theorem isLine_formatUsdc (baseUnits : Int) : IsLine (formatUsdcBaseUnits baseUnits) := by
  refine isLine_of_getLast ?_ (by simp) ?_
  · rw [List.mem_append, not_or]
    refine ⟨?_, by decide⟩
    intro hmem
    exact absurd (isSpace_of_mem_formatPlaces hmem) (by decide)
  · rw [List.getLast_append_of_ne_nil _ (by decide)]
    decide

theorem minus_mem_intText {value : Int} (hnegative : value < 0) : '-' ∈ intText value := by
  rw [intText, if_pos hnegative]
  exact List.mem_cons_self

theorem minus_mem_signedFraction {baseUnits : Int} {decimals : Nat}
    (hnegative : baseUnits.tmod (10 ^ decimals) < 0) :
    '-' ∈ signedFraction baseUnits decimals := by
  have hdigits := minus_mem_intText hnegative
  obtain ⟨zeros, hzeros⟩ := rdropWhile_zero (List.replicate
    (decimals - (intText (baseUnits.tmod (10 ^ decimals))).length) '0' ++
      intText (baseUnits.tmod (10 ^ decimals)))
  have hmem := hzeros ▸ List.mem_append_right _ hdigits
  rcases List.mem_append.mp hmem with hmem | hmem
  · exact hmem
  · exact absurd (List.eq_of_mem_replicate hmem) (by decide)

theorem minus_mem_formatPlaces {baseUnits : Int} {decimals : Nat} (hnegative : baseUnits < 0) :
    '-' ∈ formatPlaces baseUnits decimals := by
  have hpower : (0 : Int) < 10 ^ decimals := by positivity
  rw [formatPlaces]
  by_cases hzero : decimals = 0
  · rw [if_pos hzero]
    apply minus_mem_intText
    rwa [hzero, pow_zero, Int.tdiv_one]
  · rw [if_neg hzero]
    rcases lt_or_ge (baseUnits.tdiv (10 ^ decimals)) 0 with hwhole | hwhole
    · exact List.mem_append_left _ (minus_mem_intText hwhole)
    · have hfraction : '-' ∈ signedFraction baseUnits decimals := by
        apply minus_mem_signedFraction
        have hsplit := Int.mul_tdiv_add_tmod baseUnits (10 ^ decimals)
        nlinarith
      refine List.mem_append_right _ ?_
      rw [if_neg (List.ne_nil_of_mem hfraction)]
      exact List.mem_cons_of_mem _ hfraction

theorem decimalParts_negative {baseUnits : Int} {decimals : Nat} (hnegative : baseUnits < 0) :
    decimalParts (formatPlaces baseUnits decimals) = none := by
  rcases hparts : decimalParts (formatPlaces baseUnits decimals) with _ | ⟨whole, fraction⟩
  · rfl
  · obtain ⟨hplain, htext⟩ := decimalParts_eq_some hparts
    have hminus := htext ▸ @minus_mem_formatPlaces baseUnits decimals hnegative
    rcases isDigit_or_point_of_plain hplain hminus with hdigit | hpoint
    · exact absurd hdigit (by decide)
    · exact absurd hpoint (by decide)

/-- What the text of an amount is read as. -/
theorem readsPlaces_iff {baseUnits value : Int} {decimals : Nat} :
    (∃ parts, (decimalParts (formatPlaces baseUnits decimals)).filter
        (fun parts => parts.2.length ≤ decimals) = some parts ∧
        (unitsOf parts.1 parts.2 decimals : Int) = value) ↔
      IsReadable baseUnits decimals ∧ baseUnits = value := by
  rw [IsReadable]
  rcases lt_or_ge baseUnits 0 with hnegative | hpositive
  · rw [decimalParts_negative hnegative]
    simp [hnegative.not_ge]
  · obtain ⟨units, rfl⟩ := Int.eq_ofNat_of_zero_le hpositive
    have hdvd : (10 : Int) ∣ units ↔ 10 ∣ units := by
      exact_mod_cast Int.natCast_dvd_natCast
    rw [formatPlaces_natCast, decimalParts_plain (isPlain_format _ _), hdvd,
      ← @length_placesOf_le units decimals]
    simp only [Option.filter_some, decide_eq_true_eq]
    split_ifs with hlength
    · simp [unitsOf_format, hlength]
    · simp [hlength]

theorem parseTokenAmount_format {baseUnits value : Int} {decimals : Nat} {label : String} :
    parseTokenAmount (String.ofList (formatPlaces baseUnits decimals)) label decimals =
        .ok value ↔
      IsReadable baseUnits decimals ∧ baseUnits = value := by
  simp only [parseTokenAmount, bind_eq_ok, okOr_eq_ok, pure_eq_ok, String.toList_ofList]
  exact readsPlaces_iff

theorem parseUsdc_format {baseUnits value : Int} {label : String} :
    parseUsdc (formatUsdcBaseUnits baseUnits) label = .ok value ↔
      0 ≤ baseUnits ∧ baseUnits = value := by
  have hsuffix : " USDC".toList.isSuffixOf (formatPlaces baseUnits 6 ++ " USDC".toList) = true := by
    rw [List.isSuffixOf_iff_suffix]
    exact List.suffix_append _ _
  have hrest : (formatPlaces baseUnits 6 ++ " USDC".toList).rdrop 5 =
      formatPlaces baseUnits 6 := by
    exact List.rdrop_append_length
  have hreadable : IsReadable baseUnits 6 ↔ 0 ≤ baseUnits := by
    simp [IsReadable]
  simp only [parseUsdc, formatUsdcBaseUnits, bind_eq_ok, okOr_eq_ok, pure_eq_ok,
    String.toList_ofList, if_pos hsuffix, hrest]
  rw [← hreadable]
  exact readsPlaces_iff

end Amounts

end TsnProtocol.Sdk.MessageRoundTrip
