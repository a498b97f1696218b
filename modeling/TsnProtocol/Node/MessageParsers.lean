import TsnProtocol.Sdk.BuiltMessages

/-!
The two readers of canonical messages, of the SDK and of the Node: which messages they read
as the same fields.
-/

namespace TsnProtocol.Node.MessageParsers

open Lib.Checked
open Lib.LabelledLines
open Lib.PythonText (splitLabel splitLines)
open Lib.TextFormat
open Node.PaymentAuthorization (parseCanonicalMessage parseField)
open Sdk.CanonicalMessage
open Sdk.MessageParsing
open Sdk.MessageRoundTrip
open Sdk.BuiltMessages

section Templates

variable {action message : String} {fields : Fields}

def rawLines (message : String) : List Text :=
  message.toList.splitOn '\n'

theorem linesOf_eq_map (message : String) : linesOf message = (rawLines message).map trimEnd :=
  rfl

/-- The line of a field. -/
def IsFieldLine (line : Text) (field : String × String) : Prop :=
  IsLabel field.1.toList ∧ line = field.1.toList ++ ':' :: ' ' :: field.2.toList

/-- A title, a rule and lines of fields with different labels, the domain among them. -/
structure IsTemplate (action : String) (lines : List Text) (fields : Fields) : Prop where
  title : lines[0]? = some ("TSN " ++ action).toList
  rule : lines[1]? = some "---".toList
  body : List.Forall₂ IsFieldLine (lines.drop 2) fields
  labels : (fields.map Prod.fst).Nodup
  domain : fields.lookup "Domain" = some canonicalDomainDisplay

theorem readLine_forall {lines : List Text} :
    List.Forall₂ (fun line field => readLine line = some field) lines fields ↔
      List.Forall₂ IsFieldLine lines fields ∧ ∀ field ∈ fields, field.1 ≠ "" := by
  constructor
  · intro hread
    refine ⟨hread.imp ?_, ?_⟩
    · intro line field hline
      obtain ⟨hlabel, -, hparts⟩ := readLine_eq_some.mp hline
      exact ⟨hlabel, hparts⟩
    · intro field hfield
      obtain ⟨line, -, hline⟩ := exists_line_of_mem hread hfield
      exact (readLine_eq_some.mp hline).2.1
  · rintro ⟨hbody, hnonempty⟩
    induction hbody with
    | nil => exact .nil
    | cons hline _ ih =>
        rw [List.forall_mem_cons] at hnonempty
        exact .cons (readLine_eq_some.mpr ⟨hline.1, hnonempty.1, hline.2⟩) (ih hnonempty.2)

theorem parseMessage_eq_ok_iff :
    parseMessage message action = .ok fields ↔
      "TSN ".toList.isPrefixOf message.toList = true ∧
        IsTemplate action (linesOf message) fields ∧ ∀ field ∈ fields, field.1 ≠ "" := by
  rw [parseMessage_eq_ok, readLine_forall]
  constructor
  · rintro ⟨hstart, htitle, hrule, ⟨hbody, hnonempty⟩, hnodup, hdomain⟩
    exact ⟨hstart, ⟨htitle, hrule, hbody, hnodup, hdomain⟩, hnonempty⟩
  · rintro ⟨hstart, ⟨htitle, hrule, hbody, hnodup, hdomain⟩, hnonempty⟩
    exact ⟨hstart, htitle, hrule, ⟨hbody, hnonempty⟩, hnodup, hdomain⟩

/-- The field of a line, whose label may be empty. -/
def rawField (line : Text) : Option (String × String) :=
  (splitLabel line).map fun parts => (String.ofList parts.1, String.ofList parts.2)

theorem rawField_eq_some {line : Text} {field : String × String} :
    rawField line = some field ↔ IsFieldLine line field := by
  simp only [rawField, Option.map_eq_some_iff, Prod.exists, splitLabel_eq_some]
  constructor
  · rintro ⟨label, value, ⟨hlabel, rfl⟩, rfl⟩
    simp only [IsFieldLine, String.toList_ofList]
    exact ⟨hlabel, trivial⟩
  · rintro ⟨hlabel, rfl⟩
    exact ⟨field.1.toList, field.2.toList, ⟨hlabel, rfl⟩, by simp⟩

theorem parseField_appends :
    AppendsField rawField fun parsed line => parseField parsed (String.ofList line) := by
  intro parsed line next
  simp only [parseField, rawField, bind_eq_ok, okOr_eq_ok, require_eq_ok, pure_eq_ok,
    Option.map_eq_some_iff, exists_const, String.toList_ofList]
  constructor
  · rintro ⟨parts, hparts, hnew, rfl⟩
    exact ⟨_, ⟨parts, hparts, rfl⟩, hnew, rfl⟩
  · rintro ⟨_, ⟨parts, hparts, rfl⟩, hnew, rfl⟩
    exact ⟨parts, hparts, hnew, rfl⟩

theorem parseCanonicalMessage_eq_ok_iff :
    parseCanonicalMessage message action = .ok fields ↔
      "TSN ".toList.isPrefixOf message.toList = true ∧
        IsTemplate action (rawLines message) fields ∧ 4 ≤ (rawLines message).length := by
  have hlines : splitLines message = (rawLines message).map String.ofList := rfl
  have hfirst : (splitLines message).take 2 = ["TSN " ++ action, "---"] ↔
      (rawLines message)[0]? = some ("TSN " ++ action).toList ∧
        (rawLines message)[1]? = some "---".toList := by
    rw [hlines]
    rcases rawLines message with _ | ⟨title, _ | ⟨rule, rest⟩⟩
    · simp
    · simp
    · simp only [List.map_cons, List.take_succ_cons, List.take_zero, List.cons.injEq, and_true,
        List.getElem?_cons_zero, List.getElem?_cons_succ, Option.some_inj,
        ← String.toList_inj, String.toList_ofList]
  simp only [parseCanonicalMessage, bind_eq_ok, require_eq_ok, pure_eq_ok, exists_const, hfirst]
  rw [hlines, List.length_map, ← List.map_drop]
  simp only [List.foldlM_map, foldlM_eq_ok parseField_appends, List.nil_append, rawField_eq_some]
  constructor
  · rintro ⟨hstart, ⟨hcount, htitle, hrule⟩, fields, ⟨_, hbody, hnodup, -, rfl⟩, hdomain, rfl⟩
    exact ⟨hstart, ⟨htitle, hrule, hbody, hnodup, hdomain⟩, hcount⟩
  · rintro ⟨hstart, ⟨htitle, hrule, hbody, hnodup, hdomain⟩, hcount⟩
    exact ⟨hstart, ⟨hcount, htitle, hrule⟩, fields, ⟨fields, hbody, hnodup, fun _ _ => rfl, rfl⟩,
      hdomain, rfl⟩

end Templates

section Agreement

variable {action message : String} {read signed : Fields} {line : Text}
  {field other : String × String}

/-- Both refuse, or give every label the same value. -/
def SameMap : Option Fields → Option Fields → Prop
  | none, none => True
  | some first, some second => ∀ label, first.lookup label = second.lookup label
  | _, _ => False

/-- No line of the message ends in white space, no field is without a label, and the domain is
not the only one. -/
structure IsClean (message : String) : Prop where
  trimmed : ∀ line ∈ rawLines message, trimEnd line = line
  labelled : ∀ line ∈ (rawLines message).drop 2, ¬ [':', ' '] <+: line
  count : 4 ≤ (rawLines message).length

/-- The message is a template for the SDK, but for the white space at the ends of its lines. -/
def FitsSdk (action message : String) : Prop :=
  "TSN ".toList.isPrefixOf message.toList = true ∧ ∃ fields,
    IsTemplate action (linesOf message) fields ∧ ∀ field ∈ fields, field.1 ≠ ""

/-- The message is a template for the Node. -/
def FitsNode (action message : String) : Prop :=
  "TSN ".toList.isPrefixOf message.toList = true ∧ ∃ fields,
    IsTemplate action (rawLines message) fields ∧ 4 ≤ (rawLines message).length

theorem label_ne_empty_iff (hline : IsFieldLine line field) :
    field.1 ≠ "" ↔ ¬ [':', ' '] <+: line := by
  obtain ⟨hlabel, rfl⟩ := hline
  rw [Ne, ← String.toList_eq_nil_iff, not_iff_not]
  constructor
  · intro hempty
    rw [hempty]
    exact ⟨field.2.toList, rfl⟩
  · rintro ⟨rest, hrest⟩
    rcases hcharacters : field.1.toList with _ | ⟨first, _ | ⟨second, characters⟩⟩
    · rfl
    · rw [hcharacters] at hrest
      cases hrest
    · rw [hcharacters] at hrest hlabel
      obtain ⟨hfirst, hrest⟩ := List.cons.inj hrest
      obtain ⟨hsecond, -⟩ := List.cons.inj hrest
      exact absurd ⟨[], characters, by rw [hfirst, hsecond]; rfl⟩ hlabel

/-- A line without the white space at its end has the field without that at its value's end. -/
theorem field_of_trimEnd (hline : IsFieldLine line field)
    (htrimmed : IsFieldLine (trimEnd line) other) :
    other.1 = field.1 ∧ other.2.toList = trimEnd field.2.toList := by
  obtain ⟨hlabel, rfl⟩ := hline
  have hother := splitLabel_eq_some.mpr htrimmed
  rw [trimEnd, rdropWhile_line (by decide) (by decide)] at hother
  split_ifs at hother with hblank
  · rw [splitLabel_colon hlabel] at hother
    cases hother
  · rw [splitLabel_line hlabel] at hother
    obtain ⟨hfirst, hsecond⟩ := Prod.mk.inj (Option.some.inj hother)
    exact ⟨String.toList_inj.mp hfirst.symm, hsecond.symm⟩

theorem exists_field_of_mem {relation : Text → String × String → Prop} {lines : List Text}
    {fields : Fields} (hbody : List.Forall₂ relation lines fields) (hline : line ∈ lines) :
    ∃ field ∈ fields, relation line field := by
  induction hbody with
  | nil => cases hline
  | cons hfirst _ ih =>
      rcases List.mem_cons.mp hline with rfl | hline
      · exact ⟨_, List.mem_cons_self, hfirst⟩
      · obtain ⟨field, hfield, hrelation⟩ := ih hline
        exact ⟨field, List.mem_cons_of_mem _ hfield, hrelation⟩

/-- A message that both read as the same map is clean. -/
theorem isClean_of_same (hread : IsTemplate action (linesOf message) read)
    (hlabels : ∀ field ∈ read, field.1 ≠ "")
    (hsigned : IsTemplate action (rawLines message) signed)
    (hcount : 4 ≤ (rawLines message).length)
    (hsame : ∀ label, read.lookup label = signed.lookup label) : IsClean message := by
  have hbody : ∀ line ∈ (rawLines message).drop 2,
      trimEnd line = line ∧ ¬ [':', ' '] <+: line := by
    intro line hline
    obtain ⟨field, hfield, hfieldLine⟩ := exists_field_of_mem hsigned.body hline
    have htrimmed : trimEnd line ∈ (linesOf message).drop 2 := by
      rw [linesOf_eq_map, ← List.map_drop]
      exact List.mem_map_of_mem hline
    obtain ⟨other, hother, hotherLine⟩ := exists_field_of_mem hread.body htrimmed
    obtain ⟨hlabel, hvalue⟩ := field_of_trimEnd hfieldLine hotherLine
    have hequal : other.2 = field.2 := by
      have hlookup := hsame other.1
      rw [lookup_of_mem hread.labels hother, hlabel, lookup_of_mem hsigned.labels hfield] at hlookup
      exact Option.some.inj hlookup
    refine ⟨?_, (label_ne_empty_iff hfieldLine).mp (hlabel ▸ hlabels other hother)⟩
    rw [hotherLine.2, hfieldLine.2, hlabel, hequal]
  rcases hlines : rawLines message with _ | ⟨title, _ | ⟨rule, rest⟩⟩
  · rw [hlines] at hcount
    cases hcount
  · rw [hlines] at hcount
    exact absurd hcount (by simp)
  · have htitle := hsigned.title
    have hrule := hsigned.rule
    have htrimmedTitle := hread.title
    have htrimmedRule := hread.rule
    rw [linesOf_eq_map, hlines] at htrimmedTitle htrimmedRule
    rw [hlines] at htitle hrule hbody hcount
    obtain rfl := Option.some.inj htitle
    obtain rfl := Option.some.inj hrule
    refine ⟨?_, ?_, ?_⟩
    · rw [hlines]
      intro line hline
      rcases List.mem_cons.mp hline with rfl | hline
      · exact Option.some.inj htrimmedTitle
      rcases List.mem_cons.mp hline with rfl | hline
      · exact Option.some.inj htrimmedRule
      · exact (hbody line hline).1
    · rw [hlines]
      exact fun line hline => (hbody line hline).2
    · rw [hlines]
      exact hcount

theorem linesOf_of_isClean (hclean : IsClean message) : linesOf message = rawLines message := by
  rw [linesOf_eq_map]
  nth_rewrite 2 [← List.map_id (rawLines message)]
  exact List.map_congr_left hclean.trimmed

theorem toOption_eq_some {Error Value : Type} {result : Except Error Value} {value : Value} :
    result.toOption = some value ↔ result = .ok value := by
  rcases result with error | result
  · simp [Except.toOption]
  · simp [Except.toOption]

/-- A clean message is the same to both. -/
theorem parsers_agree_of_isClean (hclean : IsClean message) :
    (parseMessage message action).toOption = (parseCanonicalMessage message action).toOption := by
  ext fields
  rw [toOption_eq_some, toOption_eq_some, parseMessage_eq_ok_iff, parseCanonicalMessage_eq_ok_iff,
    linesOf_of_isClean hclean]
  constructor
  · rintro ⟨hstart, htemplate, -⟩
    exact ⟨hstart, htemplate, hclean.count⟩
  · rintro ⟨hstart, htemplate, -⟩
    refine ⟨hstart, htemplate, ?_⟩
    intro field hfield
    obtain ⟨line, hline, hfieldLine⟩ : ∃ line ∈ (rawLines message).drop 2,
        rawField line = some field :=
      exists_line_of_mem (htemplate.body.imp fun _ _ => rawField_eq_some.mpr) hfield
    exact (label_ne_empty_iff (rawField_eq_some.mp hfieldLine)).mpr
      (hclean.labelled line hline)

theorem sameMap_self (fields : Option Fields) : SameMap fields fields := by
  rcases fields with _ | fields
  · trivial
  · exact fun _ => rfl

theorem isSome_of_sameMap {first second : Option Fields} (hsame : SameMap first second) :
    first.isSome = second.isSome := by
  rcases first with _ | first <;> rcases second with _ | second
  · rfl
  · cases hsame
  · cases hsame
  · rfl

/-- The readers agree where a message that either takes is clean. -/
theorem sameMap_iff :
    SameMap (parseMessage message action).toOption
        (parseCanonicalMessage message action).toOption ↔
      (FitsSdk action message ∨ FitsNode action message → IsClean message) := by
  constructor
  · rintro hsame hfits
    rcases hread : (parseMessage message action).toOption with _ | read
    · rcases hsigned : (parseCanonicalMessage message action).toOption with _ | signed
      · rcases hfits with ⟨hstart, fields, htemplate, hlabels⟩ | ⟨hstart, fields, htemplate, hcount⟩
        · rw [toOption_eq_some.mpr (parseMessage_eq_ok_iff.mpr ⟨hstart, htemplate, hlabels⟩)]
            at hread
          cases hread
        · rw [toOption_eq_some.mpr
            (parseCanonicalMessage_eq_ok_iff.mpr ⟨hstart, htemplate, hcount⟩)] at hsigned
          cases hsigned
      · rw [hread, hsigned] at hsame
        cases hsame
    · rcases hsigned : (parseCanonicalMessage message action).toOption with _ | signed
      · rw [hread, hsigned] at hsame
        cases hsame
      · rw [hread, hsigned] at hsame
        obtain ⟨-, htemplate, hlabels⟩ := parseMessage_eq_ok_iff.mp (toOption_eq_some.mp hread)
        obtain ⟨-, hrawTemplate, hcount⟩ :=
          parseCanonicalMessage_eq_ok_iff.mp (toOption_eq_some.mp hsigned)
        exact isClean_of_same htemplate hlabels hrawTemplate hcount hsame
  · intro hclean
    rcases hread : (parseMessage message action).toOption with _ | read
    · rcases hsigned : (parseCanonicalMessage message action).toOption with _ | signed
      · trivial
      · obtain ⟨hstart, htemplate, hcount⟩ :=
          parseCanonicalMessage_eq_ok_iff.mp (toOption_eq_some.mp hsigned)
        rw [← hread, ← hsigned,
          parsers_agree_of_isClean (hclean (.inr ⟨hstart, signed, htemplate, hcount⟩))]
        exact sameMap_self _
    · obtain ⟨hstart, htemplate, hlabels⟩ := parseMessage_eq_ok_iff.mp (toOption_eq_some.mp hread)
      rw [← hread, ← parsers_agree_of_isClean (hclean (.inl ⟨hstart, read, htemplate, hlabels⟩))]
      exact sameMap_self _

end Agreement

end TsnProtocol.Node.MessageParsers
