import Mathlib
import TsnProtocol.Lib.JsonData
import TsnProtocol.Lib.TextFormat

/-!
How JSON writes texts and values. A value is read back from what is written, so two values
with one text are the same.
-/

namespace TsnProtocol.Lib.JsonText

open Lib.JsonData
open Lib.TextFormat

def codePointLe (left right : String) : Bool :=
  left.toList.map Char.toNat ≤ right.toList.map Char.toNat

theorem codePointLe_refl (key : String) : codePointLe key key = true :=
  decide_eq_true (le_refl (key.toList.map Char.toNat))

def escaped (character : Char) : Text :=
  match character with
  | '"' => ['\\', '"']
  | '\\' => ['\\', '\\']
  | '\x08' => ['\\', 'b']
  | '\x0c' => ['\\', 'f']
  | '\n' => ['\\', 'n']
  | '\r' => ['\\', 'r']
  | '\t' => ['\\', 't']
  | other =>
      if other.toNat < 32 then
        ['\\', 'u', '0', '0', lowerHexDigit (other.toNat / 16), lowerHexDigit (other.toNat % 16)]
      else [other]

def quoteText (text : String) : String :=
  String.ofList ('"' :: text.toList.flatMap escaped ++ ['"'])

/-- The character that an escape stands for, and what follows it. -/
def unescape : Text → Option (Char × Text)
  | '\\' :: 'u' :: '0' :: '0' :: high :: low :: rest => do
      let highValue ← lowerHexValue high
      let lowValue ← lowerHexValue low
      return (Char.ofNat (16 * highValue + lowValue), rest)
  | '\\' :: 'b' :: rest => some ('\x08', rest)
  | '\\' :: 'f' :: rest => some ('\x0c', rest)
  | '\\' :: 'n' :: rest => some ('\n', rest)
  | '\\' :: 'r' :: rest => some ('\r', rest)
  | '\\' :: 't' :: rest => some ('\t', rest)
  | '\\' :: other :: rest => some (other, rest)
  | character :: rest => some (character, rest)
  | [] => none

theorem unescape_escaped (character : Char) (rest : Text) :
    unescape (escaped character ++ rest) = some (character, rest) := by
  unfold escaped
  split
  · rfl
  · rfl
  · rfl
  · rfl
  · rfl
  · rfl
  · rfl
  · rename_i hquote hslash _ _ _ _ _
    split
    · rename_i hcontrol
      have hvalue : 16 * (character.toNat / 16) + character.toNat % 16 = character.toNat :=
        Nat.div_add_mod _ _
      have hhigh := lowerHexValue_lowerHexDigit
        (show character.toNat / 16 < 16 by omega)
      have hlow := lowerHexValue_lowerHexDigit
        (show character.toNat % 16 < 16 by omega)
      simp [unescape, hhigh, hlow, hvalue]
    · rw [List.singleton_append, unescape] <;> intros <;> exact hslash ‹_›

theorem escaped_append_cancel {first second : Char} {rest rest' : Text}
    (heq : escaped first ++ rest = escaped second ++ rest') :
    first = second ∧ rest = rest' := by
  have hread := unescape_escaped first rest
  rw [heq, unescape_escaped] at hread
  exact ⟨(Prod.mk.inj (Option.some.inj hread)).1.symm, (Prod.mk.inj (Option.some.inj hread)).2.symm⟩

theorem head_escaped (character : Char) :
    ∃ head tail, escaped character = head :: tail ∧ head ≠ '"' := by
  unfold escaped
  split
  case h_8 hquote _ _ _ _ _ _ =>
    split
    · exact ⟨_, _, rfl, by decide⟩
    · exact ⟨_, _, rfl, hquote⟩
  all_goals exact ⟨_, _, rfl, by decide⟩

theorem toList_quoteText (text : String) :
    (quoteText text).toList = '"' :: (text.toList.flatMap escaped ++ ['"']) := by
  rw [quoteText, String.toList_ofList, List.cons_append]

theorem flatMap_escaped_cancel {first second rest rest' : Text}
    (heq : first.flatMap escaped ++ '"' :: rest = second.flatMap escaped ++ '"' :: rest') :
    first = second ∧ rest = rest' := by
  induction first generalizing second with
  | nil =>
      cases second with
      | nil => exact ⟨rfl, (List.cons.inj heq).2⟩
      | cons character second =>
          obtain ⟨head, tail, hescaped, hhead⟩ := head_escaped character
          rw [List.flatMap_cons, hescaped] at heq
          exact absurd (List.cons.inj heq).1.symm hhead
  | cons character first ih =>
      cases second with
      | nil =>
          obtain ⟨head, tail, hescaped, hhead⟩ := head_escaped character
          rw [List.flatMap_cons, hescaped] at heq
          exact absurd (List.cons.inj heq).1 hhead
      | cons character' second =>
          rw [List.flatMap_cons, List.flatMap_cons, List.append_assoc, List.append_assoc] at heq
          obtain ⟨rfl, htail⟩ := escaped_append_cancel heq
          obtain ⟨rfl, hrest⟩ := ih htail
          exact ⟨rfl, hrest⟩

/-- A quoted text can be cancelled, whatever follows it. -/
theorem quoteText_append_cancel {first second : String} {rest rest' : Text}
    (heq : (quoteText first).toList ++ rest = (quoteText second).toList ++ rest') :
    first = second ∧ rest = rest' := by
  rw [toList_quoteText, toList_quoteText, List.cons_append, List.cons_append,
    List.append_assoc, List.append_assoc] at heq
  obtain ⟨htext, hrest⟩ := flatMap_escaped_cancel (List.cons.inj heq).2
  exact ⟨String.toList_inj.mp htext, hrest⟩

section Values

/-- Characters that numbers are written with. -/
def numberChar (character : Char) : Bool :=
  character.isDigit || ['-', '+', '.', 'e', 'E'].contains character

/-- The numbers of a set are written as numbers, each in its own way. -/
structure WritesNumbers (numberText : Rat → String) (numbers : Set Rat) : Prop where
  nonempty : ∀ number ∈ numbers, (numberText number).toList ≠ []
  chars : ∀ number ∈ numbers, (numberText number).toList.all numberChar = true
  injective : Set.InjOn numberText numbers

/-- Every number of a value is in the set. -/
def HasNumbersIn (numbers : Set Rat) : Json → Prop
  | .num value => value ∈ numbers
  | .arr items => itemsIn items
  | .obj fields => fieldsIn fields
  | .null | .bool _ | .str _ => True
where
  itemsIn : List Json → Prop
    | [] => True
    | item :: items => HasNumbersIn numbers item ∧ itemsIn items
  fieldsIn : List (String × Json) → Prop
    | [] => True
    | field :: fields => HasNumbersIn numbers field.2 ∧ fieldsIn fields

/-- The text of a value, its fields in the order they are in. -/
def render (numberText : Rat → String) : Json → Text
  | .null => "null".toList
  | .bool value => if value then "true".toList else "false".toList
  | .num value => (numberText value).toList
  | .str text => (quoteText text).toList
  | .arr items => '[' :: ([','].intercalate (itemTexts items) ++ [']'])
  | .obj fields => '\x7b' :: ([','].intercalate (fieldTexts fields) ++ ['\x7d'])
where
  itemTexts : List Json → List Text
    | [] => []
    | item :: items => render numberText item :: itemTexts items
  fieldTexts : List (String × Json) → List Text
    | [] => []
    | field :: fields =>
        ((quoteText field.1).toList ++ ':' :: render numberText field.2) :: fieldTexts fields

variable {numberText : Rat → String} {numbers : Set Rat}

/-- The kind of a value, as the first character of its text tells it. -/
def kind : Json → Nat
  | .null => 0
  | .bool value => if value then 1 else 2
  | .str _ => 3
  | .arr _ => 4
  | .obj _ => 5
  | .num _ => 7

def kindOfChar (character : Char) : Nat :=
  if numberChar character then 7
  else ['n', 't', 'f', '"', '[', '\x7b'].idxOf character

/-- What follows a value, where a number would have ended. -/
def Ends (rest : Text) : Prop :=
  ∀ head tail, rest = head :: tail → numberChar head = false

theorem ends_cons {head : Char} {rest : Text} (hhead : numberChar head = false) :
    Ends (head :: rest) := by
  rintro _ _ heq
  exact (List.cons.inj heq).1 ▸ hhead

theorem head_render (hwrites : WritesNumbers numberText numbers) {value : Json}
    (hvalue : HasNumbersIn numbers value) :
    ∃ head tail, render numberText value = head :: tail ∧ kindOfChar head = kind value := by
  cases value with
  | null => exact ⟨_, _, rfl, by decide⟩
  | bool value =>
      cases value with
      | true => exact ⟨_, _, rfl, by decide⟩
      | false => exact ⟨_, _, rfl, by decide⟩
  | num value =>
      obtain ⟨head, tail, htext⟩ := List.exists_cons_of_ne_nil (hwrites.nonempty value hvalue)
      have hhead : numberChar head = true :=
        List.all_eq_true.mp (hwrites.chars value hvalue) head (htext ▸ List.mem_cons_self)
      exact ⟨head, tail, htext, if_pos hhead⟩
  | str text => exact ⟨_, _, toList_quoteText text, rfl⟩
  | arr items => exact ⟨_, _, rfl, rfl⟩
  | obj fields => exact ⟨_, _, rfl, rfl⟩

theorem kind_ne (value : Json) : kind value ≠ 6 := by
  cases value with
  | bool value => cases value <;> decide
  | _ => simp [kind]

theorem takeWhile_number {text rest : Text} (htext : text.all numberChar = true)
    (hrest : Ends rest) : (text ++ rest).takeWhile numberChar = text := by
  induction text with
  | nil =>
      cases rest with
      | nil => rfl
      | cons head tail =>
          rw [List.nil_append, List.takeWhile_cons_of_neg]
          rw [hrest head tail rfl]
          decide
  | cons head text ih =>
      rw [List.all_cons, Bool.and_eq_true] at htext
      rw [List.cons_append, List.takeWhile_cons_of_pos htext.1, ih htext.2]

theorem number_append_cancel {first second rest rest' : Text}
    (hfirst : first.all numberChar = true) (hsecond : second.all numberChar = true)
    (hrest : Ends rest) (hrest' : Ends rest') (heq : first ++ rest = second ++ rest') :
    first = second ∧ rest = rest' := by
  have htexts := takeWhile_number hfirst hrest
  rw [heq, takeWhile_number hsecond hrest'] at htexts
  rw [htexts] at heq
  exact ⟨htexts.symm, List.append_cancel_left heq⟩

theorem intercalate_cons_eq (text : Text) (texts : List Text) :
    [','].intercalate (text :: texts) = text ++ texts.flatMap (',' :: ·) := by
  induction texts generalizing text with
  | nil => simp
  | cons next texts ih =>
      rw [List.intercalate_cons_cons, ih, List.flatMap_cons]
      simp

theorem kind_eq_of_render_append (hwrites : WritesNumbers numberText numbers)
    {first second : Json} {rest rest' : Text} (hfirst : HasNumbersIn numbers first)
    (hsecond : HasNumbersIn numbers second)
    (heq : render numberText first ++ rest = render numberText second ++ rest') :
    kind first = kind second := by
  obtain ⟨head, tail, hhead, hkind⟩ := head_render hwrites hfirst
  obtain ⟨head', tail', hhead', hkind'⟩ := head_render hwrites hsecond
  rw [hhead, hhead'] at heq
  rw [← hkind, ← hkind', (List.cons.inj heq).1]

/-- Texts between commas, up to a closing bracket that none of them starts with, are those
that follow a comma each. -/
theorem flatMap_eq_of_intercalate {close : Char} {first second : List Text} {rest rest' : Text}
    (hfirst : ∀ text ∈ first, ∃ head tail, text = head :: tail ∧ head ≠ close)
    (hsecond : ∀ text ∈ second, ∃ head tail, text = head :: tail ∧ head ≠ close)
    (heq : [','].intercalate first ++ close :: rest =
      [','].intercalate second ++ close :: rest') :
    first.flatMap (',' :: ·) ++ close :: rest = second.flatMap (',' :: ·) ++ close :: rest' := by
  cases first with
  | nil =>
      cases second with
      | nil => exact heq
      | cons text texts =>
          obtain ⟨head, tail, rfl, hhead⟩ := hsecond text List.mem_cons_self
          rw [intercalate_cons_eq] at heq
          exact absurd (List.cons.inj heq).1.symm hhead
  | cons text texts =>
      cases second with
      | nil =>
          obtain ⟨head, tail, rfl, hhead⟩ := hfirst text List.mem_cons_self
          rw [intercalate_cons_eq] at heq
          exact absurd (List.cons.inj heq).1 hhead
      | cons text' texts' =>
          rw [intercalate_cons_eq, intercalate_cons_eq] at heq
          rw [List.flatMap_cons, List.flatMap_cons, List.cons_append, List.cons_append,
            List.cons_append, List.cons_append, heq]

theorem heads_itemTexts (hwrites : WritesNumbers numberText numbers) {items : List Json}
    (hitems : HasNumbersIn.itemsIn numbers items) :
    ∀ text ∈ render.itemTexts numberText items,
      ∃ head tail, text = head :: tail ∧ head ≠ ']' := by
  induction items with
  | nil => exact fun _ htext => absurd htext List.not_mem_nil
  | cons item items ih =>
      intro text htext
      rcases List.mem_cons.mp htext with rfl | htext
      · obtain ⟨head, tail, hhead, hkind⟩ := head_render hwrites hitems.1
        refine ⟨head, tail, hhead, ?_⟩
        rintro rfl
        exact kind_ne item (hkind.symm.trans (by decide))
      · exact ih hitems.2 text htext

theorem heads_fieldTexts (fields : List (String × Json)) :
    ∀ text ∈ render.fieldTexts numberText fields,
      ∃ head tail, text = head :: tail ∧ head ≠ '\x7d' := by
  induction fields with
  | nil => exact fun _ htext => absurd htext List.not_mem_nil
  | cons field fields ih =>
      intro text htext
      rcases List.mem_cons.mp htext with rfl | htext
      · rw [toList_quoteText]
        exact ⟨_, _, rfl, by decide⟩
      · exact ih text htext

theorem ends_tail (texts : List Text) {close : Char} (hclose : numberChar close = false)
    (rest : Text) : Ends (texts.flatMap (',' :: ·) ++ close :: rest) := by
  cases texts with
  | nil => exact ends_cons hclose
  | cons text texts => exact ends_cons (by decide)

mutual

/-- Values can be cancelled where what follows them could not go on a number. -/
theorem render_append_cancel (hwrites : WritesNumbers numberText numbers) (first second : Json)
    {rest rest' : Text} (hfirst : HasNumbersIn numbers first)
    (hsecond : HasNumbersIn numbers second) (hrest : Ends rest) (hrest' : Ends rest')
    (heq : render numberText first ++ rest = render numberText second ++ rest') :
    first = second ∧ rest = rest' := by
  have hkind := kind_eq_of_render_append hwrites hfirst hsecond heq
  cases first with
  | null =>
      cases second with
      | null => exact ⟨rfl, List.append_cancel_left heq⟩
      | bool value => cases value <;> simp [kind] at hkind
      | _ => simp [kind] at hkind
  | bool value =>
      cases second with
      | bool value' =>
          obtain rfl : value = value' := by
            cases value <;> cases value' <;> simp [kind] at hkind ⊢
          exact ⟨rfl, List.append_cancel_left heq⟩
      | _ => cases value <;> simp [kind] at hkind
  | num value =>
      cases second with
      | num value' =>
          obtain ⟨htext, hrests⟩ := number_append_cancel (hwrites.chars value hfirst)
            (hwrites.chars value' hsecond) hrest hrest' heq
          have hvalue := hwrites.injective hfirst hsecond (String.toList_inj.mp htext)
          exact ⟨congrArg Json.num hvalue, hrests⟩
      | bool value' => cases value' <;> simp [kind] at hkind
      | _ => simp [kind] at hkind
  | str text =>
      cases second with
      | str text' =>
          obtain ⟨rfl, hrests⟩ := quoteText_append_cancel heq
          exact ⟨rfl, hrests⟩
      | bool value => cases value <;> simp [kind] at hkind
      | _ => simp [kind] at hkind
  | arr items =>
      cases second with
      | arr items' =>
          simp only [render, List.cons_append, List.append_assoc, List.nil_append] at heq
          obtain ⟨rfl, hrests⟩ := itemTexts_append_cancel hwrites items items' hfirst hsecond
            (flatMap_eq_of_intercalate (heads_itemTexts hwrites hfirst)
              (heads_itemTexts hwrites hsecond) (List.cons.inj heq).2)
          exact ⟨rfl, hrests⟩
      | bool value => cases value <;> simp [kind] at hkind
      | _ => simp [kind] at hkind
  | obj fields =>
      cases second with
      | obj fields' =>
          simp only [render, List.cons_append, List.append_assoc, List.nil_append] at heq
          obtain ⟨rfl, hrests⟩ := fieldTexts_append_cancel hwrites fields fields' hfirst hsecond
            (flatMap_eq_of_intercalate (heads_fieldTexts fields) (heads_fieldTexts fields')
              (List.cons.inj heq).2)
          exact ⟨rfl, hrests⟩
      | bool value => cases value <;> simp [kind] at hkind
      | _ => simp [kind] at hkind

theorem itemTexts_append_cancel (hwrites : WritesNumbers numberText numbers)
    (first second : List Json) {rest rest' : Text}
    (hfirst : HasNumbersIn.itemsIn numbers first)
    (hsecond : HasNumbersIn.itemsIn numbers second)
    (heq : (render.itemTexts numberText first).flatMap (',' :: ·) ++ ']' :: rest =
      (render.itemTexts numberText second).flatMap (',' :: ·) ++ ']' :: rest') :
    first = second ∧ rest = rest' := by
  cases first with
  | nil =>
      cases second with
      | nil => exact ⟨rfl, (List.cons.inj heq).2⟩
      | cons item items => exact absurd (List.cons.inj heq).1 (by decide)
  | cons item items =>
      cases second with
      | nil => exact absurd (List.cons.inj heq).1 (by decide)
      | cons item' items' =>
          simp only [render.itemTexts, List.flatMap_cons, List.cons_append,
            List.append_assoc] at heq
          obtain ⟨rfl, htail⟩ := render_append_cancel hwrites item item' hfirst.1 hsecond.1
            (ends_tail _ (by decide) rest) (ends_tail _ (by decide) rest') (List.cons.inj heq).2
          obtain ⟨rfl, hrests⟩ :=
            itemTexts_append_cancel hwrites items items' hfirst.2 hsecond.2 htail
          exact ⟨rfl, hrests⟩

theorem fieldTexts_append_cancel (hwrites : WritesNumbers numberText numbers)
    (first second : List (String × Json)) {rest rest' : Text}
    (hfirst : HasNumbersIn.fieldsIn numbers first)
    (hsecond : HasNumbersIn.fieldsIn numbers second)
    (heq : (render.fieldTexts numberText first).flatMap (',' :: ·) ++ '\x7d' :: rest =
      (render.fieldTexts numberText second).flatMap (',' :: ·) ++ '\x7d' :: rest') :
    first = second ∧ rest = rest' := by
  cases first with
  | nil =>
      cases second with
      | nil => exact ⟨rfl, (List.cons.inj heq).2⟩
      | cons field fields => exact absurd (List.cons.inj heq).1 (by decide)
  | cons field fields =>
      cases second with
      | nil => exact absurd (List.cons.inj heq).1 (by decide)
      | cons field' fields' =>
          obtain ⟨key, value⟩ := field
          obtain ⟨key', value'⟩ := field'
          simp only [render.fieldTexts, List.flatMap_cons, List.cons_append,
            List.append_assoc] at heq
          obtain ⟨rfl, hvalue⟩ := quoteText_append_cancel (List.cons.inj heq).2
          obtain ⟨rfl, htail⟩ := render_append_cancel hwrites value value' hfirst.1 hsecond.1
            (ends_tail _ (by decide) rest) (ends_tail _ (by decide) rest') (List.cons.inj hvalue).2
          obtain ⟨rfl, hrests⟩ :=
            fieldTexts_append_cancel hwrites fields fields' hfirst.2 hsecond.2 htail
          exact ⟨rfl, hrests⟩

end

theorem render_injective (hwrites : WritesNumbers numberText numbers) {first second : Json}
    (hfirst : HasNumbersIn numbers first) (hsecond : HasNumbersIn numbers second)
    (heq : render numberText first = render numberText second) : first = second :=
  (@render_append_cancel _ _ hwrites first second [] [] hfirst hsecond nofun nofun
    (by rw [heq])).1

theorem newline_not_mem_escaped (character : Char) : '\n' ∉ escaped character := by
  unfold escaped
  split
  case h_8 _ _ _ _ hnewline _ _ =>
    split
    · rename_i hcontrol
      have hhigh : '\n' ≠ lowerHexDigit (character.toNat / 16) := by
        have hnibble : character.toNat / 16 < 2 := by omega
        interval_cases character.toNat / 16 <;> decide
      have hlow : '\n' ≠ lowerHexDigit (character.toNat % 16) := by
        have hnibble : character.toNat % 16 < 16 := Nat.mod_lt _ (by decide)
        interval_cases character.toNat % 16 <;> decide
      simp [hhigh, hlow]
    · simpa using Ne.symm hnewline
  all_goals decide

theorem newline_not_mem_quoteText (text : String) : '\n' ∉ (quoteText text).toList := by
  rw [toList_quoteText]
  simp [newline_not_mem_escaped]

theorem newline_not_mem_intercalate {texts : List Text} (htexts : ∀ text ∈ texts, '\n' ∉ text) :
    '\n' ∉ [','].intercalate texts := by
  cases texts with
  | nil => decide
  | cons text texts =>
      rw [intercalate_cons_eq, List.mem_append, not_or, List.mem_flatMap]
      refine ⟨htexts text List.mem_cons_self, ?_⟩
      rintro ⟨next, hnext, hmem⟩
      rcases List.mem_cons.mp hmem with hcomma | hmem
      · exact absurd hcomma (by decide)
      · exact htexts next (List.mem_cons_of_mem _ hnext) hmem

mutual

/-- The text of a value is one line. -/
theorem newline_not_mem_render (hwrites : WritesNumbers numberText numbers) (value : Json)
    (hvalue : HasNumbersIn numbers value) : '\n' ∉ render numberText value := by
  cases value with
  | null => simp [render]
  | bool value => cases value <;> simp [render]
  | num value =>
      intro hmem
      have hchar := List.all_eq_true.mp (hwrites.chars value hvalue) '\n' hmem
      exact absurd hchar (by decide)
  | str text => exact newline_not_mem_quoteText text
  | arr items =>
      have hitems := newline_not_mem_intercalate (newline_not_mem_items hwrites items hvalue)
      simp [render, hitems]
  | obj fields =>
      have hfields := newline_not_mem_intercalate (newline_not_mem_fields hwrites fields hvalue)
      simp [render, hfields]

theorem newline_not_mem_items (hwrites : WritesNumbers numberText numbers) (items : List Json)
    (hitems : HasNumbersIn.itemsIn numbers items) :
    ∀ text ∈ render.itemTexts numberText items, '\n' ∉ text := by
  cases items with
  | nil => exact fun _ htext => absurd htext List.not_mem_nil
  | cons item items =>
      rw [render.itemTexts, List.forall_mem_cons]
      exact ⟨newline_not_mem_render hwrites item hitems.1,
        newline_not_mem_items hwrites items hitems.2⟩

theorem newline_not_mem_fields (hwrites : WritesNumbers numberText numbers)
    (fields : List (String × Json)) (hfields : HasNumbersIn.fieldsIn numbers fields) :
    ∀ text ∈ render.fieldTexts numberText fields, '\n' ∉ text := by
  cases fields with
  | nil => exact fun _ htext => absurd htext List.not_mem_nil
  | cons field fields =>
      rw [render.fieldTexts, List.forall_mem_cons]
      have hkey := newline_not_mem_quoteText field.1
      have hvalue := newline_not_mem_render hwrites field.2 hfields.1
      exact ⟨by simp [hkey, hvalue], newline_not_mem_fields hwrites fields hfields.2⟩

end

/-- A value with the fields of each of its objects sorted by their keys. -/
def normal (le : String → String → Bool) : Json → Json
  | .arr items => .arr (normalItems items)
  | .obj fields =>
      .obj ((normalFields fields).insertionSort fun left right => le left.1 right.1 = true)
  | value => value
where
  normalItems : List Json → List Json
    | [] => []
    | item :: items => normal le item :: normalItems items
  normalFields : List (String × Json) → List (String × Json)
    | [] => []
    | field :: fields => (field.1, normal le field.2) :: normalFields fields

variable {le : String → String → Bool}

theorem normalItems_eq_map (items : List Json) :
    normal.normalItems le items = items.map (normal le) := by
  induction items with
  | nil => rfl
  | cons item items ih => rw [normal.normalItems, ih, List.map_cons]

theorem normalFields_eq_map (fields : List (String × Json)) :
    normal.normalFields le fields = fields.map fun field => (field.1, normal le field.2) := by
  induction fields with
  | nil => rfl
  | cons field fields ih => rw [normal.normalFields, ih, List.map_cons]

theorem sort_map {α β : Type} (change : α → β) (fields : List (String × α)) :
    (fields.map fun field => (field.1, change field.2)).insertionSort
        (fun left right => le left.1 right.1 = true) =
      (fields.insertionSort fun left right => le left.1 right.1 = true).map
        fun field => (field.1, change field.2) := by
  refine (List.map_insertionSort _ _ _ fields ?_).symm
  intro left _ right _
  exact Iff.rfl

theorem itemsIn_iff {items : List Json} :
    HasNumbersIn.itemsIn numbers items ↔ ∀ item ∈ items, HasNumbersIn numbers item := by
  induction items with
  | nil => simp [HasNumbersIn.itemsIn]
  | cons item items ih => rw [HasNumbersIn.itemsIn, ih, List.forall_mem_cons]

theorem fieldsIn_iff {fields : List (String × Json)} :
    HasNumbersIn.fieldsIn numbers fields ↔
      ∀ field ∈ fields, HasNumbersIn numbers field.2 := by
  induction fields with
  | nil => simp [HasNumbersIn.fieldsIn]
  | cons field fields ih => rw [HasNumbersIn.fieldsIn, ih, List.forall_mem_cons]

mutual

theorem hasNumbersIn_normal (value : Json) (hvalue : HasNumbersIn numbers value) :
    HasNumbersIn numbers (normal le value) := by
  cases value with
  | arr items =>
      rw [normal]
      exact itemsIn_normal items hvalue
  | obj fields =>
      rw [normal, HasNumbersIn, fieldsIn_iff]
      intro field hfield
      exact fieldsIn_iff.mp (fieldsIn_normal fields hvalue) field
        ((List.mem_insertionSort _).mp hfield)
  | _ => exact hvalue

theorem itemsIn_normal (items : List Json) (hitems : HasNumbersIn.itemsIn numbers items) :
    HasNumbersIn.itemsIn numbers (normal.normalItems le items) := by
  cases items with
  | nil => exact hitems
  | cons item items =>
      exact ⟨hasNumbersIn_normal item hitems.1, itemsIn_normal items hitems.2⟩

theorem fieldsIn_normal (fields : List (String × Json))
    (hfields : HasNumbersIn.fieldsIn numbers fields) :
    HasNumbersIn.fieldsIn numbers (normal.normalFields le fields) := by
  cases fields with
  | nil => exact hfields
  | cons field fields =>
      exact ⟨hasNumbersIn_normal field.2 hfields.1, fieldsIn_normal fields hfields.2⟩

end

theorem lookup_orderedInsert {α : Type} (hrefl : ∀ key, le key key = true)
    (field : String × α) (fields : List (String × α)) (key : String) :
    (fields.orderedInsert (fun left right => le left.1 right.1 = true) field).lookup key =
      (field :: fields).lookup key := by
  induction fields with
  | nil => rfl
  | cons other fields ih =>
      by_cases hle : le field.1 other.1 = true
      · rw [List.orderedInsert_cons, if_pos hle]
      · rw [List.orderedInsert_cons, if_neg hle, List.lookup_cons, ih, List.lookup_cons,
          List.lookup_cons, List.lookup_cons]
        by_cases hother : key = other.1
        · have hfield : key ≠ field.1 := by
            rintro rfl
            exact hle (hother ▸ hrefl field.1)
          simp [hother, beq_false_of_ne (hother ▸ hfield)]
        · simp [beq_false_of_ne hother]

/-- Sorting keeps the field that a look-up finds. -/
theorem lookup_insertionSort {α : Type} (hrefl : ∀ key, le key key = true)
    (fields : List (String × α)) (key : String) :
    (fields.insertionSort fun left right => le left.1 right.1 = true).lookup key =
      fields.lookup key := by
  induction fields with
  | nil => rfl
  | cons field fields ih =>
      rw [List.insertionSort_cons, lookup_orderedInsert hrefl, List.lookup_cons, ih,
        List.lookup_cons]

theorem lookup_map_snd {α β : Type} (change : α → β) (fields : List (String × α))
    (key : String) :
    (fields.map fun field => (field.1, change field.2)).lookup key =
      (fields.lookup key).map change := by
  induction fields with
  | nil => rfl
  | cons field fields ih =>
      rw [List.map_cons, List.lookup_cons, List.lookup_cons, ih]
      cases key == field.1 <;> rfl

theorem get_normal (hrefl : ∀ key, le key key = true) (value : Json) (key : String) :
    (normal le value).get key = (value.get key).map (normal le) := by
  cases value with
  | obj fields =>
      rw [normal, Json.get, lookup_insertionSort hrefl, normalFields_eq_map, lookup_map_snd,
        Json.get]
  | _ => rfl

end Values

end TsnProtocol.Lib.JsonText
