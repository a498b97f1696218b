import TsnProtocol.Lib.PythonText

/-!
Texts of lines, each a label and a value behind a colon and a blank: where a line is cut, what
the white space at its end does to that, and reading one line after another.
-/

namespace TsnProtocol.Lib.LabelledLines

open Lib.Checked
open Lib.PythonText
open Lib.TextFormat

section Cutting

variable {label value line : Text}

theorem splitLabel_cons {character : Char} {rest : Text}
    (hpoint : ¬ (character = ':' ∧ rest.head? = some ' ')) :
    splitLabel (character :: rest) =
      (splitLabel rest).map fun parts => (character :: parts.1, parts.2) := by
  rw [splitLabel]
  rintro value rfl rfl
  exact hpoint ⟨rfl, rfl⟩

/-- A text that no colon with a blank behind it cuts. -/
def IsLabel (label : Text) : Prop :=
  ¬ [':', ' '] <:+: label

theorem isLabel_nil : IsLabel [] := by
  simp [IsLabel]

theorem IsLabel.head {character : Char} {rest : Text} (hlabel : IsLabel (character :: rest)) :
    ¬ (character = ':' ∧ rest.head? = some ' ') := by
  rintro ⟨rfl, hhead⟩
  obtain ⟨later, rfl⟩ : ∃ later, rest = ' ' :: later := by
    rcases rest with _ | ⟨first, later⟩
    · cases hhead
    · exact ⟨later, congrArg (· :: later) (Option.some.inj hhead)⟩
  exact hlabel ⟨[], later, rfl⟩

theorem IsLabel.tail {character : Char} {rest : Text} (hlabel : IsLabel (character :: rest)) :
    IsLabel rest :=
  fun hwithin => hlabel (hwithin.trans (List.suffix_cons _ _).isInfix)

theorem isLabel_cons {character : Char} {rest : Text}
    (hhead : ¬ (character = ':' ∧ rest.head? = some ' ')) (hrest : IsLabel rest) :
    IsLabel (character :: rest) := by
  rintro hwithin
  rcases List.infix_cons_iff.mp hwithin with hprefix | hwithin
  · obtain ⟨later, hlater⟩ := hprefix
    obtain ⟨rfl, rfl⟩ := List.cons.inj hlater
    exact hhead ⟨rfl, rfl⟩
  · exact hrest hwithin

theorem isLabel_of_colon_notMem (hlabel : ':' ∉ label) : IsLabel label :=
  fun hwithin => hlabel (hwithin.subset List.mem_cons_self)

theorem splitLabel_line (hlabel : IsLabel label) (value : Text) :
    splitLabel (label ++ ':' :: ' ' :: value) = some (label, value) := by
  induction label with
  | nil => rfl
  | cons character label ih =>
      have hhead : ¬ (character = ':' ∧
          (label ++ ':' :: ' ' :: value).head? = some ' ') := by
        rcases label with _ | ⟨first, later⟩
        · rintro ⟨-, hblank⟩
          exact absurd hblank (by simp)
        · exact hlabel.head
      rw [List.cons_append, splitLabel_cons hhead, ih hlabel.tail]
      rfl

/-- A line is cut at the first colon that a blank follows. -/
theorem splitLabel_eq_some :
    splitLabel line = some (label, value) ↔
      IsLabel label ∧ line = label ++ ':' :: ' ' :: value := by
  constructor
  · intro hsplit
    induction line generalizing label with
    | nil => cases hsplit
    | cons character rest ih =>
        by_cases hpoint : character = ':' ∧ rest.head? = some ' '
        · obtain ⟨rfl, hhead⟩ := hpoint
          rcases rest with _ | ⟨first, later⟩
          · cases hhead
          · obtain rfl := Option.some.inj hhead
            obtain ⟨rfl, rfl⟩ := Prod.mk.inj (Option.some.inj hsplit)
            exact ⟨isLabel_nil, rfl⟩
        · rw [splitLabel_cons hpoint, Option.map_eq_some_iff] at hsplit
          obtain ⟨⟨later, value'⟩, hrest, hparts⟩ := hsplit
          obtain ⟨rfl, rfl⟩ := Prod.mk.inj hparts
          obtain ⟨hlabel, rfl⟩ := ih hrest
          refine ⟨isLabel_cons ?_ hlabel, rfl⟩
          rintro ⟨rfl, hblank⟩
          refine hpoint ⟨rfl, ?_⟩
          rcases later with _ | ⟨first, last⟩
          · cases hblank
          · exact hblank
  · rintro ⟨hlabel, rfl⟩
    exact splitLabel_line hlabel value

theorem splitLabel_colon (hlabel : IsLabel label) : splitLabel (label ++ [':']) = none := by
  induction label with
  | nil => rfl
  | cons character label ih =>
      have hhead : ¬ (character = ':' ∧ (label ++ [':']).head? = some ' ') := by
        rcases label with _ | ⟨first, later⟩
        · rintro ⟨-, hblank⟩
          exact absurd hblank (by simp)
        · exact hlabel.head
      rw [List.cons_append, splitLabel_cons hhead, ih hlabel.tail]
      rfl

end Cutting

section Blanks

variable {blank : Char → Bool} {label value line : Text}

theorem rdropWhile_append (front back : Text) :
    (front ++ back).rdropWhile blank =
      if back.rdropWhile blank = [] then front.rdropWhile blank
      else front ++ back.rdropWhile blank := by
  induction back using List.reverseRecOn with
  | nil => simp
  | append_singleton back last ih =>
      rw [← List.append_assoc]
      by_cases hlast : blank last = true
      · rw [List.rdropWhile_concat_pos _ _ _ hlast, List.rdropWhile_concat_pos _ _ _ hlast, ih]
      · rw [List.rdropWhile_concat_neg _ _ _ hlast, List.rdropWhile_concat_neg _ _ _ hlast,
          if_neg (by simp), List.append_assoc]

/-- A line keeps its value without the white space behind it, or ends in its colon. -/
theorem rdropWhile_line (hblank : blank ' ' = true) (hcolon : blank ':' = false)
    (label value : Text) :
    (label ++ ':' :: ' ' :: value).rdropWhile blank =
      if value.rdropWhile blank = [] then label ++ [':']
      else label ++ ':' :: ' ' :: value.rdropWhile blank := by
  have hline : label ++ ':' :: ' ' :: value = (label ++ [':'] ++ [' ']) ++ value := by simp
  rw [hline, rdropWhile_append, List.rdropWhile_concat_pos _ _ _ hblank,
    List.rdropWhile_concat_neg _ _ _ (by simp [hcolon])]
  simp

end Blanks

section Reading

variable {Error : Type} {read : Text → Option (String × String)}
  {step : List (String × String) → Text → Except Error (List (String × String))}

/-- A step appends the field of its line where the label is new. -/
def AppendsField (read : Text → Option (String × String))
    (step : List (String × String) → Text → Except Error (List (String × String))) : Prop :=
  ∀ parsed line next, step parsed line = .ok next ↔
    ∃ field, read line = some field ∧ parsed.lookup field.1 = none ∧ parsed ++ [field] = next

theorem foldlM_eq_ok (hstep : AppendsField read step) {lines : List Text}
    {parsed fields : List (String × String)} :
    lines.foldlM step parsed = .ok fields ↔
      ∃ added, List.Forall₂ (fun line field => read line = some field) lines added ∧
        (added.map Prod.fst).Nodup ∧ (∀ field ∈ added, parsed.lookup field.1 = none) ∧
        parsed ++ added = fields := by
  induction lines generalizing parsed with
  | nil =>
      constructor
      · intro hfields
        obtain rfl := Except.ok.inj hfields
        exact ⟨[], .nil, List.nodup_nil, nofun, List.append_nil _⟩
      · rintro ⟨_, hread, -, -, rfl⟩
        cases hread
        rw [List.append_nil]
        rfl
  | cons line lines ih =>
      simp only [List.foldlM_cons, bind_eq_ok, hstep parsed line]
      constructor
      · rintro ⟨_, ⟨field, hfield, hnew, rfl⟩, hrest⟩
        obtain ⟨added, hread, hnodup, hother, rfl⟩ := ih.mp hrest
        have hlabels : ∀ later ∈ added, later.1 ≠ field.1 ∧ parsed.lookup later.1 = none := by
          intro later hlater
          have hlookup := hother later hlater
          rw [List.lookup_append, Option.or_eq_none_iff] at hlookup
          refine ⟨?_, hlookup.1⟩
          rintro hsame
          simp [hsame] at hlookup
        refine ⟨field :: added, .cons hfield hread, ?_, ?_, by simp⟩
        · rw [List.map_cons, List.nodup_cons]
          refine ⟨?_, hnodup⟩
          rintro hmem
          obtain ⟨later, hlater, hsame⟩ := List.mem_map.mp hmem
          exact (hlabels later hlater).1 hsame
        · intro later hlater
          rcases List.mem_cons.mp hlater with rfl | hlater
          · exact hnew
          · exact (hlabels later hlater).2
      · rintro ⟨_, hread, hnodup, hnew, rfl⟩
        rcases hread with _ | ⟨hfield, hread⟩
        rename_i field added
        rw [List.map_cons, List.nodup_cons] at hnodup
        refine ⟨_, ⟨field, hfield, hnew field List.mem_cons_self, rfl⟩, ih.mpr ⟨added, hread,
          hnodup.2, ?_, by simp⟩⟩
        intro later hlater
        rw [List.lookup_append, Option.or_eq_none_iff]
        refine ⟨hnew later (List.mem_cons_of_mem _ hlater), ?_⟩
        have hne : later.1 ≠ field.1 := by
          rintro hsame
          exact hnodup.1 (hsame ▸ List.mem_map_of_mem hlater)
        simp [hne]

theorem exists_line_of_mem {lines : List Text} {fields : List (String × String)}
    {field : String × String}
    (hread : List.Forall₂ (fun line field => read line = some field) lines fields)
    (hfield : field ∈ fields) : ∃ line ∈ lines, read line = some field := by
  induction hread with
  | nil => cases hfield
  | cons hline _ ih =>
      rcases List.mem_cons.mp hfield with rfl | hfield
      · exact ⟨_, List.mem_cons_self, hline⟩
      · obtain ⟨line, hmem, hread⟩ := ih hfield
        exact ⟨line, List.mem_cons_of_mem _ hmem, hread⟩

theorem mem_of_lookup {fields : List (String × String)} {label value : String}
    (hlookup : fields.lookup label = some value) : (label, value) ∈ fields := by
  induction fields with
  | nil => cases hlookup
  | cons field fields ih =>
      rw [List.lookup_cons] at hlookup
      split at hlookup
      · rename_i hsame
        obtain rfl := Option.some.inj hlookup
        exact List.mem_cons.mpr (.inl (Prod.ext (eq_of_beq hsame) rfl))
      · exact List.mem_cons_of_mem _ (ih hlookup)

end Reading

end TsnProtocol.Lib.LabelledLines
