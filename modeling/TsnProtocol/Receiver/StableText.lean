import TsnProtocol.Lib.JsonText
import TsnProtocol.Receiver.WorkContract

/-!
Two values with one stable text are the same up to the order of their fields.
-/

namespace TsnProtocol.Receiver.StableText

open Lib.JsonData
open Lib.JsonText
open Receiver.WorkContract

variable {conversions : Conversions} {le : String → String → Bool} {numbers : Set Rat}

theorem itemTexts_eq_map (items : List Json) :
    stableText.itemTexts conversions le items = items.map (stableText conversions le) := by
  induction items with
  | nil => rfl
  | cons item items ih => rw [stableText.itemTexts, ih, List.map_cons]

theorem fieldTexts_eq_map (fields : List (String × Json)) :
    stableText.fieldTexts conversions le fields =
      fields.map fun field => (field.1, stableText conversions le field.2) := by
  induction fields with
  | nil => rfl
  | cons field fields ih => rw [stableText.fieldTexts, ih, List.map_cons]

theorem render_itemTexts_eq_map {numberText : Rat → String} (items : List Json) :
    render.itemTexts numberText items = items.map (render numberText) := by
  induction items with
  | nil => rfl
  | cons item items ih => rw [render.itemTexts, ih, List.map_cons]

theorem render_fieldTexts_eq_map {numberText : Rat → String} (fields : List (String × Json)) :
    render.fieldTexts numberText fields = fields.map fun field =>
      (quoteText field.1).toList ++ ':' :: render numberText field.2 := by
  induction fields with
  | nil => rfl
  | cons field fields ih => rw [render.fieldTexts, ih, List.map_cons]

mutual

/-- The stable text of a value is that of the value with its fields sorted. -/
theorem toList_stableText (hquote : conversions.quote = quoteText) (value : Json) :
    (stableText conversions le value).toList =
      render conversions.numberText (normal le value) := by
  cases value with
  | null => rfl
  | bool value => cases value <;> rfl
  | num value => rfl
  | str text => rw [stableText, hquote]; rfl
  | arr items =>
      have hitems : (items.map (stableText conversions le)).map String.toList =
          (items.map (normal le)).map (render conversions.numberText) := by
        rw [List.map_map, List.map_map]
        exact List.map_congr_left (toList_items hquote items)
      rw [stableText, normal, render, itemTexts_eq_map, normalItems_eq_map,
        render_itemTexts_eq_map, String.toList_append, String.toList_append,
        String.toList_intercalate, hitems]
      rfl
  | obj fields =>
      have hfields := toList_fields hquote fields
      rw [stableText, normal, render, fieldTexts_eq_map, normalFields_eq_map,
        render_fieldTexts_eq_map, sortFields, sort_map, sort_map, String.toList_append,
        String.toList_append, String.toList_intercalate, List.map_map, List.map_map,
        List.map_map]
      refine congrArg (fun texts => '\x7b' :: ([','].intercalate texts ++ ['\x7d']))
        (List.map_congr_left fun field hfield => ?_)
      have htext := hfields field ((List.mem_insertionSort _).mp hfield)
      simp only [Function.comp_apply, hquote, String.toList_append, htext]
      simp

theorem toList_items (hquote : conversions.quote = quoteText) (items : List Json) :
    ∀ item ∈ items, (String.toList ∘ stableText conversions le) item =
      (render conversions.numberText ∘ normal le) item := by
  cases items with
  | nil => exact fun _ hitem => absurd hitem List.not_mem_nil
  | cons item items =>
      rw [List.forall_mem_cons]
      exact ⟨toList_stableText hquote item, toList_items hquote items⟩

theorem toList_fields (hquote : conversions.quote = quoteText)
    (fields : List (String × Json)) :
    ∀ field ∈ fields, (stableText conversions le field.2).toList =
      render conversions.numberText (normal le field.2) := by
  cases fields with
  | nil => exact fun _ hfield => absurd hfield List.not_mem_nil
  | cons field fields =>
      rw [List.forall_mem_cons]
      exact ⟨toList_stableText hquote field.2, toList_fields hquote fields⟩

end

theorem stableText_inj (hquote : conversions.quote = quoteText)
    (hwrites : WritesNumbers conversions.numberText numbers) {first second : Json}
    (hfirst : HasNumbersIn numbers first) (hsecond : HasNumbersIn numbers second) :
    stableText conversions le first = stableText conversions le second ↔
      normal le first = normal le second := by
  rw [← String.toList_inj, toList_stableText hquote, toList_stableText hquote]
  constructor
  · intro heq
    exact render_injective hwrites (hasNumbersIn_normal first hfirst)
      (hasNumbersIn_normal second hsecond) heq
  · intro heq
    rw [heq]

end TsnProtocol.Receiver.StableText
