import Mathlib

/-!
Lists of values under numeric keys, and a check by partition that no key occurs with two
values.
-/

namespace TsnProtocol.Lib.KeyedList

variable {α : Type}

/-- No key occurs with two values. -/
def Functional (entries : List (Nat × α)) : Prop :=
  ∀ first ∈ entries, ∀ second ∈ entries, first.1 = second.1 → first.2 = second.2

/-- The check: the first entry against the rest, then the entries with smaller and those
with larger keys among themselves. -/
def isFunctional [DecidableEq α] : Nat → List (Nat × α) → Bool
  | _, [] => true
  | 0, _ :: _ => false
  | fuel + 1, entry :: entries =>
      entries.all (fun other => other.1 ≠ entry.1 ∨ other.2 = entry.2) &&
        isFunctional fuel (entries.filter fun other => other.1 < entry.1) &&
        isFunctional fuel (entries.filter fun other => entry.1 < other.1)

theorem functional_of_isFunctional [DecidableEq α] (fuel : Nat) {entries : List (Nat × α)}
    (hcheck : isFunctional fuel entries = true) : Functional entries := by
  induction fuel generalizing entries with
  | zero =>
      cases entries with
      | nil => exact fun first hfirst => absurd hfirst List.not_mem_nil
      | cons entry entries => cases hcheck
  | succ fuel ih =>
      cases entries with
      | nil => exact fun first hfirst => absurd hfirst List.not_mem_nil
      | cons entry entries =>
          simp only [isFunctional, Bool.and_eq_true, List.all_eq_true,
            decide_eq_true_eq] at hcheck
          obtain ⟨⟨hentry, hsmaller⟩, hlarger⟩ := hcheck
          have hagree : ∀ other ∈ entry :: entries, other.1 = entry.1 → other.2 = entry.2 := by
            intro other hother hkey
            rcases List.mem_cons.mp hother with rfl | hrest
            · rfl
            · exact (hentry other hrest).resolve_left fun hne => hne hkey
          intro first hfirst second hsecond hkey
          rcases Nat.lt_trichotomy first.1 entry.1 with hlt | heq | hgt
          · have hmem : ∀ other ∈ entry :: entries, other.1 = first.1 →
                other ∈ entries.filter fun other => other.1 < entry.1 := by
              intro other hother hother'
              rcases List.mem_cons.mp hother with rfl | hrest
              · omega
              · exact List.mem_filter.mpr ⟨hrest, by simpa [hother'] using hlt⟩
            exact ih hsmaller first (hmem first hfirst rfl) second
              (hmem second hsecond hkey.symm) hkey
          · rw [hagree first hfirst heq, hagree second hsecond (hkey ▸ heq)]
          · have hmem : ∀ other ∈ entry :: entries, other.1 = first.1 →
                other ∈ entries.filter fun other => entry.1 < other.1 := by
              intro other hother hother'
              rcases List.mem_cons.mp hother with rfl | hrest
              · omega
              · exact List.mem_filter.mpr ⟨hrest, by simpa [hother'] using hgt⟩
            exact ih hlarger first (hmem first hfirst rfl) second
              (hmem second hsecond hkey.symm) hkey

end TsnProtocol.Lib.KeyedList
