import Mathlib

/-!
A loop that follows links from one position to the next and collects what it meets, until a
position has no link. Over finitely many positions it stops exactly when it does not come back.
-/

namespace TsnProtocol.Lib.LinkedWalk

open Relation (ReflTransGen TransGen)

variable {Position Item Error : Type}

/-- The loop, which may test `fuel` positions. -/
def walk (follow : Position → Except Error (Option (Item × Position))) :
    Nat → Position → List Item → Option (Except Error (List Item))
  | 0, _, _ => none
  | fuel + 1, position, items =>
      match follow position with
      | .error problem => some (.error problem)
      | .ok none => some (.ok items)
      | .ok (some (item, next)) => walk follow fuel next (items ++ [item])

def Leads (follow : Position → Except Error (Option (Item × Position)))
    (position next : Position) : Prop :=
  ∃ item, follow position = .ok (some (item, next))

/-- The items from a position to the last one. -/
inductive Linked (follow : Position → Except Error (Option (Item × Position))) :
    Position → List Item → Prop
  | last {position} (hlast : follow position = .ok none) : Linked follow position []
  | step {position item next items} (hstep : follow position = .ok (some (item, next)))
      (hitems : Linked follow next items) : Linked follow position (item :: items)

variable {follow : Position → Except Error (Option (Item × Position))}

theorem linked_of_walk {fuel : Nat} {position : Position} {items result : List Item}
    (hwalk : walk follow fuel position items = some (.ok result)) :
    ∃ later, result = items ++ later ∧ Linked follow position later := by
  induction fuel generalizing position items with
  | zero => cases hwalk
  | succ fuel ih =>
      rw [walk] at hwalk
      split at hwalk
      · cases hwalk
      · next hlast =>
          obtain rfl := Except.ok.inj (Option.some.inj hwalk)
          exact ⟨[], (List.append_nil _).symm, .last hlast⟩
      · next item next hstep =>
          obtain ⟨later, rfl, hlater⟩ := ih hwalk
          exact ⟨item :: later, List.append_assoc .., .step hstep hlater⟩

/-- A loop that stops has followed a well-founded part of the links. -/
theorem acc_of_walk {fuel : Nat} {position : Position} {items : List Item}
    (hwalk : (walk follow fuel position items).isSome) :
    Acc (fun next position => Leads follow position next) position := by
  induction fuel generalizing position items with
  | zero => cases hwalk
  | succ fuel ih =>
      refine Acc.intro position ?_
      rintro next ⟨item, hstep⟩
      simp only [walk, hstep] at hwalk
      exact ih hwalk

theorem exists_walk_of_acc {position : Position} (items : List Item)
    (hacc : Acc (fun next position => Leads follow position next) position) :
    ∃ fuel, (walk follow fuel position items).isSome := by
  induction hacc generalizing items with
  | intro position _ ih =>
      rcases hstep : follow position with problem | _ | ⟨item, next⟩
      · exact ⟨1, by simp only [walk, hstep, Option.isSome_some]⟩
      · exact ⟨1, by simp only [walk, hstep, Option.isSome_some]⟩
      · obtain ⟨fuel, hfuel⟩ := ih next ⟨item, hstep⟩ (items ++ [item])
        exact ⟨fuel + 1, by simp only [walk, hstep, hfuel]⟩

/-- No reachable position of a well-founded part leads back to itself. -/
theorem acyclic_of_acc {position : Position}
    (hacc : Acc (fun next position => Leads follow position next) position)
    {later : Position} (hreach : ReflTransGen (Leads follow) position later) :
    ¬ TransGen (Leads follow) later later := by
  have hlater : Acc (fun next position => Leads follow position next) later := by
    induction hreach with
    | refl => exact hacc
    | tail _ hlast ih => exact ih.inv hlast
  have hclosed : Acc (TransGen fun next position => Leads follow position next) later :=
    acc_transGen_iff.mpr hlater
  intro hcycle
  rw [← Relation.transGen_swap] at hcycle
  clear hreach hlater
  induction hclosed with
  | intro later _ ih => exact ih later hcycle hcycle

/-- Where no reachable position leads back to itself, finitely many links are well-founded. -/
theorem acc_of_acyclic (hfinite : {next | ∃ position, Leads follow position next}.Finite)
    {position : Position}
    (hacyclic : ∀ later, ReflTransGen (Leads follow) position later →
      ¬ TransGen (Leads follow) later later) :
    Acc (fun next position => Leads follow position next) position := by
  let Reached := {next // (∃ position, Leads follow position next) ∧
    ReflTransGen (Leads follow) position next}
  have : Finite Reached := (hfinite.subset fun _ hnext => hnext.1).to_subtype
  let After : Reached → Reached → Prop := fun next current =>
    TransGen (Leads follow) current.1 next.1
  have : IsTrans Reached After := ⟨fun _ _ _ hleft hright => hright.trans hleft⟩
  have : Std.Irrefl After := ⟨fun next => hacyclic next.1 next.2.2⟩
  have hreached : ∀ current : Reached,
      Acc (fun next position => Leads follow position next) current.1 := by
    intro current
    induction current using (Finite.wellFounded_of_trans_of_irrefl After).induction with
    | _ current ih =>
        refine Acc.intro current.1 fun next hnext => ?_
        exact ih ⟨next, ⟨current.1, hnext⟩, current.2.2.tail hnext⟩ (.single hnext)
  exact Acc.intro position fun next hnext => hreached ⟨next, ⟨position, hnext⟩, .single hnext⟩

/-- The loop stops exactly when no position that it can reach leads back to itself. -/
theorem exists_walk_iff_acyclic
    (hfinite : {next | ∃ position, Leads follow position next}.Finite) {position : Position}
    (items : List Item) :
    (∃ fuel, (walk follow fuel position items).isSome) ↔
      ∀ later, ReflTransGen (Leads follow) position later →
        ¬ TransGen (Leads follow) later later := by
  constructor
  · rintro ⟨fuel, hwalk⟩ later hreach
    exact acyclic_of_acc (acc_of_walk hwalk) hreach
  · intro hacyclic
    exact exists_walk_of_acc items (acc_of_acyclic hfinite hacyclic)

end TsnProtocol.Lib.LinkedWalk
