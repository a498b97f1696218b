import Mathlib

/-!
Computations that stop at the first failed check, and unsigned arithmetic that
fails instead of wrapping around. The simp lemmas turn a successful computation
into the facts its checks establish.
-/

namespace TsnProtocol.Lib.Checked

variable {α β Error : Type}

/-- Stop with `problem` unless `condition` holds. -/
def require (condition : Prop) [Decidable condition] (problem : Error) :
    Except Error Unit :=
  if condition then .ok () else .error problem

/-- The value of an option, or stop with `problem`. -/
def okOr (value : Option α) (problem : Error) : Except Error α :=
  match value with
  | some result => .ok result
  | none => .error problem

/-- Addition of unsigned integers of the given width; `none` on overflow. -/
def checkedAdd (width left right : Nat) : Option Nat :=
  if left + right < 2 ^ width then some (left + right) else none

/-- Subtraction of unsigned integers; `none` on underflow. -/
def checkedSub (left right : Nat) : Option Nat :=
  if right ≤ left then some (left - right) else none

@[simp] theorem bind_eq_ok {first : Except Error α} {rest : α → Except Error β}
    {result : β} :
    (first >>= rest) = .ok result ↔
      ∃ value, first = .ok value ∧ rest value = .ok result := by
  cases first <;> simp [bind, Except.bind]

@[simp] theorem pure_eq_ok {value result : α} :
    (pure value : Except Error α) = .ok result ↔ value = result := by
  simp [pure, Except.pure]

@[simp] theorem map_eq_ok {change : α → β} {first : Except Error α} {result : β} :
    (change <$> first) = .ok result ↔
      ∃ value, first = .ok value ∧ change value = result := by
  cases first <;> simp [Functor.map, Except.map]

@[simp] theorem require_eq_ok {condition : Prop} [Decidable condition]
    {problem : Error} {result : Unit} :
    require condition problem = .ok result ↔ condition := by
  simp [require]

@[simp] theorem okOr_eq_ok {value : Option α} {problem : Error} {result : α} :
    okOr value problem = .ok result ↔ value = some result := by
  cases value <;> simp [okOr]

@[simp] theorem checkedAdd_eq_some {width left right result : Nat} :
    checkedAdd width left right = some result ↔
      left + right < 2 ^ width ∧ left + right = result := by
  simp [checkedAdd]

@[simp] theorem checkedSub_eq_some {left right result : Nat} :
    checkedSub left right = some result ↔
      right ≤ left ∧ left - right = result := by
  simp [checkedSub]

@[simp] theorem mapError_eq_ok {Other : Type} {change : Error → Other}
    {computation : Except Error α} {result : α} :
    computation.mapError change = .ok result ↔ computation = .ok result := by
  cases computation <;> simp [Except.mapError]

theorem exists_ok_of_isOk {computation : Except Error α} (hok : computation.isOk = true) :
    ∃ result, computation = .ok result := by
  cases computation with
  | error problem => cases hok
  | ok result => exact ⟨result, rfl⟩

/-- A computation succeeds when each of its steps does. -/
theorem exists_ok_bind {first : Except Error α} {rest : α → Except Error β} {value : α}
    (hfirst : first = .ok value) (hrest : ∃ result, rest value = .ok result) :
    ∃ result, (first >>= rest) = .ok result := by
  obtain ⟨result, hrest⟩ := hrest
  exact ⟨result, bind_eq_ok.mpr ⟨value, hfirst, hrest⟩⟩

theorem exists_ok_seq {check : Except Error Unit} {rest : Unit → Except Error β}
    (hcheck : check = .ok ()) (hrest : ∃ result, rest () = .ok result) :
    ∃ result, (check >>= rest) = .ok result :=
  exists_ok_bind hcheck hrest

/-- Every result of the computation satisfies `post`. -/
def Ensures (post : α → Prop) (computation : Except Error α) : Prop :=
  ∀ result, computation = .ok result → post result

theorem ensures_bind {first : Except Error α} {rest : α → Except Error β}
    {post : β → Prop} (hrest : ∀ value, first = .ok value → Ensures post (rest value)) :
    Ensures post (first >>= rest) := by
  intro result hresult
  obtain ⟨value, hfirst, hvalue⟩ := bind_eq_ok.mp hresult
  exact hrest value hfirst result hvalue

theorem ensures_pure {value : α} {post : α → Prop} (hpost : post value) :
    Ensures post (pure value : Except Error α) := by
  intro result hresult
  exact pure_eq_ok.mp hresult ▸ hpost

theorem ensures_error {problem : Error} {post : α → Prop} :
    Ensures post (.error problem : Except Error α) :=
  nofun

/-- The computation never stops with `problem`. -/
def Avoids (problem : Error) (computation : Except Error α) : Prop :=
  computation ≠ .error problem

theorem avoids_bind {problem : Error} {first : Except Error α} {rest : α → Except Error β}
    (hfirst : Avoids problem first)
    (hrest : ∀ value, first = .ok value → Avoids problem (rest value)) :
    Avoids problem (first >>= rest) := by
  cases hvalue : first with
  | error other =>
      intro herror
      have hother : other = problem := Except.error.inj herror
      exact hfirst (hvalue.trans (congrArg _ hother))
  | ok value => exact hrest value hvalue

theorem avoids_pure {problem : Error} {value : α} :
    Avoids problem (pure value : Except Error α) :=
  nofun

theorem avoids_require {problem other : Error} {condition : Prop} [Decidable condition]
    (hother : other ≠ problem) : Avoids problem (require condition other) := by
  intro herror
  simp only [require] at herror
  split at herror
  · cases herror
  · exact hother (Except.error.inj herror)

theorem avoids_okOr {problem other : Error} {value : Option α} (hother : other ≠ problem) :
    Avoids problem (okOr value other) := by
  intro herror
  cases value with
  | none => exact hother (Except.error.inj herror)
  | some result => cases herror

theorem avoids_okOr_of_isSome {problem other : Error} {value : Option α}
    (hvalue : value.isSome) : Avoids problem (okOr value other) := by
  obtain ⟨result, rfl⟩ := Option.isSome_iff_exists.mp hvalue
  exact nofun

end TsnProtocol.Lib.Checked
