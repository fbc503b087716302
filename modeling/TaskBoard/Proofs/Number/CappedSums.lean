import Mathlib.Algebra.GroupWithZero.Nat
import TaskBoard.Number.Bounded

/-!
# Capped sums

A sum that stops at a limit after each addition is the exact sum, stopped at the limit
once (`foldl_stops_at`).  So the order of the additions and what was added up before
others make no difference.
-/

namespace TaskBoard

/-- Where every item raises a number by its gain and stops at a limit, a list of items
raises it by the sum of the gains and stops at the limit. -/
theorem foldl_stops_at {α β : Type} (read : α → Nat) {step : α → β → α} {gain : β → Nat}
    {limit : Nat} {items : List β} (raised : ∀ state, ∀ item ∈ items,
      read (step state item) = min (read state + gain item) limit)
    {state : α} (within : read state ≤ limit) :
    read (items.foldl step state) = min (read state + (items.map gain).sum) limit := by
  induction items generalizing state with
  | nil => simp [within]
  | cons item rest ih =>
      have first := raised state item List.mem_cons_self
      have others := ih (fun state item member => raised state item (List.mem_cons_of_mem _ member))
        (first ▸ Nat.min_le_right _ _)
      rw [List.foldl_cons, others, first, List.map_cons, List.sum_cons]
      omega

/-- Where only some items count, and these for something that has a gain, a list of items
raises a number by the sum of these gains and stops at the limit. -/
theorem foldl_filterMap_stops_at {α β γ : Type} (read : α → Nat) {step : α → β → α}
    (counts : β → Option γ) (gain : γ → Nat) {limit : Nat}
    (raised : ∀ state item,
      read (step state item) = min (read state + ((counts item).map gain).getD 0) limit)
    (items : List β) {state : α} (within : read state ≤ limit) :
    read (items.foldl step state) =
      min (read state + ((items.filterMap counts).map gain).sum) limit := by
  have gains : (items.map fun item => ((counts item).map gain).getD 0).sum =
      ((items.filterMap counts).map gain).sum := by
    induction items with
    | nil => rfl
    | cons item rest ih => cases counted : counts item <;> simp [counted, ih]
  rw [← gains]
  exact foldl_stops_at read (fun state item _ => raised state item) within

/-- Numbers that are capped before they are added up make no difference to a capped sum. -/
theorem min_sum_map_min (numbers : List Nat) (limit : Nat) :
    min (numbers.map fun number => min number limit).sum limit = min numbers.sum limit := by
  induction numbers with
  | nil => rfl
  | cons number rest ih =>
      rw [List.map_cons, List.sum_cons, List.sum_cons]
      omega

namespace Bounded

variable {limit : Nat}

@[simp] theorem sum_val (numbers : List (Bounded limit)) :
    (sum numbers).val = min (numbers.map val).sum limit := by
  have raised : (sum numbers).val = min ((cap 0 : Bounded limit).val + _) limit :=
    foldl_stops_at val (fun left right _ => add_val left right) (cap 0).le_limit
  simpa using raised

theorem add_right_comm (first second third : Bounded limit) :
    (first.add second).add third = (first.add third).add second := by
  apply Bounded.ext
  simp only [add_val]
  omega

theorem sum_append (left right : List (Bounded limit)) :
    sum (left ++ right) = (sum left).add (sum right) := by
  apply Bounded.ext
  simp only [sum_val, add_val, List.map_append, List.sum_append]
  omega

end Bounded

end TaskBoard
