import TaskBoard.Number.Bounded

/-!
# Levels of reputation

A score lies in one of six bands, each of which is a level.
-/

namespace TaskBoard

/-- A level of reputation. -/
inductive Level where
  | newcomer
  | apprentice
  | skilled
  | expert
  | master
  | legendary
  deriving DecidableEq, Repr

namespace Level

/-- All levels in ascending order. -/
def all : List Level := [newcomer, apprentice, skilled, expert, master, legendary]

/-- The level of a score. -/
def ofScore (score : Nat) : Level :=
  if score ≤ 100 then newcomer
  else if score ≤ 300 then apprentice
  else if score ≤ 600 then skilled
  else if score ≤ 1000 then expert
  else if score ≤ 1500 then master
  else legendary

/-- The least score of a level. -/
def minScore : Level → Nat
  | newcomer => 0
  | apprentice => 101
  | skilled => 301
  | expert => 601
  | master => 1001
  | legendary => 1501

/-- The next level, if there is one. -/
def next : Level → Option Level
  | newcomer => some apprentice
  | apprentice => some skilled
  | skilled => some expert
  | expert => some master
  | master => some legendary
  | legendary => none

/-- The greatest score of a level, if there is one. -/
def maxScore (level : Level) : Option Nat := level.next.map fun next => next.minScore - 1

/-- The place of a level in the order. -/
def rank : Level → Nat
  | newcomer => 0
  | apprentice => 1
  | skilled => 2
  | expert => 3
  | master => 4
  | legendary => 5

/-- The name of a level. -/
def name : Level → String
  | newcomer => "Newcomer"
  | apprentice => "Apprentice"
  | skilled => "Skilled"
  | expert => "Expert"
  | master => "Master"
  | legendary => "Legendary"

/-- Each level with its name. -/
def choices : List (String × Level) := all.map fun level => (level.name, level)

@[simp] theorem mem_all (level : Level) : level ∈ all := by cases level <;> decide

/-- Only a level itself has its rank. -/
theorem rank_inj {left right : Level} : left.rank = right.rank ↔ left = right := by
  cases left <;> cases right <;> decide

end Level

end TaskBoard
