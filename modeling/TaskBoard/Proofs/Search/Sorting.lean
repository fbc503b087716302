import Mathlib.Data.List.Chain
import Mathlib.Data.List.Nodup
import Mathlib.Data.List.Pairwise
import Mathlib.Data.List.Range
import Mathlib.Data.List.SplitBy
import TaskBoard.Search.Order

/-!
# The sorted list

Sorting is stable, which a list of tasks alone cannot show.  Each task is therefore
numbered with its position, and numbered tasks are ordered by value, identifier and
position (`SortOrder.Before`).  No two positions are equal, so that a list has one
arrangement in this order (`Arranges.unique`), and the sorted list is it.

The two directions differ in the order of values only: if the ascending list is cut
where the value changes, the pieces in reverse order are the descending list.
-/

namespace TaskBoard

namespace SortOrder

variable (order : SortOrder)

/-- The value of a task that ascends in the direction of the order. -/
def rank (task : Task) : Int :=
  if order.descending then -order.key.value task else order.key.value task

@[simp] theorem rank_ascending (key : SortKey) (task : Task) :
    rank ⟨key, false⟩ task = key.value task := rfl

@[simp] theorem rank_descending (key : SortKey) (task : Task) :
    rank ⟨key, true⟩ task = -key.value task := rfl

/-- A task may stand before another if its rank is less, or if the ranks are equal
and its identifier is not greater. -/
theorem le_iff {left right : Task} :
    order.le left right = true ↔
      order.rank left < order.rank right ∨
        order.rank left = order.rank right ∧ left.id.toNat ≤ right.id.toNat := by
  rw [le, compare, Ordering.isLE_then_iff_or, Nat.isLE_compare, rank, rank]
  cases order.descending with
  | false => simp [Int.compare_eq_lt]
  | true =>
      simp only [↓reduceIte, Ordering.swap_eq_lt, Int.compare_eq_gt, Ordering.swap_eq_eq,
        Int.compare_eq_eq]
      omega

theorem le_total (left right : Task) : (order.le left right || order.le right left) = true := by
  rw [Bool.or_eq_true, le_iff, le_iff]
  omega

theorem le_trans (first second third : Task) (before : order.le first second = true)
    (behind : order.le second third = true) : order.le first third = true := by
  rw [le_iff] at before behind ⊢
  omega

theorem pairwise_sort (tasks : List Task) :
    (order.sort tasks).Pairwise fun left right => order.le left right = true :=
  List.pairwise_mergeSort order.le_trans order.le_total tasks

/-- A sorted list is not changed by sorting it again. -/
theorem sort_sort (tasks : List Task) : order.sort (order.sort tasks) = order.sort tasks :=
  List.mergeSort_of_pairwise (order.pairwise_sort tasks)

/-- A task at a position stands before another one: by the rank, among equal ranks by
the identifier, and among equal identifiers by the position. -/
def Before (left right : Task × Nat) : Prop :=
  order.rank left.1 < order.rank right.1 ∨
    order.rank left.1 = order.rank right.1 ∧
      (left.1.id.toNat < right.1.id.toNat ∨
        left.1.id.toNat = right.1.id.toNat ∧ left.2 < right.2)

variable {order} in
theorem Before.asymm {left right : Task × Nat} (before : order.Before left right)
    (behind : order.Before right left) : False := by
  unfold Before at before behind
  omega

/-- Tasks at different positions stand as a stable sort puts them. -/
theorem before_of_zipIdxLE {left right : Task × Nat}
    (before : List.zipIdxLE order.le left right = true) (different : left.2 ≠ right.2) :
    order.Before left right := by
  rw [List.zipIdxLE] at before
  unfold Before
  split at before
  case isFalse => contradiction
  case isTrue le =>
    have may := order.le_iff.mp le
    split at before
    case isTrue ge =>
      have mayAlso := order.le_iff.mp ge
      have position := of_decide_eq_true before
      omega
    case isFalse notGe =>
      rw [order.le_iff] at notGe
      omega

/-- A list holds the tasks of another one in order, where tasks of equal rank and
identifier stand as they do in the other one. -/
def Arranges (tasks arranged : List Task) : Prop :=
  ∃ numbered : List (Task × Nat),
    numbered.Perm tasks.zipIdx ∧ numbered.Pairwise order.Before ∧
      numbered.map Prod.fst = arranged

variable {order}

theorem Arranges.perm {tasks arranged : List Task} (arranges : order.Arranges tasks arranged) :
    arranged.Perm tasks := by
  obtain ⟨numbered, permuted, -, rfl⟩ := arranges
  have unnumbered := permuted.map Prod.fst
  rwa [List.zipIdx_map_fst] at unnumbered

/-- A list has one arrangement. -/
theorem Arranges.unique {tasks arranged other : List Task}
    (arranges : order.Arranges tasks arranged) (otherwise : order.Arranges tasks other) :
    arranged = other := by
  obtain ⟨numbered, permuted, sorted, rfl⟩ := arranges
  obtain ⟨renumbered, repermuted, resorted, rfl⟩ := otherwise
  have equal : numbered = renumbered := by
    apply List.Perm.eq_of_pairwise _ sorted resorted (permuted.trans repermuted.symm)
    exact fun _ _ _ _ before behind => (before.asymm behind).elim
  rw [equal]

variable (order) in
/-- The sorted list is the arrangement. -/
theorem arranges_sort (tasks : List Task) : order.Arranges tasks (order.sort tasks) := by
  refine ⟨tasks.zipIdx.mergeSort (List.zipIdxLE order.le), List.mergeSort_perm _ _, ?_,
    List.mergeSort_zipIdx⟩
  have sorted := List.pairwise_mergeSort (List.zipIdxLE_trans order.le_trans)
    (List.zipIdxLE_total order.le_total) tasks.zipIdx
  have positions : (tasks.zipIdx.map Prod.snd).Nodup := by
    rw [List.zipIdx_map_snd]
    exact List.nodup_range'
  -- `zipIdxLE` admits equal positions as well, but there are none.
  have apart : (tasks.zipIdx.mergeSort (List.zipIdxLE order.le)).Pairwise
      fun left right => left.2 ≠ right.2 :=
    List.pairwise_map.mp (((List.mergeSort_perm _ _).map Prod.snd).nodup_iff.mpr positions)
  exact (sorted.and apart).imp fun ⟨before, different⟩ => order.before_of_zipIdxLE before different

end SortOrder

/-! ## The two directions -/

namespace SortKey

variable (key : SortKey)

/-- Tasks of one value. -/
def Alike (left right : Task) : Prop := key.value left = key.value right

instance : Std.Symm key.Alike := ⟨fun _ _ => Eq.symm⟩

instance : Trans key.Alike key.Alike key.Alike := ⟨Eq.trans⟩

/-- The maximal blocks of tasks of one value. -/
def blocks (tasks : List Task) : List (List Task) :=
  tasks.splitBy fun left right => key.value left == key.value right

/-- What makes some lists the maximal blocks of a list. -/
structure AreBlocks (tasks : List Task) (blocks : List (List Task)) : Prop where
  flatten_eq : blocks.flatten = tasks
  ne_nil : ∀ block ∈ blocks, block ≠ []
  alike : ∀ block ∈ blocks, ∀ left ∈ block, ∀ right ∈ block, key.Alike left right
  apart : blocks.IsChain fun block next =>
    ∀ left ∈ block, ∀ right ∈ next, ¬ key.Alike left right

theorem areBlocks_blocks (tasks : List Task) : key.AreBlocks tasks (key.blocks tasks) := by
  have alike : ∀ block ∈ key.blocks tasks, ∀ left ∈ block, ∀ right ∈ block,
      key.Alike left right := by
    intro block member left isLeft right isRight
    have chained : block.IsChain key.Alike :=
      (List.isChain_of_mem_splitBy member).imp fun _ _ => beq_iff_eq.mp
    refine List.Pairwise.forall_of_forall ?_ chained.pairwise isLeft isRight
    exact fun _ _ => rfl
  refine ⟨List.flatten_splitBy _ tasks, fun block => List.ne_nil_of_mem_splitBy, alike, ?_⟩
  apply (List.isChain_getLast_head_splitBy _ tasks).imp_of_mem_imp
  rintro block next isBlock isNext ⟨nonempty, nextNonempty, differ⟩ left isLeft right isRight equal
  have ends : key.Alike (block.getLast nonempty) (next.head nextNonempty) :=
    calc key.value (block.getLast nonempty)
      _ = key.value left := alike block isBlock _ (List.getLast_mem nonempty) left isLeft
      _ = key.value right := equal
      _ = key.value (next.head nextNonempty) :=
        alike next isNext right isRight _ (List.head_mem nextNonempty)
  exact beq_eq_false_iff_ne.mp differ ends

/-- A list that is not empty holds tasks of greater values only. -/
def Rises (block later : List Task) : Prop :=
  later ≠ [] ∧ ∀ left ∈ block, ∀ right ∈ later, key.value left < key.value right

instance : Trans key.Rises key.Rises key.Rises where
  trans := by
    rintro first second third ⟨nonempty, less⟩ ⟨lastNonempty, lessAgain⟩
    refine ⟨lastNonempty, fun left isLeft right isRight => ?_⟩
    obtain ⟨between, isBetween⟩ := List.exists_mem_of_ne_nil second nonempty
    exact Int.lt_trans (less left isLeft between isBetween)
      (lessAgain between isBetween right isRight)

variable {key}

/-- In an ascending list the values of all later blocks are greater. -/
theorem AreBlocks.rising {tasks : List Task} {blocks : List (List Task)}
    (areBlocks : key.AreBlocks tasks blocks)
    (ascends : tasks.Pairwise fun left right => key.value left ≤ key.value right) :
    blocks.Pairwise key.Rises := by
  rw [← areBlocks.flatten_eq, List.pairwise_flatten] at ascends
  have rising : blocks.IsChain key.Rises := by
    rw [List.isChain_iff_getElem]
    intro position within
    refine ⟨areBlocks.ne_nil _ (List.getElem_mem within), fun left isLeft right isRight => ?_⟩
    have ascending := List.pairwise_iff_getElem.mp ascends.2 position (position + 1)
      (Nat.lt_of_succ_lt within) within (Nat.lt_succ_self position)
    have apart := areBlocks.apart.getElem position within
    exact Int.lt_iff_le_and_ne.mpr
      ⟨ascending left isLeft right isRight, apart left isLeft right isRight⟩
  exact rising.pairwise

/-- The blocks of numbered tasks are numbered blocks. -/
theorem exists_numbered_blocks {numbered : List (Task × Nat)} {blocks : List (List Task)}
    (cut : blocks.flatten = numbered.map Prod.fst) :
    ∃ pieces : List (List (Task × Nat)),
      pieces.flatten = numbered ∧ pieces.map (List.map Prod.fst) = blocks := by
  induction blocks generalizing numbered with
  | nil =>
      rw [List.flatten_nil, eq_comm, List.map_eq_nil_iff] at cut
      exact ⟨[], cut.symm, rfl⟩
  | cons block rest ih =>
      rw [List.flatten_cons, eq_comm, List.map_eq_append_iff] at cut
      obtain ⟨piece, others, rfl, rfl, others_eq⟩ := cut
      obtain ⟨pieces, rfl, rfl⟩ := ih others_eq.symm
      exact ⟨piece :: pieces, rfl, rfl⟩

/-- The blocks of the ascending arrangement are, in reverse order, the descending one. -/
theorem AreBlocks.arranges_reverse {tasks arranged : List Task} {blocks : List (List Task)}
    (areBlocks : key.AreBlocks arranged blocks)
    (arranges : SortOrder.Arranges ⟨key, false⟩ tasks arranged) :
    SortOrder.Arranges ⟨key, true⟩ tasks blocks.reverse.flatten := by
  obtain ⟨numbered, permuted, sorted, rfl⟩ := arranges
  have ascends : (numbered.map Prod.fst).Pairwise
      fun left right => key.value left ≤ key.value right := by
    refine List.pairwise_map.mpr (sorted.imp fun before => ?_)
    simp only [SortOrder.Before, SortOrder.rank_ascending] at before
    omega
  have rising := areBlocks.rising ascends
  have alike := areBlocks.alike
  -- Within a block both directions order by identifier and position; between blocks the
  -- values decide, and reversing the blocks reverses them.
  obtain ⟨pieces, rfl, rfl⟩ := exists_numbered_blocks areBlocks.flatten_eq
  rw [List.pairwise_flatten] at sorted
  refine ⟨pieces.reverse.flatten, (List.reverse_perm pieces).flatten.trans permuted, ?_, ?_⟩
  · rw [List.pairwise_flatten, List.pairwise_reverse]
    constructor
    · intro piece member
      rw [List.mem_reverse] at member
      refine (sorted.1 piece member).imp_of_mem fun isLeft isRight before => ?_
      have equal := alike _ (List.mem_map_of_mem member) _ (List.mem_map_of_mem isLeft) _
        (List.mem_map_of_mem isRight)
      simp only [SortOrder.Before, Alike, SortOrder.rank_ascending, SortOrder.rank_descending]
        at equal before ⊢
      omega
    · refine (List.pairwise_map.mp rising).imp fun rises left isLeft right isRight => ?_
      have greater := rises.2 _ (List.mem_map_of_mem isRight) _ (List.mem_map_of_mem isLeft)
      exact .inl (Int.neg_lt_neg greater)
  · rw [List.map_flatten, List.map_reverse]

end SortKey

/-- In both directions the sorted list holds the tasks ordered by value, then by
identifier, then as they were given, and is not changed by sorting it again.  The
descending list is made of the maximal blocks of equal value of the ascending one, in
reverse order. -/
theorem stable_sort_both_directions (key : SortKey) (tasks : List Task) :
    (∀ descending, let order : SortOrder := ⟨key, descending⟩
      (order.sort tasks).Perm tasks ∧ order.Arranges tasks (order.sort tasks) ∧
        order.sort (order.sort tasks) = order.sort tasks) ∧
    let ascending := SortOrder.sort ⟨key, false⟩ tasks
    key.AreBlocks ascending (key.blocks ascending) ∧
      SortOrder.sort ⟨key, true⟩ tasks = (key.blocks ascending).reverse.flatten := by
  constructor
  · intro descending order
    have arranges := order.arranges_sort tasks
    exact ⟨arranges.perm, arranges, order.sort_sort tasks⟩
  · intro ascending
    have areBlocks := key.areBlocks_blocks ascending
    refine ⟨areBlocks, ?_⟩
    apply (SortOrder.arranges_sort ⟨key, true⟩ tasks).unique
    exact areBlocks.arranges_reverse (SortOrder.arranges_sort ⟨key, false⟩ tasks)

end TaskBoard
