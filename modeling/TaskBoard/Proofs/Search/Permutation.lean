import Mathlib.Data.List.Nodup
import TaskBoard.App
import TaskBoard.Proofs.Ledger.Contents
import TaskBoard.Proofs.Search.Sorting

/-!
# Searches of a snapshot in any order

The order of tasks is linear on tasks with different identifiers, in both
directions and for every key.  The tasks found are therefore the same however a
snapshot is listed (`search_eq_of_perm`), and the application, which searches
the snapshot as the ledger lists it, finds what a search of the snapshot finds.
-/

namespace TaskBoard

namespace SortOrder

variable (order : SortOrder)

/-- Only tasks of one identifier may stand in either order. -/
theorem id_eq_of_le_of_le {left right : Task} (before : order.le left right = true)
    (behind : order.le right left = true) : left.id = right.id := by
  rw [le_iff] at before behind
  apply Id.toNat_inj.mp
  omega

/-- Tasks with different identifiers have one sorted order. -/
theorem sort_eq_of_perm {tasks other : List Task} (distinct : (tasks.map Task.id).Nodup)
    (permuted : tasks.Perm other) : order.sort tasks = order.sort other := by
  have sorted : (order.sort tasks).Perm tasks := List.mergeSort_perm _ _
  have otherSorted : (order.sort other).Perm other := List.mergeSort_perm _ _
  apply List.Perm.eq_of_pairwise _ (order.pairwise_sort tasks) (order.pairwise_sort other)
  · exact (sorted.trans permuted).trans otherSorted.symm
  · intro left right isLeft isRight before behind
    have leftMember := sorted.mem_iff.mp isLeft
    have rightMember := permuted.mem_iff.mpr (otherSorted.mem_iff.mp isRight)
    exact List.inj_on_of_nodup_map distinct leftMember rightMember
      (order.id_eq_of_le_of_le before behind)

end SortOrder

section Permuted

variable {tasks other : List Task}
variable (distinct : (tasks.map Task.id).Nodup) (permuted : tasks.Perm other)
include distinct permuted

/-- The tasks that meet some conditions are sorted alike. -/
theorem sort_select_eq_of_perm (filters : Filters) (order : SortOrder) :
    order.sort (filters.select tasks) = order.sort (filters.select other) := by
  apply order.sort_eq_of_perm
  · exact distinct.sublist (List.filter_sublist.map Task.id)
  · exact permuted.filter filters.accepts

theorem search_eq_of_perm (request : Request) : search tasks request = search other request := by
  simp only [search, Request.arrange, sort_select_eq_of_perm distinct permuted]

theorem quickSearch_eq_of_perm (keyword : String) (limit : Nat) :
    quickSearch tasks keyword limit = quickSearch other keyword limit := by
  simp only [quickSearch, sort_select_eq_of_perm distinct permuted]

end Permuted

namespace Ledger

theorem putTask_perm {task : Task} {tasks : List Task} (fresh : task.id ∉ tasks.map Task.id) :
    (putTask task tasks).Perm (task :: tasks) := by
  induction tasks with
  | nil => exact .refl _
  | cons first rest ih =>
      rw [List.map_cons, List.mem_cons, not_or] at fresh
      rw [putTask]
      split
      · exact .refl _
      · rw [if_neg fresh.1]
        exact ((ih fresh.2).cons first).trans (.swap task first rest)

/-- The ledger holds the tasks of a snapshot with different identifiers. -/
theorem tasks_ofSnapshot_perm (rules : Rules) {snapshot : List Task}
    (distinct : (snapshot.map Task.id).Nodup) :
    (ofSnapshot rules snapshot).tasks.Perm snapshot := by
  suffices kept : ∀ ledger : Ledger, ((ledger.tasks ++ snapshot).map Task.id).Nodup →
      (snapshot.foldl addTask ledger).tasks.Perm (ledger.tasks ++ snapshot) by
    exact kept (empty rules) distinct
  clear distinct
  induction snapshot with
  | nil =>
      intro ledger _
      rw [List.foldl_nil, List.append_nil]
  | cons task rest ih =>
      intro ledger distinct
      have fresh : task.id ∉ ledger.tasks.map Task.id := by
        rw [List.map_append, List.map_cons, List.nodup_append] at distinct
        exact fun member => distinct.2.2 _ member _ List.mem_cons_self rfl
      have moved : (putTask task ledger.tasks ++ rest).Perm (ledger.tasks ++ task :: rest) :=
        ((putTask_perm fresh).append_right rest).trans List.perm_middle.symm
      have distinctAfter := (moved.map Task.id).nodup_iff.mpr distinct
      exact (ih (ledger.addTask task) distinctAfter).trans moved

theorem listTasks_ofSnapshot (rules : Rules) (snapshot : List Task) :
    (ofSnapshot rules snapshot).listTasks = .ok (ofSnapshot rules snapshot).tasks := by
  have online : (ofSnapshot rules snapshot).offline = false := by
    rw [ofSnapshot_eq]
    rfl
  rw [listTasks, checkOnline, online]
  rfl

end Ledger

namespace App

/-- The application answers with the search of the tasks that the ledger lists; the
check before that refuses nothing else. -/
theorem search_of_listTasks {ledger : Ledger} {tasks : List Task}
    (listed : ledger.listTasks = .ok tasks) (request : Request) :
    search ledger request = (TaskBoard.search tasks request).mapError .argument := by
  cases checked : request.validate with
  | error cause =>
      have refused : TaskBoard.search tasks request = .error cause := by
        rw [TaskBoard.search, checked]
      rw [search, checked, refused]
      rfl
  | ok =>
      rw [search, checked, snapshot, listed]
      rfl

theorem quickSearch_of_listTasks (app : App) {ledger : Ledger} {tasks : List Task}
    (listed : ledger.listTasks = .ok tasks) (keyword : String) :
    app.quickSearch ledger keyword =
      .ok (TaskBoard.quickSearch tasks keyword app.settings.search.quickSearchLimit) := by
  by_cases blank : Text.isAllBlank keyword = true
  · rw [quickSearch, if_pos blank, TaskBoard.quickSearch, if_pos blank]
  · rw [quickSearch, if_neg blank, snapshot, listed]
    rfl

end App

/-- Neither a search of a snapshot nor one through the application shows the order
in which the snapshot is listed. -/
theorem search_order_invariant {tasks other : List Task}
    (distinct : (tasks.map Task.id).Nodup) (permuted : tasks.Perm other) :
    (∀ request, search tasks request = search other request) ∧
    (∀ keyword limit, quickSearch tasks keyword limit = quickSearch other keyword limit) ∧
    (∀ rules request, App.search (.ofSnapshot rules tasks) request =
      (search other request).mapError .argument) ∧
    ∀ rules (app : App) keyword, app.quickSearch (.ofSnapshot rules tasks) keyword =
      .ok (quickSearch other keyword app.settings.search.quickSearchLimit) := by
  refine ⟨search_eq_of_perm distinct permuted, quickSearch_eq_of_perm distinct permuted, ?_, ?_⟩
  · intro rules request
    have held := Ledger.tasks_ofSnapshot_perm rules distinct
    have distinctHeld := (held.map Task.id).nodup_iff.mpr distinct
    rw [App.search_of_listTasks (Ledger.listTasks_ofSnapshot rules tasks),
      search_eq_of_perm distinctHeld (held.trans permuted)]
  · intro rules app keyword
    have held := Ledger.tasks_ofSnapshot_perm rules distinct
    have distinctHeld := (held.map Task.id).nodup_iff.mpr distinct
    rw [app.quickSearch_of_listTasks (Ledger.listTasks_ofSnapshot rules tasks),
      quickSearch_eq_of_perm distinctHeld (held.trans permuted)]

/-- Two tasks that were created together are found in one order. -/
theorem search_order_invariant_reversed :
    let numbered (number : Word32) (positive : 0 < number.val) : Task :=
      .fresh ⟨number, positive⟩ "Review" ⟨"alice"⟩ .epoch
    let tasks := [numbered 2 (by decide), numbered 1 (by decide)]
    (tasks.map Task.id).Nodup ∧ tasks.Perm tasks.reverse ∧
      search tasks default = search tasks.reverse default ∧
      App.search (.ofSnapshot .standard tasks) default =
        (search tasks.reverse default).mapError .argument := by
  intro numbered tasks
  have distinct : (tasks.map Task.id).Nodup := by decide
  have reversed : tasks.Perm tasks.reverse := (List.reverse_perm tasks).symm
  have invariant := search_order_invariant distinct reversed
  exact ⟨distinct, reversed, invariant.1 default, invariant.2.2.1 .standard default⟩

end TaskBoard
