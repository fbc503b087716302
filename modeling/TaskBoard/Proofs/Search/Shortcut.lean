import Mathlib.Data.List.TakeWhile
import TaskBoard.App
import TaskBoard.Proofs.Search.Pagination

/-!
# Quick search as a search

A quick search takes a way of its own to the newest tasks that mention a keyword.
It ends where a search for the first page does (`search_forKeyword`), unless the
keyword is blank: then there is nothing to search for, and the ledger is not asked.
-/

namespace TaskBoard

namespace Text

/-- All characters are white space if those after the first white space are. -/
theorem forall_mem_dropBlank_iff {characters : List Char} :
    (∀ character ∈ dropBlank characters, isBlank character = true) ↔
      ∀ character ∈ characters, isBlank character = true := by
  induction characters with
  | nil => rfl
  | cons first rest ih =>
      rw [dropBlank, List.dropWhile_cons]
      split
      case isTrue blank =>
        rw [List.forall_mem_cons]
        exact ih.trans (and_iff_right blank).symm
      case isFalse => rfl

/-- A text is blank if each of its characters is white space. -/
theorem isAllBlank_iff {text : String} :
    isAllBlank text = true ↔ ∀ character ∈ text.toList, isBlank character = true := by
  rw [isAllBlank, List.isEmpty_iff, trimChars, List.reverse_eq_nil_iff, dropBlank,
    List.dropWhile_eq_nil_iff]
  simp only [List.mem_reverse]
  exact forall_mem_dropBlank_iff

end Text

/-- The request for the first tasks that mention a keyword, newest first. -/
def Request.forKeyword (keyword : String) (limit : Word32) : Request :=
  { ofFilters { Filters.empty with keyword := some (Text.trim keyword) } with
    page := 1, pageSize := limit }

section Visible

variable {keyword : String} (visible : ¬ Text.isAllBlank keyword = true)
include visible

/-- The first page of a search holds the tasks that a quick search finds. -/
theorem search_forKeyword (tasks : List Task) {limit : Word32} (positive : 0 < limit.val) :
    (search tasks (.forKeyword keyword limit)).map Page.items =
      .ok (quickSearch tasks keyword limit.val) := by
  let request := Request.forKeyword keyword limit
  have first : search tasks (request.onPage 1) = .ok (request.pageAt tasks 1) :=
    (Request.search_onPage_eq_ok_iff positive).mpr ⟨Nat.one_pos, rfl⟩
  have items : (request.pageAt tasks 1).items = (request.arrange tasks).take limit.val := by
    change Page.window _ limit.val 0 = _
    rw [Page.window, Nat.zero_mul, List.drop_zero]
  calc (search tasks request).map Page.items
    _ = .ok (request.pageAt tasks 1).items := congrArg (Except.map Page.items) first
    _ = .ok ((request.arrange tasks).take limit.val) := by rw [items]
    _ = .ok (quickSearch tasks keyword limit.val) := by
      rw [quickSearch, if_neg visible]
      rfl

/-- A greater limit adds tasks at the end. -/
theorem quickSearch_isPrefix (tasks : List Task) {fewer more : Nat} (le : fewer ≤ more) :
    quickSearch tasks keyword fewer <+: quickSearch tasks keyword more := by
  rw [quickSearch, quickSearch, if_neg visible, if_neg visible]
  exact List.take_prefix_take_left le

end Visible

/-- A quick search with a positive limit finds what the first page of a search for the
trimmed keyword holds, and a smaller limit cuts the tasks found.  Nothing is found for a
keyword of white space, whatever state the ledger is in. -/
theorem quickSearch_shortcut (tasks : List Task) (keyword : String) (limit : Word32)
    (positive : 1 ≤ limit.val) :
    ((∃ character ∈ keyword.toList, Text.isBlank character = false) →
      (search tasks (.forKeyword keyword limit)).map Page.items =
        .ok (quickSearch tasks keyword limit.val) ∧
      ∀ fewer ≤ limit.val,
        quickSearch tasks keyword fewer <+: quickSearch tasks keyword limit.val) ∧
    ((∀ character ∈ keyword.toList, Text.isBlank character = true) →
      quickSearch tasks keyword limit.val = [] ∧
      ∀ (app : App) (ledger : Ledger), app.quickSearch ledger keyword = .ok []) := by
  constructor
  · rintro ⟨character, member, visible⟩
    have notBlank : ¬ Text.isAllBlank keyword = true := by
      rw [Text.isAllBlank_iff]
      intro blank
      have white := blank character member
      rw [visible] at white
      contradiction
    refine ⟨search_forKeyword notBlank tasks positive, fun fewer le => ?_⟩
    exact quickSearch_isPrefix notBlank tasks le
  · intro blank
    have allBlank := Text.isAllBlank_iff.mpr blank
    constructor
    · rw [quickSearch, if_pos allBlank]
    · intro app ledger
      rw [App.quickSearch, if_pos allBlank]

/-- A keyword with white space around it, and one of an ideographic space and a tabulator. -/
theorem quickSearch_shortcut_review :
    let tasks : List Task := [.fresh ⟨1, by decide⟩ "Review" ⟨"alice"⟩ .epoch,
      .fresh ⟨2, by decide⟩ "Preview" ⟨"bob"⟩ .epoch]
    let disconnected : Ledger := { Ledger.ofSnapshot .standard tasks with offline := true }
    ((search tasks (.forKeyword " review " 2)).map Page.items =
        .ok (quickSearch tasks " review " 2) ∧
      quickSearch tasks " review " 1 <+: quickSearch tasks " review " 2) ∧
    quickSearch tasks "\u3000\t" 2 = [] ∧
      ∀ app : App, app.quickSearch disconnected "\u3000\t" = .ok [] := by
  intro tasks disconnected
  have positive : 1 ≤ (2 : Word32).val := by decide
  have found := (quickSearch_shortcut tasks " review " 2 positive).1 ⟨'r', by simp, by decide⟩
  have blank := (quickSearch_shortcut tasks "\u3000\t" 2 positive).2 (Text.isAllBlank_iff.mp rfl)
  exact ⟨⟨found.1, found.2 1 (by decide)⟩, blank.1, fun app => blank.2 app disconnected⟩

end TaskBoard
