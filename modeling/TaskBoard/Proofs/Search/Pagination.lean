import Mathlib.Logic.ExistsUnique
import TaskBoard.Search.Request

/-!
# The pages of a search

The pages of a search are consecutive windows of one size on the tasks that meet
the conditions in order.  `search_pages` says that they cut these tasks up: they
give them back one after the other, each matching task is on one page, all pages
but the last are full, and whatever page is asked for behind the last is empty.
-/

namespace TaskBoard

/-- There are as many pages as windows that begin within the list. -/
theorem lt_totalPages_iff {total size index : Nat} (sized : 0 < size) :
    index < totalPages total size ↔ index * size < total := by
  rw [totalPages, if_neg (Nat.ne_of_gt sized)]
  calc
    index < (total + (size - 1)) / size ↔ (index + 1) * size ≤ total + (size - 1) :=
      Nat.le_div_iff_mul_le sized
    _ ↔ index * size < total := by
      rw [Nat.succ_mul]
      omega

/-- The pages hold all items. -/
theorem le_totalPages_mul {total size : Nat} (sized : 0 < size) :
    total ≤ totalPages total size * size :=
  Nat.le_of_not_lt fun more => Nat.lt_irrefl _ ((lt_totalPages_iff sized).mpr more)

namespace Page

variable {α : Type}

/-- The items on a page of a list, if pages are counted from zero. -/
def window (items : List α) (size index : Nat) : List α := (items.drop (index * size)).take size

theorem length_window (items : List α) (size index : Nat) :
    (window items size index).length = min size (items.length - index * size) := by
  rw [window, List.length_take, List.length_drop]

/-- The first pages, one after the other, are the beginning of the list. -/
theorem flatMap_window (items : List α) (size count : Nat) :
    (List.range count).flatMap (window items size) = items.take (count * size) := by
  induction count with
  | zero => simp
  | succ count ih =>
      rw [List.range_succ, List.flatMap_append, ih, List.flatMap_singleton, window, Nat.succ_mul,
        List.take_add]

/-- An item that is on two pages occurs twice in the list. -/
theorem two_le_count_of_mem_window [BEq α] [LawfulBEq α] {items : List α} {item : α}
    {size earlier later : Nat} (before : earlier < later)
    (onEarlier : item ∈ window items size earlier) (onLater : item ∈ window items size later) :
    2 ≤ items.count item := by
  have bound : earlier * size + size ≤ later * size := by
    rw [← Nat.succ_mul]
    exact Nat.mul_le_mul_right size before
  have front : item ∈ items.take (later * size) := by
    rw [window, List.take_drop] at onEarlier
    exact List.take_subset_take_left items bound (List.mem_of_mem_drop onEarlier)
  have back : item ∈ items.drop (later * size) := List.mem_of_mem_take onLater
  rw [← List.take_append_drop (later * size) items, List.count_append]
  exact Nat.add_le_add (List.count_pos_iff.mpr front) (List.count_pos_iff.mpr back)

end Page

namespace Request

/-- The same request for another page. -/
def onPage (request : Request) (page : Word32) : Request := { request with page }

/-- The number of pages that the tasks meeting the conditions fill. -/
def pageCount (request : Request) (tasks : List Task) : Nat :=
  totalPages (request.filters.select tasks).length request.pageSize.val

/-- The numbers of these pages, from one on. -/
def pageNumbers (request : Request) (tasks : List Task) : List Word32 :=
  (List.range (request.pageCount tasks)).map fun index => .cap (index + 1)

/-- The page of a number, whether there are tasks on it or not. -/
def pageAt (request : Request) (tasks : List Task) (page : Word32) : Page where
  items := Page.window (request.arrange tasks) request.pageSize.val (page.val - 1)
  total := (request.filters.select tasks).length
  page
  pageSize := request.pageSize

theorem arrange_perm (request : Request) (tasks : List Task) :
    (request.arrange tasks).Perm (request.filters.select tasks) :=
  List.mergeSort_perm _ _

@[simp] theorem length_arrange (request : Request) (tasks : List Task) :
    (request.arrange tasks).length = (request.filters.select tasks).length :=
  (request.arrange_perm tasks).length_eq

/-- A task that meets the conditions is arranged as often as it occurs, and no
other task is. -/
theorem count_arrange (request : Request) (tasks : List Task) (task : Task) :
    (request.arrange tasks).count task =
      if request.filters.accepts task then tasks.count task else 0 := by
  rw [(request.arrange_perm tasks).count_eq, Filters.select]
  split
  · next accepted => exact List.count_filter accepted
  · next refused =>
      rw [List.count_eq_zero, List.mem_filter]
      exact fun both => refused both.2

theorem val_pageNumbers {request : Request} {tasks : List Task}
    (countable : request.pageCount tasks ≤ 4294967295) :
    (request.pageNumbers tasks).map Bounded.val = List.range' 1 (request.pageCount tasks) := by
  rw [pageNumbers, List.map_map, List.range'_eq_map_range]
  apply List.map_congr_left
  intro index member
  have := List.mem_range.mp member
  rw [Function.comp_apply, Bounded.cap_val]
  omega

section Sized

variable {request : Request} (sized : 0 < request.pageSize.val)
include sized

/-- A search for a page of positive number is answered with that page, and page
zero is refused. -/
theorem search_onPage_eq_ok_iff {tasks : List Task} {page : Word32} {answer : Page} :
    search tasks (request.onPage page) = .ok answer ↔
      0 < page.val ∧ answer = request.pageAt tasks page := by
  have total := request.length_arrange tasks
  rw [arrange] at total
  have bounds : Page.checkBounds page request.pageSize =
      if page.val = 0 then .error .zeroPage else .ok () := by
    rw [Page.checkBounds, if_neg (Nat.ne_of_gt sized)]
  by_cases zero : page.val = 0
  · simp [search, validate, onPage, bounds, zero]
  · have numbered := Nat.pos_of_ne_zero zero
    simp [search, validate, onPage, bounds, zero, numbered, Page.cut, arrange, pageAt,
      Page.window, total, eq_comm]

/-- The pages of a request give back the tasks that meet its conditions in order. -/
theorem flatMap_pageAt {tasks : List Task} (countable : request.pageCount tasks ≤ 4294967295) :
    ((request.pageNumbers tasks).map (request.pageAt tasks)).flatMap Page.items =
      request.arrange tasks := by
  have windows : ((request.pageNumbers tasks).map (request.pageAt tasks)).map Page.items =
      (List.range (request.pageCount tasks)).map
        (Page.window (request.arrange tasks) request.pageSize.val) := by
    rw [pageNumbers, List.map_map, List.map_map]
    apply List.map_congr_left
    intro index member
    have exact : (Bounded.cap (index + 1) : Word32).val - 1 = index := by
      have := List.mem_range.mp member
      rw [Bounded.cap_val]
      omega
    simp only [Function.comp_apply, pageAt, exact]
  rw [List.flatMap_def, windows, ← List.flatMap_def, Page.flatMap_window]
  apply List.take_of_length_le
  rw [length_arrange]
  exact le_totalPages_mul sized

/-- A page before the last is full, the last one holds at least one task, and
there is nothing on a page behind it. -/
theorem length_items_pageAt (tasks : List Task) {page : Word32} (numbered : 0 < page.val) :
    let length := (request.pageAt tasks page).items.length
    (page.val < request.pageCount tasks → length = request.pageSize.val) ∧
      (page.val = request.pageCount tasks → 1 ≤ length ∧ length ≤ request.pageSize.val) ∧
      (request.pageCount tasks < page.val → length = 0) := by
  have begins : page.val - 1 < request.pageCount tasks ↔
      (page.val - 1) * request.pageSize.val < (request.filters.select tasks).length :=
    lt_totalPages_iff sized
  have continues : page.val < request.pageCount tasks ↔
      page.val * request.pageSize.val < (request.filters.select tasks).length :=
    lt_totalPages_iff sized
  have width : page.val * request.pageSize.val =
      (page.val - 1) * request.pageSize.val + request.pageSize.val := by
    rw [← Nat.succ_mul, Nat.succ_eq_add_one, Nat.sub_add_cancel numbered]
  simp only [pageAt, Page.length_window, length_arrange]
  omega

/-- A task that meets the conditions and occurs once is on exactly one page. -/
theorem existsUnique_page {tasks : List Task}
    (countable : request.pageCount tasks ≤ 4294967295) {task : Task}
    (accepted : request.filters.accepts task = true) (once : tasks.count task = 1) :
    ∃! page, ∃ answer, search tasks (request.onPage page) = .ok answer ∧ task ∈ answer.items := by
  have occurs : (request.arrange tasks).count task = 1 := by
    rw [count_arrange, if_pos accepted, once]
  have member : task ∈ request.arrange tasks := List.count_pos_iff.mp (by omega)
  rw [← flatMap_pageAt sized countable, List.mem_flatMap] at member
  obtain ⟨answer, isPage, onPage⟩ := member
  obtain ⟨page, isNumber, rfl⟩ := List.mem_map.mp isPage
  have numbered : 0 < page.val := by
    have inRange := List.mem_map_of_mem (f := Bounded.val) isNumber
    rw [val_pageNumbers countable, List.mem_range'_1] at inRange
    exact inRange.1
  refine ⟨page, ⟨_, (search_onPage_eq_ok_iff sized).mpr ⟨numbered, rfl⟩, onPage⟩, ?_⟩
  rintro other ⟨answer, answered, onOther⟩
  obtain ⟨otherNumbered, rfl⟩ := (search_onPage_eq_ok_iff sized).mp answered
  -- On two different pages the task would occur twice.
  rcases Nat.lt_trichotomy (other.val - 1) (page.val - 1) with before | same | behind
  · have twice := Page.two_le_count_of_mem_window before onOther onPage
    omega
  · apply Bounded.ext
    omega
  · have twice := Page.two_le_count_of_mem_window behind onPage onOther
    omega

/-- The pages of a search cut up the tasks that meet the conditions: one after the
other they give these tasks back in order, so that each is on one page; every
page says how many there are; and all pages have the page size but the last,
which is not empty, and those behind it, which are. -/
theorem search_pages (tasks : List Task) (countable : request.pageCount tasks ≤ 4294967295) :
    (request.pageNumbers tasks).map Bounded.val = List.range' 1 (request.pageCount tasks) ∧
    (∃ pages : List Page,
      (request.pageNumbers tasks).map (fun page => search tasks (request.onPage page)) =
        pages.map .ok ∧
      pages.flatMap Page.items = request.order.sort (request.filters.select tasks) ∧
      ∀ task, (pages.flatMap Page.items).count task =
        if request.filters.accepts task then tasks.count task else 0) ∧
    (∀ task, request.filters.accepts task = true → tasks.count task = 1 →
      ∃! page, ∃ answer,
        search tasks (request.onPage page) = .ok answer ∧ task ∈ answer.items) ∧
    ∀ page : Word32, 0 < page.val → ∃ answer,
      search tasks (request.onPage page) = .ok answer ∧
      answer.page = page ∧ answer.pageSize = request.pageSize ∧
      answer.total = (request.filters.select tasks).length ∧
      (page.val < request.pageCount tasks → answer.items.length = request.pageSize.val) ∧
      (page.val = request.pageCount tasks →
        1 ≤ answer.items.length ∧ answer.items.length ≤ request.pageSize.val) ∧
      (request.pageCount tasks < page.val → answer.items = []) := by
  have numbers := val_pageNumbers countable
  have whole := flatMap_pageAt sized countable
  refine ⟨numbers, ⟨(request.pageNumbers tasks).map (request.pageAt tasks), ?_, whole, ?_⟩,
    fun task => existsUnique_page sized countable, ?_⟩
  · rw [List.map_map]
    apply List.map_congr_left
    intro page isNumber
    have inRange := List.mem_map_of_mem (f := Bounded.val) isNumber
    rw [numbers, List.mem_range'_1] at inRange
    exact (search_onPage_eq_ok_iff sized).mpr ⟨inRange.1, rfl⟩
  · intro task
    rw [whole, count_arrange]
  · intro page numbered
    obtain ⟨full, last, behind⟩ := length_items_pageAt sized tasks numbered
    exact ⟨request.pageAt tasks page, (search_onPage_eq_ok_iff sized).mpr ⟨numbered, rfl⟩,
      rfl, rfl, rfl, full, last, fun past => List.eq_nil_of_length_eq_zero (behind past)⟩

end Sized

/-- Of three tasks on pages of two, the last page that can be asked for is empty
and still counts all three. -/
theorem search_pages_three_tasks :
    let numbered (number : Word32) (positive : 0 < number.val) : Task :=
      .fresh ⟨number, positive⟩ "Review" ⟨"alice"⟩ .epoch
    let tasks := [numbered 3 (by decide), numbered 1 (by decide), numbered 2 (by decide)]
    let request : Request := { ofFilters .empty with pageSize := 2 }
    0 < request.pageSize.val ∧ request.pageCount tasks = 2 ∧
      ∃ answer, search tasks (request.onPage 4294967295) = .ok answer ∧
        answer.total = 3 ∧ answer.items = [] := by
  intro numbered tasks request
  have sized : 0 < request.pageSize.val := by decide
  have count : request.pageCount tasks = 2 := by decide
  have cut := search_pages sized tasks (by rw [count]; decide)
  obtain ⟨answer, answered, _, _, total, _, _, behind⟩ := cut.2.2.2 4294967295 (by decide)
  exact ⟨sized, count, answer, answered, total, behind (by rw [count]; decide)⟩

end Request

end TaskBoard
