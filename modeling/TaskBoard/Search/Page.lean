import TaskBoard.Task.Basic

/-!
# Pages

A list of tasks is cut into pages of equal size, numbered from one.  A page
beyond the last one is empty; a page number or a page size of zero is refused.
-/

namespace TaskBoard

/-- The tasks of one page, with the number of tasks on all pages. -/
structure Page where
  items : List Task
  total : Nat
  page : Word32
  pageSize : Word32
  deriving DecidableEq

/-- The number of pages for a number of tasks; none for pages of size zero. -/
def totalPages (total pageSize : Nat) : Nat :=
  if pageSize = 0 then 0 else (total + (pageSize - 1)) / pageSize

namespace Page

/-- The number of pages altogether. -/
def totalPages (page : Page) : Nat := TaskBoard.totalPages page.total page.pageSize.val

/-- Whether the page has no tasks. -/
def isEmpty (page : Page) : Bool := page.items.isEmpty

/-- Whether the tasks do not all fit on one page. -/
def hasOthers (page : Page) : Bool := decide (page.pageSize.val < page.total)

/-- Refuse a page size or a page number of zero. -/
def checkBounds (page pageSize : Word32) : Except ArgumentError Unit :=
  if pageSize.val = 0 then .error .zeroPageSize
  else if page.val = 0 then .error .zeroPage
  else .ok ()

/-- The number of tasks on the pages before a page, counted in sixty-four bits. -/
def offset (page pageSize : Word32) : Word64 :=
  (Bounded.cap (page.val - 1)).mul (.cap pageSize.val)

/-- One page of a list of tasks. -/
def cut (tasks : List Task) (page pageSize : Word32) : Except ArgumentError Page :=
  match checkBounds page pageSize with
  | .error cause => .error cause
  | .ok () =>
      .ok {
        items := (tasks.drop (offset page pageSize).val).take pageSize.val
        total := tasks.length
        page
        pageSize }

/-- No page is so far behind that its offset is cut off. -/
@[simp] theorem offset_val (page pageSize : Word32) :
    (offset page pageSize).val = (page.val - 1) * pageSize.val := by
  have earlier : page.val - 1 ≤ 4294967294 := Nat.sub_le_sub_right page.le_limit 1
  have size := pageSize.le_limit
  have product : (page.val - 1) * pageSize.val ≤ 4294967294 * 4294967295 :=
    Nat.mul_le_mul earlier size
  rw [offset, Bounded.mul_val, Bounded.cap_val, Bounded.cap_val,
    Nat.min_eq_left (by omega : page.val - 1 ≤ 18446744073709551615),
    Nat.min_eq_left (by omega : pageSize.val ≤ 18446744073709551615)]
  exact Nat.min_eq_left (Nat.le_trans product (by decide))

end Page

end TaskBoard
