import TaskBoard.Proofs.Task.Format
import TaskBoard.Proofs.Time.MomentText
import TaskBoard.Search.Format

/-!
# Searches are read back

Filters, requests and pages are read back from their JSON.  The members of a request
are met twice, first for its own fields and then for its filters, whose names differ
from those of its own.
-/

namespace TaskBoard

open Json (Legible)

/-! ## Legible values -/

theorem Range.legible {α : Type} {write : α → Json} {depth : Nat}
    (bounds : ∀ value, Legible depth (write value)) (range : Range α) :
    Legible (depth + 1) (range.encode write) := by
  apply Legible.object
  simp only [List.forall_mem_cons]
  exact ⟨bounds _, bounds _, nofun⟩

theorem Filters.legible_members (filters : Filters) :
    ∀ member ∈ filters.members, Legible 1 member.2 := by
  simp only [members, List.forall_mem_cons]
  exact ⟨.ofOption .string _, .ofOption (fun _ => .string _) _, .ofOption (fun _ => .string _) _,
    .ofOption (Range.legible Word8.legible) _, .ofOption (Range.legible Word64.legible) _,
    .ofOption .string _, .ofOption .string _, .ofOption (Range.legible fun _ => .string _) _,
    .ofOption (Range.legible fun _ => .string _) _, .bool _, .bool _, nofun⟩

theorem Filters.legible (filters : Filters) : Legible 2 filters.encode :=
  .object filters.legible_members

theorem Request.legible (request : Request) : Legible 2 request.encode := by
  apply Legible.object
  simp only [List.forall_mem_append, List.forall_mem_cons]
  exact ⟨request.filters.legible_members, .string _, .bool _, Word32.legible _, Word32.legible _,
    nofun⟩

theorem Page.legible {page : Page} (fits : page.total ≤ 18446744073709551615) :
    Legible 3 page.encode := by
  have items : ∀ json ∈ page.items.map Task.encode, Legible 1 json := by
    intro json isItem
    obtain ⟨task, _, rfl⟩ := List.mem_map.mp isItem
    exact task.legible
  apply Legible.object
  simp only [members, List.forall_mem_cons]
  exact ⟨.array items, .nat fits, Word32.legible _, Word32.legible _, nofun⟩

/-! ## Values that are read back -/

theorem Moment.reads (moment : Moment) : Decoder.moment.Reads moment.encode moment :=
  .of_flat rfl fun _ => by rw [Moment.encode, Decoder.moment, Rfc3339.read_write]

theorem SortKey.reads (key : SortKey) : SortKey.decode.Reads key.encode key :=
  Decoder.choice_reads (by cases key <;> decide)

namespace Range

variable {α : Type} {decode : Decoder α} {write : α → Json}

/-- A range is read back if its bounds are. -/
theorem reads (bounds : ∀ value, decode.Reads (write value) value) (range : Range α) :
    (Range.decode decode).Reads (range.encode write) range := by
  have distinct : ["min", "max"].Nodup := by decide
  apply Decoder.Reads.of_holds
  · exact distinct
  · intro access others holds
    have min : (minField decode).Gives access others range.min := holds.gives (bounds _) rfl 0 rfl
    have max : (maxField decode).Gives access others range.max := holds.gives (bounds _) rfl 1 rfl
    exact Record.decode_two_eq_ok distinct min max Range.mk

/-- A range that may be absent is read back if its bounds are. -/
theorem option_reads (bounds : ∀ value, decode.Reads (write value) value)
    (range : Option (Range α)) :
    (Range.decode decode).option.Reads (.ofOption (encode write) range) range :=
  Decoder.option_reads (reads bounds) (fun _ => nofun) range

end Range

namespace Filters

variable {access : Access} {others : List (String × Json)}

/-- The members of an object give filters field by field. -/
structure Given (access : Access) (others : List (String × Json)) (filters : Filters) : Prop where
  keyword : keywordField.Gives access others filters.keyword
  status : statusField.Gives access others filters.status
  priority : priorityField.Gives access others filters.priority
  difficultyRange : difficultyRangeField.Gives access others filters.difficultyRange
  rewardRange : rewardRangeField.Gives access others filters.rewardRange
  creator : creatorField.Gives access others filters.creator
  assignee : assigneeField.Gives access others filters.assignee
  deadlineRange : deadlineRangeField.Gives access others filters.deadlineRange
  createdRange : createdRangeField.Gives access others filters.createdRange
  unassignedOnly : unassignedOnlyField.Gives access others filters.unassignedOnly
  hasDeadline : hasDeadlineField.Gives access others filters.hasDeadline

theorem Given.fits {filters : Filters} (given : Given access others filters) :
    ∀ slot ∈ slots, slot.Fits access others := by
  simp only [slots, List.forall_mem_cons]
  exact ⟨given.keyword.fits, given.status.fits, given.priority.fits, given.difficultyRange.fits,
    given.rewardRange.fits, given.creator.fits, given.assignee.fits, given.deadlineRange.fits,
    given.createdRange.fits, given.unassignedOnly.fits, given.hasDeadline.fits, nofun⟩

theorem Given.ofRecord_eq_ok {filters : Filters} (given : Given access others filters) :
    ofRecord (.named access others) = .ok filters := by
  rw [ofRecord, given.keyword.read_eq_ok, given.status.read_eq_ok, given.priority.read_eq_ok,
    given.difficultyRange.read_eq_ok, given.rewardRange.read_eq_ok, given.creator.read_eq_ok,
    given.assignee.read_eq_ok, given.deadlineRange.read_eq_ok, given.createdRange.read_eq_ok,
    given.unassignedOnly.read_eq_ok, given.hasDeadline.read_eq_ok]
  rfl

theorem text_reads (text : Option String) :
    Decoder.string.option.Reads (.ofOption .string text) text :=
  Decoder.option_reads Decoder.string_reads (fun _ => nofun) text

/-- Members that hold those of filters give the filters. -/
theorem given_of_holds {filters : Filters} (holds : Holds filters.members others) :
    Given access others filters where
  keyword := holds.gives (text_reads _) rfl 0 rfl
  status := holds.gives (Decoder.option_reads Status.reads (fun _ => nofun) _) rfl 1 rfl
  priority := holds.gives (Decoder.option_reads Priority.reads (fun _ => nofun) _) rfl 2 rfl
  difficultyRange :=
    holds.gives (Range.option_reads (Decoder.natural_reads _) _) rfl 3 rfl
  rewardRange := holds.gives (Range.option_reads (Decoder.natural_reads _) _) rfl 4 rfl
  creator := holds.gives (text_reads _) rfl 5 rfl
  assignee := holds.gives (text_reads _) rfl 6 rfl
  deadlineRange := holds.gives (Range.option_reads Moment.reads _) rfl 7 rfl
  createdRange := holds.gives (Range.option_reads Moment.reads _) rfl 8 rfl
  unassignedOnly := holds.gives (Decoder.bool_reads _) rfl 9 rfl
  hasDeadline := holds.gives (Decoder.bool_reads _) rfl 10 rfl

/-- Filters are read back. -/
theorem reads (filters : Filters) : Filters.decode.Reads filters.encode filters := by
  apply Decoder.Reads.of_holds
  · simp only [members, List.map_cons, List.map_nil]
    decide
  · intro access others holds
    have given : Given access others filters := given_of_holds holds
    exact Record.decode_object_eq_ok (by decide) given.fits given.ofRecord_eq_ok

end Filters

namespace Request

/-- The members of a request in JSON besides those of its filters. -/
def ownMembers (request : Request) : List (String × Json) := [
  ("sort_by", request.order.key.encode),
  ("sort_desc", .bool request.order.descending),
  ("page", request.page.encode),
  ("page_size", request.pageSize.encode)]

/-- A request is read back. -/
theorem reads (request : Request) : Request.decode.Reads request.encode request := by
  apply Decoder.Reads.of_holds
  · simp only [Filters.members, List.map_append, List.map_cons, List.map_nil]
    decide
  · intro access others holds
    -- Both parts of the members hold on their own: the fields of each part find theirs
    -- among all members, since no name occurs twice.
    have own : Holds request.ownMembers others :=
      holds.of_subset (List.subset_append_right _ _)
    have key : sortByField.Gives access others request.order.key :=
      own.gives request.order.key.reads rfl 0 rfl
    have descending : sortDescField.Gives access others request.order.descending :=
      own.gives (Decoder.bool_reads _) rfl 1 rfl
    have page : pageField.Gives access others request.page :=
      own.gives (Decoder.natural_reads _ _) rfl 2 rfl
    have pageSize : pageSizeField.Gives access others request.pageSize :=
      own.gives (Decoder.natural_reads _ _) rfl 3 rfl
    have fits : ∀ slot ∈ slots, slot.Fits access others := by
      simp only [slots, List.forall_mem_cons]
      exact ⟨key.fits, descending.fits, page.fits, pageSize.fits, nofun⟩
    have filters : request.filters.Given .setAside others :=
      Filters.given_of_holds (holds.of_subset (List.subset_append_left _ _))
    have met : Slot.meet slots access [] others = .ok () :=
      Slot.meet_eq_ok (by decide) fits fun _ _ => nofun
    have metAside : Slot.meet Filters.slots .setAside [] others = .ok () :=
      Slot.meet_eq_ok (by decide) filters.fits fun _ _ => nofun
    rw [decode, met]
    dsimp only
    rw [metAside]
    dsimp only
    rw [ofRecords, key.read_eq_ok, descending.read_eq_ok, page.read_eq_ok, pageSize.read_eq_ok,
      filters.ofRecord_eq_ok]
    rfl

end Request

/-- A page is read back if the number of all tasks is a size. -/
theorem Page.reads {page : Page} (fits : page.total ≤ 18446744073709551615) :
    Page.decode.Reads page.encode page := by
  apply Decoder.Reads.of_holds
  · simp only [members, List.map_cons, List.map_nil]
    decide
  · intro access others holds
    have items : itemsField.Gives access others page.items :=
      holds.gives (Decoder.list_reads fun task _ => task.reads) rfl 0 rfl
    have total : totalField.Gives access others page.total :=
      holds.gives (Decoder.size_reads fits) rfl 1 rfl
    have number : pageField.Gives access others page.page :=
      holds.gives (Decoder.natural_reads _ _) rfl 2 rfl
    have pageSize : pageSizeField.Gives access others page.pageSize :=
      holds.gives (Decoder.natural_reads _ _) rfl 3 rfl
    have fits : ∀ slot ∈ slots, slot.Fits access others := by
      simp only [slots, List.forall_mem_cons]
      exact ⟨items.fits, total.fits, number.fits, pageSize.fits, nofun⟩
    apply Record.decode_object_eq_ok (by decide) fits
    rw [ofRecord, items.read_eq_ok, total.read_eq_ok, number.read_eq_ok, pageSize.read_eq_ok]
    rfl

end TaskBoard
