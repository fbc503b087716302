import TaskBoard.Proofs.Ledger.Format
import TaskBoard.Proofs.Search.Format

/-!
# Values are read back from their JSON

What is written for a value denotes the value: as a tree, with the members of its
objects as they are written or in the order of their names, and as text, compact or
over several lines.
-/

namespace TaskBoard

/-- A value is read back from the JSON that is written for it, as a tree and as text. -/
structure Restores {α : Type} (decode : Decoder α) (json : Json) (value : α) : Prop where
  asWritten : decode .direct json = .ok value
  sorted : decode .direct json.sorted = .ok value
  compact : (Json.read? json.compact).map (decode .direct) = some (.ok value)
  pretty : (Json.read? json.pretty).map (decode .direct) = some (.ok value)

theorem Decoder.Reads.restores {α : Type} {decode : Decoder α} {json : Json} {value : α}
    {depth : Nat} (reads : decode.Reads json value) (legible : json.Legible depth)
    (deep : depth ≤ Json.nestingLimit) : Restores decode json value := by
  have decoded := reads .direct json (.inl rfl)
  obtain ⟨compact, pretty⟩ := legible.read? deep
  exact
    { asWritten := decoded
      sorted := reads .direct json.sorted (.inr rfl)
      compact := by rw [compact, Option.map_some, decoded]
      pretty := by rw [pretty, Option.map_some, decoded] }

/-- Tasks, drafts, notifications, reputations, filters, requests, pages and events are
read back from their JSON, whatever is given or left open in them; a page only if the
number of all tasks has the sixty-four bits of a size. -/
theorem values_restored :
    (∀ task : Task, Restores Task.decode task.encode task) ∧
    (∀ draft : Draft, Restores Draft.decode draft.encode draft) ∧
    (∀ notification : Notification,
      Restores Notification.decode notification.encode notification) ∧
    (∀ reputation : Reputation, Restores Reputation.decode reputation.encode reputation) ∧
    (∀ filters : Filters, Restores Filters.decode filters.encode filters) ∧
    (∀ request : Request, Restores Request.decode request.encode request) ∧
    (∀ page : Page, page.total ≤ 18446744073709551615 → Restores Page.decode page.encode page) ∧
    ∀ event : Event, Restores Event.decode event.encode event :=
  ⟨fun task => task.reads.restores task.legible (by decide),
    fun draft => draft.reads.restores draft.legible (by decide),
    fun notification => notification.reads.restores notification.legible (by decide),
    fun reputation => reputation.reads.restores reputation.legible (by decide),
    fun filters => filters.reads.restores filters.legible (by decide),
    fun request => request.reads.restores request.legible (by decide),
    fun _ fits => (Page.reads fits).restores (Page.legible fits) (by decide),
    fun event => event.reads.restores event.legible (by decide)⟩

/-- A page that stands among as many tasks as a size can count is read back, with a task
of the greatest reward on it. -/
theorem values_restored_greatest :
    let task : Task :=
      { Task.fresh ⟨1, Nat.one_pos⟩ "Review" ⟨"alice"⟩ .epoch with
        reward := .cap 18446744073709551615 }
    let page : Page := ⟨[task], 18446744073709551615, 1, 10⟩
    page.total ≤ 18446744073709551615 ∧ task.reward.val = 18446744073709551615 ∧
      Restores Page.decode page.encode page := by
  intro task page
  obtain ⟨_, _, _, _, _, _, pages, _⟩ := values_restored
  exact ⟨Nat.le_refl _, rfl, pages page (Nat.le_refl _)⟩

end TaskBoard
