import TaskBoard.Proofs.Decode.Reads
import TaskBoard.Proofs.Json.Writing
import TaskBoard.Task.Format

/-!
# Tasks are read back

The values of which tasks are made, tasks and drafts are read back from their JSON,
which is legible as text.
-/

namespace TaskBoard

open Json (Legible)

variable {depth : Nat}

/-! ## Legible values -/

theorem Json.Legible.nat {number : Nat} (fits : number ≤ 18446744073709551615) :
    Legible depth (.nat number) :=
  .int (by omega) (by omega)

theorem Json.Legible.ofOption {α : Type} {write : α → Json}
    (legible : ∀ value, Legible depth (write value)) (value : Option α) :
    Legible depth (.ofOption write value) := by
  cases value with
  | none => exact .null
  | some value => exact legible value

theorem Word8.legible (number : Word8) : Legible depth number.encode :=
  .nat (Nat.le_trans number.le_limit (by decide))

theorem Word32.legible (number : Word32) : Legible depth number.encode :=
  .nat (Nat.le_trans number.le_limit (by decide))

theorem Word64.legible (number : Word64) : Legible depth number.encode := .nat number.le_limit

theorem Id.legible {kind : IdKind} (id : Id kind) : Legible depth id.encode :=
  Word32.legible id.number

theorem Account.legible (account : Account) : Legible depth account.encode := .string account.name

theorem Difficulty.legible (difficulty : Difficulty) : Legible depth difficulty.encode :=
  Word8.legible difficulty.word

theorem Instant.legible (instant : Instant) : Legible depth instant.encode := by
  have := instant.after_first
  have := instant.before_last
  exact .int (by omega) (by omega)

theorem Task.legible (task : Task) : Legible 1 task.encode := by
  apply Legible.object
  simp only [List.forall_mem_cons]
  exact ⟨task.id.legible, .string _, .string _, task.creator.legible,
    .ofOption Account.legible _, .string _, .string _, task.difficulty.legible,
    Word64.legible _, .ofOption Instant.legible _, task.createdAt.legible, task.updatedAt.legible,
    nofun⟩

theorem Draft.legible (draft : Draft) : Legible 1 draft.encode := by
  apply Legible.object
  simp only [List.forall_mem_cons]
  exact ⟨.string _, .string _, .string _, draft.difficulty.legible, Word64.legible _,
    .ofOption Instant.legible _, nofun⟩

/-! ## Values that are read back -/

theorem Id.reads {kind : IdKind} (id : Id kind) : Id.decode.Reads id.encode id :=
  (Decoder.natural_reads "u32" id.number).check (ofNumber_number id)

theorem Account.reads (account : Account) : Account.decode.Reads account.encode account :=
  (Decoder.string_reads account.name).map

theorem Status.reads (status : Status) : Status.decode.Reads status.encode status :=
  Decoder.choice_reads (by cases status <;> decide)

theorem Priority.reads (priority : Priority) : Priority.decode.Reads priority.encode priority :=
  Decoder.choice_reads (by cases priority <;> decide)

theorem Difficulty.reads (difficulty : Difficulty) :
    Difficulty.decode.Reads difficulty.encode difficulty :=
  (Decoder.natural_reads "u8" difficulty.word).check (ofLevel_word difficulty)

/-- An account that may be absent is read back. -/
theorem Account.option_reads (account : Option Account) :
    Account.decode.option.Reads (.ofOption Account.encode account) account :=
  Decoder.option_reads Account.reads (fun _ => nofun) account

/-- An instant that may be absent is read back. -/
theorem Instant.option_reads (instant : Option Instant) :
    Decoder.instant.option.Reads (.ofOption Instant.encode instant) instant :=
  Decoder.option_reads Decoder.instant_reads (fun _ => nofun) instant

/-- A task is read back. -/
theorem Task.reads (task : Task) : Task.decode.Reads task.encode task := by
  apply Decoder.Reads.of_holds
  · simp only [List.map_cons, List.map_nil]
    decide
  · intro access others holds
    have id : idField.Gives access others task.id := holds.gives task.id.reads rfl 0 rfl
    have title : titleField.Gives access others task.title :=
      holds.gives (Decoder.string_reads _) rfl 1 rfl
    have description : descriptionField.Gives access others task.description :=
      holds.gives (Decoder.string_reads _) rfl 2 rfl
    have creator : creatorField.Gives access others task.creator :=
      holds.gives task.creator.reads rfl 3 rfl
    have assignee : assigneeField.Gives access others task.assignee :=
      holds.gives (Account.option_reads _) rfl 4 rfl
    have status : statusField.Gives access others task.status :=
      holds.gives task.status.reads rfl 5 rfl
    have priority : priorityField.Gives access others task.priority :=
      holds.gives task.priority.reads rfl 6 rfl
    have difficulty : difficultyField.Gives access others task.difficulty :=
      holds.gives task.difficulty.reads rfl 7 rfl
    have reward : rewardField.Gives access others task.reward :=
      holds.gives (Decoder.natural_reads _ _) rfl 8 rfl
    have deadline : deadlineField.Gives access others task.deadline :=
      holds.gives (Instant.option_reads _) rfl 9 rfl
    have createdAt : createdAtField.Gives access others task.createdAt :=
      holds.gives (Decoder.instant_reads _) rfl 10 rfl
    have updatedAt : updatedAtField.Gives access others task.updatedAt :=
      holds.gives (Decoder.instant_reads _) rfl 11 rfl
    have fits : ∀ slot ∈ slots, slot.Fits access others := by
      simp only [slots, List.forall_mem_cons]
      exact ⟨id.fits, title.fits, description.fits, creator.fits, assignee.fits, status.fits,
        priority.fits, difficulty.fits, reward.fits, deadline.fits, createdAt.fits,
        updatedAt.fits, nofun⟩
    apply Record.decode_object_eq_ok (by decide) fits
    rw [ofRecord, id.read_eq_ok, title.read_eq_ok, description.read_eq_ok, creator.read_eq_ok,
      assignee.read_eq_ok, status.read_eq_ok, priority.read_eq_ok, difficulty.read_eq_ok,
      reward.read_eq_ok, deadline.read_eq_ok, createdAt.read_eq_ok, updatedAt.read_eq_ok]
    rfl

/-- A draft is read back. -/
theorem Draft.reads (draft : Draft) : Draft.decode.Reads draft.encode draft := by
  apply Decoder.Reads.of_holds
  · simp only [List.map_cons, List.map_nil]
    decide
  · intro access others holds
    have title : titleField.Gives access others draft.title :=
      holds.gives (Decoder.string_reads _) rfl 0 rfl
    have description : descriptionField.Gives access others draft.description :=
      holds.gives (Decoder.string_reads _) rfl 1 rfl
    have priority : priorityField.Gives access others draft.priority :=
      holds.gives draft.priority.reads rfl 2 rfl
    have difficulty : difficultyField.Gives access others draft.difficulty :=
      holds.gives draft.difficulty.reads rfl 3 rfl
    have reward : rewardField.Gives access others draft.reward :=
      holds.gives (Decoder.natural_reads _ _) rfl 4 rfl
    have deadline : deadlineField.Gives access others draft.deadline :=
      holds.gives (Instant.option_reads _) rfl 5 rfl
    have fits : ∀ slot ∈ slots, slot.Fits access others := by
      simp only [slots, List.forall_mem_cons]
      exact ⟨title.fits, description.fits, priority.fits, difficulty.fits, reward.fits,
        deadline.fits, nofun⟩
    apply Record.decode_object_eq_ok (by decide) fits
    rw [ofRecord, title.read_eq_ok, description.read_eq_ok, priority.read_eq_ok,
      difficulty.read_eq_ok, reward.read_eq_ok, deadline.read_eq_ok]
    rfl

end TaskBoard
