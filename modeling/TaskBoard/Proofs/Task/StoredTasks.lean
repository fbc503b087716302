import TaskBoard.Proofs.Decode.Members
import TaskBoard.Proofs.Task.StorageForms

/-!
# Tasks as storage gives them

`Writes` says which objects give a task: each of its fields is given by one
member, in one of the forms and under one of the names of the field, or by none
where the value is the one that stands in for it.  Members of other names do not
matter.  `decodeTask_inverts_writes` reads the task from every such object.
-/

namespace TaskBoard.Storage

/-- The members of an object give a task. -/
structure Writes (task : Task) (members : List (String × Json)) : Prop where
  title : WritesField ["title"] (WritesText task.title) members
  description : WritesField ["description"] (WritesText task.description) members ∨
    task.description = "" ∧ LacksField ["description"] members
  creator : WritesField ["creator"] (· = .string task.creator.name) members
  assignee : WritesField ["assignee"] (· = .ofOption (.string ·.name) task.assignee) members ∨
    task.assignee = none ∧ LacksField ["assignee"] members
  status : WritesField ["status"] (WritesStatus task.status) members
  priority : WritesField ["priority"] (WritesPriority task.priority) members
  difficulty : WritesField ["difficulty"] (· = .nat task.difficulty.level) members
  reward : WritesField ["reward"] (WritesReward task.reward) members
  deadline : WritesField ["deadline"] (· = .ofOption (.int ·.millis) task.deadline) members ∨
    task.deadline = none ∧ LacksField ["deadline"] members
  createdAt : WritesField ["created_at", "createdAt"] (· = .int task.createdAt.millis) members
  updatedAt : WritesField ["updated_at", "updatedAt"] (· = .int task.updatedAt.millis) members

namespace Entry

/-- The members of an object give an entry field by field. -/
structure Given (members : List (String × Json)) (entry : Entry) : Prop where
  title : titleField.Gives .direct members entry.title
  description : descriptionField.Gives .direct members entry.description
  creator : creatorField.Gives .direct members entry.creator
  assignee : assigneeField.Gives .direct members entry.assignee
  status : statusField.Gives .direct members entry.status
  priority : priorityField.Gives .direct members entry.priority
  difficulty : difficultyField.Gives .direct members entry.difficulty
  reward : rewardField.Gives .direct members entry.reward
  deadline : deadlineField.Gives .direct members entry.deadline
  createdAt : createdAtField.Gives .direct members entry.createdAt
  updatedAt : updatedAtField.Gives .direct members entry.updatedAt

theorem Given.decode_eq_ok {members : List (String × Json)} {entry : Entry}
    (given : Given members entry) : decode .direct (.object members) = .ok entry := by
  have distinct : (slots.map Slot.name).Nodup := by decide
  have fits : ∀ slot ∈ slots, slot.Fits .direct members := by
    simp only [slots, List.forall_mem_cons]
    exact ⟨given.title.fits, given.description.fits, given.creator.fits, given.assignee.fits,
      given.status.fits, given.priority.fits, given.difficulty.fits, given.reward.fits,
      given.deadline.fits, given.createdAt.fits, given.updatedAt.fits, nofun⟩
  apply Record.decode_object_eq_ok distinct fits
  rw [ofRecord, given.title.read_eq_ok, given.description.read_eq_ok, given.creator.read_eq_ok,
    given.assignee.read_eq_ok, given.status.read_eq_ok, given.priority.read_eq_ok,
    given.difficulty.read_eq_ok, given.reward.read_eq_ok, given.deadline.read_eq_ok,
    given.createdAt.read_eq_ok, given.updatedAt.read_eq_ok]
  rfl

/-- The parts of an entry denote those of a task. -/
structure Denotes (entry : Entry) (task : Task) : Prop where
  title : readText "title" entry.title = .ok task.title
  description : readText "description" entry.description = .ok task.description
  creator : entry.creator = task.creator.name
  assignee : entry.assignee = task.assignee.map Account.name
  status : readStatus entry.status = .ok task.status
  priority : readPriority entry.priority = .ok task.priority
  difficulty : entry.difficulty = task.difficulty.word
  reward : readReward entry.reward = .ok task.reward
  deadline : entry.deadline = task.deadline.map Instant.millis
  createdAt : entry.createdAt = task.createdAt.millis
  updatedAt : entry.updatedAt = task.updatedAt.millis

theorem Denotes.toTask_eq_ok {entry : Entry} {task : Task} (denotes : Denotes entry task)
    (ordered : task.createdAt ≤ task.updatedAt) : entry.toTask task.id = .ok task := by
  have account : (task.assignee.map Account.name).map Account.mk = task.assignee := by
    cases task.assignee <;> rfl
  rw [toTask, denotes.difficulty, readDifficulty_word, denotes.createdAt, readInstant_millis,
    denotes.updatedAt, readInstant_millis, denotes.deadline, readInstant?_millis, denotes.title,
    denotes.description, denotes.status, denotes.priority, denotes.reward, denotes.creator,
    denotes.assignee, account]
  simp only [bind, Except.bind, pure, Except.pure, Task.touch, Task.fresh,
    Instant.latest_eq_left ordered]

end Entry

namespace Writes

variable {task : Task} {members : List (String × Json)}

theorem exists_description (writes : Writes task members) :
    ∃ raw, Entry.descriptionField.Gives .direct members raw ∧
      readText "description" raw = .ok task.description := by
  rcases writes.description with written | ⟨empty, lacking⟩
  · exact written.exists_gives Entry.descriptionField fun _ =>
      readText_of_writesText "description" .direct
  · exact ⟨"", lacking.gives Entry.descriptionField rfl, by rw [empty]; rfl⟩

theorem assignee_gives (writes : Writes task members) :
    Entry.assigneeField.Gives .direct members (task.assignee.map Account.name) := by
  rcases writes.assignee with written | ⟨nobody, lacking⟩
  · apply written.gives Entry.assigneeField
    cases task.assignee <;> rfl
  · rw [nobody]
    exact lacking.gives Entry.assigneeField rfl

theorem deadline_gives (writes : Writes task members) :
    Entry.deadlineField.Gives .direct members (task.deadline.map Instant.millis) := by
  rcases writes.deadline with written | ⟨never, lacking⟩
  · apply written.gives Entry.deadlineField
    cases task.deadline with
    | none => rfl
    | some deadline => exact congrArg (Except.map some) (integer_millis deadline .direct)
  · rw [never]
    exact lacking.gives Entry.deadlineField rfl

/-- The members that give a task give an entry that denotes the task. -/
theorem exists_entry (writes : Writes task members) :
    ∃ entry : Entry, entry.Given members ∧ entry.Denotes task := by
  obtain ⟨title, titleGiven, titleRead⟩ :=
    writes.title.exists_gives Entry.titleField fun _ => readText_of_writesText "title" .direct
  obtain ⟨description, descriptionGiven, descriptionRead⟩ := writes.exists_description
  obtain ⟨status, statusGiven, statusRead⟩ :=
    writes.status.exists_gives Entry.statusField fun _ => readStatus_of_writesStatus _ .direct
  obtain ⟨priority, priorityGiven, priorityRead⟩ :=
    writes.priority.exists_gives Entry.priorityField fun _ =>
      readPriority_of_writesPriority _ .direct
  obtain ⟨reward, rewardGiven, rewardRead⟩ :=
    writes.reward.exists_gives Entry.rewardField fun _ => readReward_of_writesReward _ .direct
  let entry : Entry :=
    { title, description, status, priority, reward
      creator := task.creator.name
      assignee := task.assignee.map Account.name
      difficulty := task.difficulty.word
      deadline := task.deadline.map Instant.millis
      createdAt := task.createdAt.millis
      updatedAt := task.updatedAt.millis }
  have given : entry.Given members :=
    { title := titleGiven
      description := descriptionGiven
      creator := writes.creator.gives Entry.creatorField rfl
      assignee := writes.assignee_gives
      status := statusGiven
      priority := priorityGiven
      difficulty := writes.difficulty.gives Entry.difficultyField (word8_level _ .direct)
      reward := rewardGiven
      deadline := writes.deadline_gives
      createdAt := writes.createdAt.gives Entry.createdAtField (integer_millis _ .direct)
      updatedAt := writes.updatedAt.gives Entry.updatedAtField (integer_millis _ .direct) }
  have denotes : entry.Denotes task :=
    ⟨titleRead, descriptionRead, rfl, rfl, statusRead, priorityRead, rfl, rewardRead, rfl, rfl, rfl⟩
  exact ⟨entry, given, denotes⟩

/-- The task is read from every object that gives it. -/
theorem decodeTask_eq_ok (writes : Writes task members)
    (ordered : task.createdAt ≤ task.updatedAt) :
    decodeTask task.id.number (.object members) = .ok task := by
  obtain ⟨entry, given, denotes⟩ := writes.exists_entry
  rw [decodeTask, Id.ofNumber_number]
  dsimp only
  rw [given.decode_eq_ok]
  exact denotes.toTask_eq_ok ordered

/-- The order of the members does not matter. -/
theorem perm {others : List (String × Json)} (writes : Writes task members)
    (reordered : members.Perm others) : Writes task others where
  title := writes.title.perm reordered
  description := writes.description.imp (·.perm reordered) (And.imp_right (·.perm reordered))
  creator := writes.creator.perm reordered
  assignee := writes.assignee.imp (·.perm reordered) (And.imp_right (·.perm reordered))
  status := writes.status.perm reordered
  priority := writes.priority.perm reordered
  difficulty := writes.difficulty.perm reordered
  reward := writes.reward.perm reordered
  deadline := writes.deadline.imp (·.perm reordered) (And.imp_right (·.perm reordered))
  createdAt := writes.createdAt.perm reordered
  updatedAt := writes.updatedAt.perm reordered

/-- A task's own JSON gives it, unless its texts look like bytes.  The names of its
members differ, and there is nothing to sort within their values. -/
theorem exists_members_encode (titled : ¬ BeginsLikeBytes task.title)
    (described : ¬ BeginsLikeBytes task.description) :
    ∃ members, task.encode = .object members ∧ (members.map Prod.fst).Nodup ∧
      (∀ member ∈ members, member.2.sorted = member.2) ∧ Writes task members := by
  refine ⟨_, rfl, ?_, ?_, ?_⟩
  · simp only [List.map_cons, List.map_nil]
    decide
  · have assignee : (Json.ofOption Account.encode task.assignee).sorted =
        .ofOption Account.encode task.assignee := by cases task.assignee <;> rfl
    have deadline : (Json.ofOption Instant.encode task.deadline).sorted =
        .ofOption Instant.encode task.deadline := by cases task.deadline <;> rfl
    simp only [List.forall_mem_cons]
    exact ⟨rfl, rfl, rfl, rfl, assignee, rfl, rfl, rfl, rfl, deadline, rfl, rfl, nofun⟩
  · exact
    { title := ⟨"title", _, rfl, .itself titled⟩
      description := .inl ⟨"description", _, rfl, .itself described⟩
      creator := ⟨"creator", _, rfl, rfl⟩
      assignee := .inl ⟨"assignee", _, rfl, rfl⟩
      status := ⟨"status", _, rfl, .name⟩
      priority := ⟨"priority", _, rfl, .name⟩
      difficulty := ⟨"difficulty", _, rfl, rfl⟩
      reward := ⟨"reward", _, rfl, .number⟩
      deadline := .inl ⟨"deadline", _, rfl, rfl⟩
      createdAt := ⟨"created_at", _, rfl, rfl⟩
      updatedAt := ⟨"updated_at", _, rfl, rfl⟩ }

theorem exists_members_sorted_encode (titled : ¬ BeginsLikeBytes task.title)
    (described : ¬ BeginsLikeBytes task.description) :
    ∃ members, task.encode.sorted = .object members ∧ Writes task members := by
  obtain ⟨members, encoded, distinct, flat, writes⟩ :=
    exists_members_encode titled described
  have reordered : (Json.sortedMembers members []).Perm members :=
    Json.sortedMembers_perm_of_sorted distinct flat
  refine ⟨_, ?_, writes.perm reordered.symm⟩
  rw [encoded, Json.sorted]

end Writes

/-- A task that is not updated before it is created is read from every object that
gives it, in particular from its own JSON if its texts do not look like bytes. -/
theorem decodeTask_inverts_writes (task : Task) (ordered : task.createdAt ≤ task.updatedAt) :
    (∀ members, Writes task members → decodeTask task.id.number (.object members) = .ok task) ∧
      (¬ BeginsLikeBytes task.title → ¬ BeginsLikeBytes task.description →
        decodeTask task.id.number task.encode = .ok task ∧
          decodeTask task.id.number task.encode.sorted = .ok task) := by
  refine ⟨fun members writes => writes.decodeTask_eq_ok ordered, ?_⟩
  intro titled described
  obtain ⟨members, encoded, _, _, writes⟩ := Writes.exists_members_encode titled described
  obtain ⟨inOrder, sorted, writesInOrder⟩ :=
    Writes.exists_members_sorted_encode titled described
  rw [sorted, encoded]
  exact ⟨writes.decodeTask_eq_ok ordered, writesInOrder.decodeTask_eq_ok ordered⟩

/-- A title in hexadecimal digits of both cases, a status by code, a hexadecimal
reward, later names of the instants and an unknown member denote one task. -/
theorem decodeTask_inverts_writes_mixed_forms :
    let task : Task :=
      { Task.fresh ⟨1, by decide⟩ "Bär" ⟨"alice"⟩ .epoch with status := .inProgress, reward := 500 }
    let members : List (String × Json) :=
      [("note", .null), ("updatedAt", .int 0), ("title", .string "0x42C3a472"),
        ("creator", .string "alice"), ("status", .nat 1), ("priority", .string "Medium"),
        ("difficulty", .nat 1), ("deadline", .null), ("reward", .string "0x1f4"),
        ("createdAt", .int 0)]
    task.createdAt ≤ task.updatedAt ∧ Writes task members ∧
      decodeTask 1 (.object members) = .ok task ∧
      ¬ BeginsLikeBytes task.title ∧ ¬ BeginsLikeBytes task.description ∧
      decodeTask 1 task.encode = .ok task := by
  intro task members
  have ordered : task.createdAt ≤ task.updatedAt := by decide
  have title : Text.SpellsBytes ['4', '2', 'C', '3', 'a', '4', '7', '2']
      (task.title.toUTF8.data.toList.map UInt8.toNat) :=
    .pair (by decide) (by decide) <| .pair (by decide) (by decide) <|
      .pair (by decide) (by decide) <| .pair (by decide) (by decide) .nil
  have reward : Text.IsNumeral 16 task.reward.val ['1', 'f', '4'] :=
    Text.IsNumeral.toDigits (by decide) (by decide) 500
  have writes : Writes task members :=
    { title := ⟨"title", _, rfl, .bytes title⟩
      description := .inr ⟨rfl, rfl⟩
      creator := ⟨"creator", _, rfl, rfl⟩
      assignee := .inr ⟨rfl, rfl⟩
      status := ⟨"status", _, rfl, .code⟩
      priority := ⟨"priority", _, rfl, .name⟩
      difficulty := ⟨"difficulty", _, rfl, rfl⟩
      reward := ⟨"reward", _, rfl, .hexadecimal reward⟩
      deadline := .inl ⟨"deadline", _, rfl, rfl⟩
      createdAt := ⟨"createdAt", _, rfl, rfl⟩
      updatedAt := ⟨"updatedAt", _, rfl, rfl⟩ }
  have titled : ¬ BeginsLikeBytes task.title := by decide
  have described : ¬ BeginsLikeBytes task.description := by decide
  obtain ⟨read, readOwn⟩ := decodeTask_inverts_writes task ordered
  exact ⟨ordered, writes, read members writes, titled, described, (readOwn titled described).1⟩

end TaskBoard.Storage
