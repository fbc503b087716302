import TaskBoard.Proofs.Decode.Origins
import TaskBoard.Proofs.Task.StorageForms

/-!
# What stands behind `0x`

A title, a description and a reward may be given by what stands behind `0x`.  Each pair
of characters of a text, and the whole of a reward, is read as a hexadecimal numeral,
and a numeral may begin with a plus sign.  `payloads_read` says that nothing else is
read: a record that holds anything else there is refused.
-/

namespace TaskBoard.Storage

/-- What stands behind `0x` is read as a text. -/
def ReadsAsText (payload : List Char) (text : String) : Prop :=
  Text.PairsBytes payload (text.toUTF8.data.toList.map UInt8.toNat)

/-- What stands behind `0x` is read as a reward. -/
def ReadsAsReward (payload : List Char) (reward : Word64) : Prop :=
  Text.IsSignedNumeral 16 reward.val payload

/-- The value that gives something behind `0x`. -/
def marked (payload : List Char) : Json := .string ("0x" ++ String.ofList payload)

/-! ### Single values -/

theorem readText_mark_eq_ok_iff (name : String) {payload : List Char} {text : String} :
    readText name ("0x" ++ String.ofList payload) = .ok text ↔ ReadsAsText payload text := by
  rw [ReadsAsText, ← Text.encode_toList, ← Text.readHex_eq_ok_iff, readText, afterHexMark?_mark]
  dsimp only
  cases Text.readHex payload with
  | error cause => simp
  | ok characters =>
      rw [Except.ok.injEq, Except.ok.injEq]
      constructor
      · rintro rfl
        rw [String.toList_ofList]
      · rintro rfl
        rw [String.ofList_toList]

theorem readReward_mark_eq_ok_iff {payload : List Char} {reward : Word64} :
    readReward (.text ("0x" ++ String.ofList payload)) = .ok reward ↔
      ReadsAsReward payload reward := by
  have fits : reward.val ≤ numeralLimit := Nat.le_trans reward.le_limit (by decide)
  rw [readReward, readNumeral, afterHexMark?_mark]
  dsimp only
  constructor
  · intro read
    split at read
    · cases read
    · next value numeral =>
      split at read
      · next word bounded =>
        cases read
        rw [ReadsAsReward, Bounded.val_of_ofNat? bounded]
        exact (Text.readNatural_eq_ok_iff.mp numeral).1
      · cases read
  · intro spelled
    rw [Text.readNatural_eq_ok_iff.mpr ⟨spelled, fits⟩]
    dsimp only
    rw [Bounded.ofNat?_val]

/-! ### Records -/

namespace Entry

theorem parts_of_ofRecord {record : Record} {entry : Entry}
    (built : ofRecord record = .ok entry) :
    record.read 0 titleField = .ok entry.title ∧
      record.read 1 descriptionField = .ok entry.description ∧
      record.read 7 rewardField = .ok entry.reward := by
  simp only [ofRecord, Decode.bind_eq_ok_iff] at built
  obtain ⟨title, isTitle, description, isDescription, _, _, _, _, _, _, _, _, _, _,
    reward, isReward, _, _, _, _, _, _, same⟩ := built
  cases same
  exact ⟨isTitle, isDescription, isReward⟩

/-- What an entry gives in one of several forms is read as the parts of a task. -/
structure ReadsAs (entry : Entry) (task : Task) : Prop where
  title : readText "title" entry.title = .ok task.title
  description : readText "description" entry.description = .ok task.description
  status : readStatus entry.status = .ok task.status
  priority : readPriority entry.priority = .ok task.priority
  reward : readReward entry.reward = .ok task.reward

theorem readsAs_of_toTask {id : TaskId} {entry : Entry} {task : Task}
    (denotes : entry.toTask id = .ok task) : entry.ReadsAs task := by
  simp only [toTask, Decode.bind_eq_ok_iff] at denotes
  obtain ⟨_, _, _, _, _, _, _, _, title, isTitle, description, isDescription,
    status, isStatus, priority, isPriority, reward, isReward, same⟩ := denotes
  cases same
  exact ⟨isTitle, isDescription, isStatus, isPriority, isReward⟩

theorem owns_slot {α : Type} {field : Field α} (single : field.otherNames = [])
    (found : (slots.find? fun slot => slot.covers field.name) = some field.slot) :
    Slot.Owns slots field.slot := by
  intro name covered
  have same : name = field.name := by
    simpa [Field.slot, Field.covers, single] using covered
  rw [same]
  exact found

end Entry

section Accepted

variable {number : Word32} {record : Json} {task : Task}

/-- The texts and the reward of a task are what stands in their places in the record. -/
theorem parts_of_decodeTask (read : decodeTask number record = .ok task) {given : String} :
    (record.HasField ["title"] 0 (.string given) → readText "title" given = .ok task.title) ∧
      (record.HasField ["description"] 1 (.string given) →
        readText "description" given = .ok task.description) ∧
      (record.HasField ["reward"] 7 (.string given) →
        readReward (.text given) = .ok task.reward) := by
  rw [decodeTask] at read
  split at read
  · cases read
  · next id _ =>
    split at read
    · cases read
    · next entry decoded =>
      obtain ⟨title, description, _, _, reward⟩ := Entry.readsAs_of_toTask read
      obtain ⟨parts, built, origin⟩ := Record.exists_of_decode_eq_ok decoded
      obtain ⟨readTitle, readDescription, readReward⟩ := Entry.parts_of_ofRecord built
      refine ⟨fun held => ?_, fun held => ?_, fun held => ?_⟩
      · rw [origin Entry.titleField 0 _ (Entry.owns_slot rfl rfl) held] at readTitle
        rwa [Except.ok.inj readTitle]
      · rw [origin Entry.descriptionField 1 _ (Entry.owns_slot rfl rfl) held] at readDescription
        rwa [Except.ok.inj readDescription]
      · rw [origin Entry.rewardField 7 _ (Entry.owns_slot rfl rfl) held] at readReward
        rwa [Except.ok.inj readReward]

/-- What the record holds behind `0x` is read as the parts of the task. -/
structure Unmarks (record : Json) (task : Task) : Prop where
  title : ∀ payload, record.HasField ["title"] 0 (marked payload) → ReadsAsText payload task.title
  description : ∀ payload, record.HasField ["description"] 1 (marked payload) →
    ReadsAsText payload task.description
  reward : ∀ payload, record.HasField ["reward"] 7 (marked payload) →
    ReadsAsReward payload task.reward

theorem unmarks_of_decodeTask (read : decodeTask number record = .ok task) :
    Unmarks record task where
  title _ held := (readText_mark_eq_ok_iff _).mp ((parts_of_decodeTask read).1 held)
  description _ held := (readText_mark_eq_ok_iff _).mp ((parts_of_decodeTask read).2.1 held)
  reward _ held := readReward_mark_eq_ok_iff.mp ((parts_of_decodeTask read).2.2 held)

/-- A record that no task unmarks is refused. -/
theorem refused_of_not_unmarks (never : ∀ task, ¬ Unmarks record task) :
    ∃ cause, decodeTask number record = .error cause := by
  cases decoded : decodeTask number record with
  | error cause => exact ⟨cause, rfl⟩
  | ok task => exact absurd (unmarks_of_decodeTask decoded) (never task)

end Accepted

/-- A record that is accepted holds behind `0x` only what is read as the text or the
reward of its task; a record that holds anything else there is refused. -/
theorem payloads_read (number : Word32) (record : Json) :
    (∀ task, decodeTask number record = .ok task → Unmarks record task) ∧
    (∀ payload, (∀ text, ¬ ReadsAsText payload text) →
      record.HasField ["title"] 0 (marked payload) ∨
        record.HasField ["description"] 1 (marked payload) →
      ∃ cause, decodeTask number record = .error cause) ∧
    ∀ payload, (∀ reward, ¬ ReadsAsReward payload reward) →
      record.HasField ["reward"] 7 (marked payload) →
      ∃ cause, decodeTask number record = .error cause := by
  refine ⟨fun task => unmarks_of_decodeTask, ?_, ?_⟩
  · intro payload unreadable held
    refine refused_of_not_unmarks fun task unmarks => ?_
    rcases held with held | held
    · exact unreadable task.title (unmarks.title payload held)
    · exact unreadable task.description (unmarks.description payload held)
  · intro payload unreadable held
    refine refused_of_not_unmarks fun task unmarks => ?_
    exact unreadable task.reward (unmarks.reward payload held)

/-- A record with a plus sign behind `0x` in its title, and what stands there in its reward. -/
def signedRecord (reward : List Char) : Json :=
  .object [("title", .string "0x+a"), ("creator", .string "alice"), ("status", .nat 0),
    ("priority", .nat 2), ("difficulty", .nat 1), ("reward", marked reward),
    ("created_at", .int 0), ("updated_at", .int 0)]

/-- The task that the record denotes if the reward is read as five hundred. -/
def signedTask : Task :=
  { Task.fresh ⟨1, Nat.one_pos⟩ "\n" ⟨"alice"⟩ .epoch with reward := 500 }

theorem title_signedRecord (reward : List Char) :
    (signedRecord reward).HasField ["title"] 0 (marked ['+', 'a']) :=
  .member List.mem_cons_self List.mem_cons_self

theorem reward_signedRecord (reward : List Char) :
    (signedRecord reward).HasField ["reward"] 7 (marked reward) :=
  .member List.mem_cons_self (by simp)

/-- Plus signs in the title and in front of the reward are accepted, and a plus sign
inside the reward is not. -/
theorem payloads_read_signedRecord :
    decodeTask 1 (signedRecord ['+', '1', 'f', '4']) = .ok signedTask ∧
      ReadsAsText ['+', 'a'] "\n" ∧ ReadsAsReward ['+', '1', 'f', '4'] 500 ∧
      (∀ reward, ¬ ReadsAsReward ['1', '+', 'f'] reward) ∧
      ∃ cause, decodeTask 1 (signedRecord ['1', '+', 'f']) = .error cause := by
  have decoded : decodeTask 1 (signedRecord ['+', '1', 'f', '4']) = .ok signedTask := rfl
  have unmarks := (payloads_read 1 _).1 signedTask decoded
  have unreadable : ∀ reward, ¬ ReadsAsReward ['1', '+', 'f'] reward := by
    intro reward reads
    exact nomatch readReward_mark_eq_ok_iff.mpr reads
  exact ⟨decoded, unmarks.title _ (title_signedRecord _), unmarks.reward _ (reward_signedRecord _),
    unreadable, (payloads_read 1 _).2.2 _ unreadable (reward_signedRecord _)⟩

/-- It is not true that a record is accepted only if all that it holds behind `0x` are
hexadecimal digits. -/
theorem signedRecord_accepted :
    decodeTask 1 (signedRecord ['+', '1', 'f', '4']) = .ok signedTask ∧
      (signedRecord ['+', '1', 'f', '4']).HasField ["title"] 0 (marked ['+', 'a']) ∧
      (¬ ∀ character ∈ ['+', 'a'], ∃ value, Text.IsDigit value character) ∧
      (signedRecord ['+', '1', 'f', '4']).HasField ["reward"] 7 (marked ['+', '1', 'f', '4']) ∧
      ¬ ∀ character ∈ ['+', '1', 'f', '4'], ∃ value, Text.IsDigit value character := by
  have noDigit : ¬ ∃ value, Text.IsDigit value '+' := by
    rintro ⟨value, isDigit⟩
    exact nomatch Text.digitValue?_of_isDigit isDigit
  exact ⟨rfl, title_signedRecord _, fun digits => noDigit (digits '+' List.mem_cons_self),
    reward_signedRecord _, fun digits => noDigit (digits '+' List.mem_cons_self)⟩

end TaskBoard.Storage
