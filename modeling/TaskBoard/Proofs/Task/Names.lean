import TaskBoard.Proofs.Decode.Gaps
import TaskBoard.Proofs.Lookup
import TaskBoard.Proofs.Task.Payloads
import TaskBoard.Proofs.Text.LooseNames
import TaskBoard.View.Badge

/-!
# Names of statuses and priorities

A status or a priority may be written as any of its words, in either case, with separators
in it and white space around it.  `names_read` says that nothing else is read: by the
readers of names themselves, which also read what badges are labelled with, and in records,
where such a name is as good as the code of what it names.
-/

namespace TaskBoard

/-- The words for a status. -/
def Status.spellings : Status → List String
  | pending => ["pending"]
  | inProgress => ["inprogress"]
  | completed => ["completed"]
  | cancelled => ["cancelled", "canceled"]
  | pendingVerification => ["pendingverification"]

/-- The words for a priority. -/
def Priority.spellings : Priority → List String
  | low => ["low"]
  | medium => ["medium"]
  | high => ["high"]
  | urgent => ["urgent"]

/-- A reader of names accepts the texts that spell a word for a value, and gives the value.
What is not ASCII is never accepted, and a label is read as what it labels. -/
structure ReadsNames {α : Type} (read : String → Except ArgumentError α)
    (refusal : String → ArgumentError) (spellings : α → List String)
    (ofLabel? : String → Option α) : Prop where
  accepts_iff : ∀ text value,
    read text = .ok value ↔ ∃ word ∈ spellings value, Text.Spells text word
  refuses_iff : ∀ text,
    read text = .error (refusal text) ↔ ∀ value, ∀ word ∈ spellings value, ¬ Text.Spells text word
  refuses_foreign : ∀ text, (∃ character ∈ Text.trimChars text.toList, 128 ≤ character.toNat) →
    read text = .error (refusal text)
  reads_labels : ∀ text value, ofLabel? text = some value → read text = .ok value

/-! ### Tables of words -/

/-- A table of plain words, with the words for each value and a badge that one of them fits. -/
structure IsVocabulary {α : Type} (words : List (String × α)) (spellings : α → List String)
    (badge : α → Badge) : Prop where
  mem_iff : ∀ word value, (word, value) ∈ words ↔ word ∈ spellings value
  distinct : (words.map Prod.fst).Nodup
  plain : ∀ entry ∈ words, Text.IsPlainWord entry.1
  labels : ∀ value, ∃ word ∈ spellings value,
    Text.eqIgnoringAsciiCase word.toList
      (Text.withoutSeparators (badge value).label.toList) = true

theorem Status.isVocabulary : IsVocabulary words spellings badge where
  mem_iff word status := by cases status <;> simp [words, spellings]
  distinct := by decide
  plain := by decide
  labels status := by cases status <;> decide

theorem Priority.isVocabulary : IsVocabulary words spellings badge where
  mem_iff word priority := by cases priority <;> simp [words, spellings]
  distinct := by decide
  plain := by decide
  labels priority := by cases priority <;> decide

namespace IsVocabulary

variable {α : Type} {words : List (String × α)} {spellings : α → List String} {badge : α → Badge}
variable (vocabulary : IsVocabulary words spellings badge) {text : String} {value : α}
include vocabulary

/-- A loose name is found in the table exactly if the text spells a word for the value. -/
theorem lookup_looseName_eq_some_iff :
    words.lookup (Text.looseName text) = some value ↔
      ∃ word ∈ spellings value, Text.Spells text word := by
  rw [lookup_eq_some_iff_mem vocabulary.distinct]
  constructor
  · intro listed
    have spells := (Text.looseName_eq_iff (vocabulary.plain _ listed)).mp rfl
    exact ⟨_, (vocabulary.mem_iff _ value).mp listed, spells⟩
  · rintro ⟨word, isWord, spells⟩
    have listed := (vocabulary.mem_iff word value).mpr isWord
    rwa [(Text.looseName_eq_iff (vocabulary.plain _ listed)).mpr spells]

/-- The label of a badge spells a word for what it labels. -/
theorem exists_spells_of_isLabeled (labeled : (badge value).isLabeled text = true) :
    ∃ word ∈ spellings value, Text.Spells text word := by
  obtain ⟨word, isWord, same⟩ := vocabulary.labels value
  refine ⟨word, isWord, Text.eqIgnoringAsciiCase_iff.mpr ?_⟩
  exact (Text.eqIgnoringAsciiCase_iff.mp same).trans
    (Text.eqIgnoringAsciiCase_iff.mp (Text.eqIgnoringAsciiCase_withoutSeparators labeled))

/-- A reader that looks up loose names in the table reads names. -/
theorem readsNames {read : String → Except ArgumentError α} {refusal : String → ArgumentError}
    {ofLabel? : String → Option α}
    (looksUp : ∀ text,
      read text = (words.lookup (Text.looseName text)).elim (.error (refusal text)) .ok)
    (labeled : ∀ text value, ofLabel? text = some value → (badge value).isLabeled text = true) :
    ReadsNames read refusal spellings ofLabel? := by
  have accepts (text : String) (value : α) :
      read text = .ok value ↔ ∃ word ∈ spellings value, Text.Spells text word := by
    rw [looksUp, ← vocabulary.lookup_looseName_eq_some_iff]
    cases words.lookup (Text.looseName text) <;> simp
  have refuses (text : String) : read text = .error (refusal text) ↔
      ∀ value, ∀ word ∈ spellings value, ¬ Text.Spells text word := by
    have noValue : (∀ value, ∀ word ∈ spellings value, ¬ Text.Spells text word) ↔
        ∀ value, words.lookup (Text.looseName text) ≠ some value := by
      simp [vocabulary.lookup_looseName_eq_some_iff]
    rw [looksUp, noValue, ← Option.eq_none_iff_forall_ne_some]
    cases words.lookup (Text.looseName text) <;> simp
  refine ⟨accepts, refuses, ?_, ?_⟩
  · rintro text ⟨character, member, foreign⟩
    refine (refuses text).mpr fun value word isWord spells => ?_
    have plain := vocabulary.plain _ ((vocabulary.mem_iff word value).mpr isWord)
    exact Nat.not_lt.mpr foreign (spells.ascii plain character member)
  · intro text value isLabel
    have spells := vocabulary.exists_spells_of_isLabeled (labeled text value isLabel)
    exact (accepts text value).mpr spells

end IsVocabulary

theorem Status.readsNames : ReadsNames ofText .unknownStatus spellings ofLabel? := by
  refine isVocabulary.readsNames ?_ fun text status isLabel =>
    List.find?_some (p := fun status : Status => status.badge.isLabeled text) isLabel
  intro text
  rw [ofText]
  cases words.lookup (Text.looseName text) <;> rfl

theorem Priority.readsNames : ReadsNames ofText .unknownPriority spellings ofLabel? := by
  refine isVocabulary.readsNames ?_ fun text priority isLabel =>
    List.find?_some (p := fun priority : Priority => priority.badge.isLabeled text) isLabel
  intro text
  rw [ofText]
  cases words.lookup (Text.looseName text) <;> rfl

namespace Storage

/-! ### Names in records -/

/-- A field that holds a code or a name. -/
def nameField (name : String) : Field Scalar := .required name (Scalar.decode "CodeOrName")

/-- A part of a task that a record gives by a code or by a name, in the place of a field.
It is read from this field alone, and nothing else of the task depends on the field. -/
structure NamedPart (name : String) (position : Nat) (α : Type) where
  part : Task → α
  spellings : α → List String
  code : α → Nat
  read : Scalar → Except RecordError α
  set : Scalar → Entry → Entry
  owns : Slot.Owns Entry.slots (nameField name).slot
  ofRecord_eq : ∀ {given instead : Scalar} {record other : Record},
    Record.DifferAt (nameField name) position given instead record other →
      Entry.ofRecord other = (Entry.ofRecord record).map (set instead)
  toTask_eq : ∀ {given instead : Scalar} (id : TaskId) (entry : Entry),
    read given = read instead → (set given entry).toTask id = (set instead entry).toTask id
  read_eq : ∀ {id : TaskId} {given : Scalar} {entry : Entry} {task : Task},
    (set given entry).toTask id = .ok task → read given = .ok (part task)
  read_text_iff : ∀ text value,
    read (.text text) = .ok value ↔ ∃ word ∈ spellings value, Text.Spells text word
  read_code : ∀ value, ∃ raw,
    (nameField name).decode .direct (.nat (code value)) = .ok raw ∧ read raw = .ok value

namespace NamedPart

variable {name : String} {position : Nat} {α : Type} (named : NamedPart name position α)
variable {task : Task}

/-- If one value in a gap is read as the part of a task, a record with another value there
denotes the task exactly if this value is read alike and the record with the first one does. -/
theorem decodeTask_fill_eq_ok_iff {given instead : Json} {left right : Scalar}
    (leftRead : (nameField name).decode .direct given = .ok left)
    (rightRead : (nameField name).decode .direct instead = .ok right)
    (isPart : named.read right = .ok (named.part task)) (number : Word32)
    (gap : Json.Gap name position) :
    decodeTask number (gap.fill given) = .ok task ↔
      named.read left = .ok (named.part task) ∧
        decodeTask number (gap.fill instead) = .ok task := by
  -- To fill the gap with what is in it changes nothing, so an entry holds what is read there.
  have kept : Entry.decode .direct (gap.fill given) =
      (Entry.decode .direct (gap.fill given)).map (named.set left) :=
    Record.decode_fill leftRead leftRead rfl named.owns named.ofRecord_eq gap
  have changed : Entry.decode .direct (gap.fill instead) =
      (Entry.decode .direct (gap.fill given)).map (named.set right) :=
    Record.decode_fill leftRead rightRead rfl named.owns named.ofRecord_eq gap
  rw [decodeTask, decodeTask]
  cases Id.ofNumber number with
  | error cause => simp
  | ok id =>
      dsimp only
      rw [changed]
      cases decoded : Entry.decode .direct (gap.fill given) with
      | error problem => simp [Except.map]
      | ok entry =>
          rw [decoded] at kept
          have isSet : entry = named.set left entry := Except.ok.inj kept
          dsimp only [Except.map]
          constructor
          · intro denotes
            rw [isSet] at denotes
            have isRead := named.read_eq denotes
            exact ⟨isRead, (named.toTask_eq id entry (isPart.trans isRead.symm)).trans denotes⟩
          · rintro ⟨isRead, denotes⟩
            rw [isSet]
            exact (named.toTask_eq id entry (isRead.trans isPart.symm)).trans denotes

/-- A record with a name denotes a task exactly if the name spells a word for the part of the
task and the record with the code of this part denotes the task. -/
theorem decodeTask_name_eq_ok_iff (number : Word32) (gap : Json.Gap name position)
    (text : String) :
    decodeTask number (gap.fill (.string text)) = .ok task ↔
      (∃ word ∈ named.spellings (named.part task), Text.Spells text word) ∧
        decodeTask number (gap.fill (.nat (named.code (named.part task)))) = .ok task := by
  obtain ⟨code, isCode, isRead⟩ := named.read_code (named.part task)
  have isName : (nameField name).decode .direct (.string text) = .ok (.text text) := rfl
  rw [← named.read_text_iff]
  exact named.decodeTask_fill_eq_ok_iff isName isCode isRead number gap

end NamedPart

/-- The status as a part of a task. -/
def statusPart : NamedPart "status" 4 Status where
  part := Task.status
  spellings := Status.spellings
  code := Status.code
  read := readStatus
  set raw entry := { entry with status := raw }
  owns := Entry.owns_slot rfl rfl
  ofRecord_eq {given instead record other} differ := by
    have differ : Record.DifferAt Entry.statusField 4 given instead record other := differ
    -- All other fields are read alike, and the status is not looked at until the entry is made.
    simp (disch := decide) only [Entry.ofRecord, ← differ.read_eq]
    rw [differ.left_read, differ.right_read]
    change _ = (fun entry : Entry => { entry with status := instead }) <$> _
    simp only [map_bind]
    rfl
  toTask_eq id entry same := by
    simp only [Entry.toTask, same]
  read_eq denotes := (Entry.readsAs_of_toTask denotes).status
  read_text_iff text status := by
    rw [← Status.readsNames.accepts_iff, readStatus]
    cases Status.ofText text <;> simp
  read_code status := readStatus_of_writesStatus "CodeOrName" .direct .code

/-- The priority as a part of a task. -/
def priorityPart : NamedPart "priority" 5 Priority where
  part := Task.priority
  spellings := Priority.spellings
  code := Priority.ordinal
  read := readPriority
  set raw entry := { entry with priority := raw }
  owns := Entry.owns_slot rfl rfl
  ofRecord_eq {given instead record other} differ := by
    have differ : Record.DifferAt Entry.priorityField 5 given instead record other := differ
    simp (disch := decide) only [Entry.ofRecord, ← differ.read_eq]
    rw [differ.left_read, differ.right_read]
    change _ = (fun entry : Entry => { entry with priority := instead }) <$> _
    simp only [map_bind]
    rfl
  toTask_eq id entry same := by
    simp only [Entry.toTask, same]
  read_eq denotes := (Entry.readsAs_of_toTask denotes).priority
  read_text_iff text priority := by
    rw [← Priority.readsNames.accepts_iff, readPriority]
    cases Priority.ofText text <;> simp
  read_code priority := readPriority_of_writesPriority "CodeOrName" .direct .code

/-- Statuses and priorities are read from the texts that spell a word for them, and from no
others.  A record that names one denotes a task exactly if the name spells a word for that of
the task and the record with its code instead denotes the task. -/
theorem names_read :
    ReadsNames Status.ofText .unknownStatus Status.spellings Status.ofLabel? ∧
    ReadsNames Priority.ofText .unknownPriority Priority.spellings Priority.ofLabel? ∧
    (∀ (number : Word32) (gap : Json.Gap "status" 4) (text : String) (task : Task),
      decodeTask number (gap.fill (.string text)) = .ok task ↔
        (∃ word ∈ task.status.spellings, Text.Spells text word) ∧
          decodeTask number (gap.fill (.nat task.status.code)) = .ok task) ∧
    ∀ (number : Word32) (gap : Json.Gap "priority" 5) (text : String) (task : Task),
      decodeTask number (gap.fill (.string text)) = .ok task ↔
        (∃ word ∈ task.priority.spellings, Text.Spells text word) ∧
          decodeTask number (gap.fill (.nat task.priority.ordinal)) = .ok task :=
  ⟨Status.readsNames, Priority.readsNames,
    fun number gap text _ => statusPart.decodeTask_name_eq_ok_iff number gap text,
    fun number gap text _ => priorityPart.decodeTask_name_eq_ok_iff number gap text⟩

/-- White space is kept where a separator shields it from the ends of the text. -/
example : Text.Spells "\u3000Pending_ -Verification\t" "pendingverification" ∧
    ¬ Text.Spells "_\tpending" "pending" := by
  decide

end Storage

end TaskBoard
