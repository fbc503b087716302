import TaskBoard.CommandLine.Run
import TaskBoard.Proofs.Search.Conditions
import TaskBoard.Proofs.Search.Permutation
import TaskBoard.Proofs.View.Highlighting

/-!
# Rows of a quick search

A quick search looks for the keyword without the white space at its ends, and its
rows highlight the keyword as it was typed.  A row whose description is shown to
the end therefore has a match exactly if the keyword as it was typed is in the
title or the description, which is sure only where no white space was typed
around it.
-/

namespace TaskBoard

/-- There is a match if the keyword is in the text. -/
theorem any_isMatch_highlight (text : List Char) {keyword : List Char} (nonempty : keyword ≠ []) :
    (highlight text keyword).any Segment.isMatch = containsIgnoringCase text keyword := by
  obtain ⟨needle, highlighted, contains⟩ := exists_needle_of_ne_nil nonempty
  rw [highlighted, contains, Bool.eq_iff_iff, List.any_eq_true]
  exact Segment.exists_isMatch_split_iff

namespace Row

/-- Whether something is highlighted in the title or in the description. -/
def hasMatch (row : Row) : Bool :=
  row.title.any Segment.isMatch || row.description.any Segment.isMatch

variable {task : Task} {keyword : String} {previewLength : Nat}

theorem description_ofTask (whole : (ofTask task keyword previewLength).truncated = false) :
    (ofTask task keyword previewLength).description =
      highlight task.description.toList keyword.toList := by
  have short : task.description.toList.length ≤ previewLength :=
    Nat.not_lt.mp (of_decide_eq_false whole)
  exact congrArg (highlight · keyword.toList) (List.take_of_length_le short)

/-- A row that shows the whole description has a match if the task mentions the keyword. -/
theorem hasMatch_ofTask (nonempty : keyword.toList ≠ [])
    (whole : (ofTask task keyword previewLength).truncated = false) :
    (ofTask task keyword previewLength).hasMatch = task.mentions keyword := by
  rw [hasMatch, description_ofTask whole, any_isMatch_highlight _ nonempty]
  exact congrArg (· || _) (any_isMatch_highlight _ nonempty)

end Row

section Found

variable {tasks : List Task} {keyword : String} {limit : Nat} {task : Task}

/-- A quick search for a blank keyword finds nothing. -/
theorem toList_ne_nil_of_mem_quickSearch (found : task ∈ quickSearch tasks keyword limit) :
    keyword.toList ≠ [] := by
  intro empty
  have blank : Text.isAllBlank keyword = true := by
    rw [Text.isAllBlank, empty]
    rfl
  rw [quickSearch, if_pos blank] at found
  cases found

/-- A quick search finds tasks of the snapshot that mention the keyword without the
white space around it. -/
theorem mentions_trim_of_mem_quickSearch (found : task ∈ quickSearch tasks keyword limit) :
    task ∈ tasks ∧ task.mentions (Text.trim keyword) = true := by
  rw [quickSearch] at found
  split at found
  · cases found
  · have selected := (List.mergeSort_perm _ _).mem_iff.mp (List.mem_of_mem_take found)
    obtain ⟨member, accepted⟩ := List.mem_filter.mp selected
    have meets := Condition.accepts_alone (.keyword (Text.trim keyword)) task
    exact ⟨member, meets.symm.trans accepted⟩

end Found

namespace Ledger

/-- Every task of a ledger that begins with a snapshot is one of the snapshot. -/
theorem mem_of_mem_tasks_ofSnapshot {rules : Rules} {snapshot : List Task} {task : Task}
    (member : task ∈ (ofSnapshot rules snapshot).tasks) : task ∈ snapshot := by
  suffices kept : ∀ ledger : Ledger, task ∈ (snapshot.foldl addTask ledger).tasks →
      task ∈ ledger.tasks ∨ task ∈ snapshot by
    exact (kept (empty rules) member).resolve_left List.not_mem_nil
  clear member
  induction snapshot with
  | nil => exact fun _ => .inl
  | cons first rest ih =>
      intro ledger member
      rcases ih (ledger.addTask first) member with put | later
      · rcases mem_putTask put with rfl | earlier
        · exact .inr List.mem_cons_self
        · exact .inl earlier
      · exact .inr (List.mem_cons_of_mem first later)

end Ledger

namespace CommandLine

variable (settings : Settings) (snapshot : List Task) (keyword : String)

/-- The rows of a quick search in a snapshot. -/
def quickRows : List Row :=
  (quickSearch (Ledger.ofSnapshot .standard snapshot).tasks keyword
    settings.search.quickSearchLimit).map fun task =>
      Row.ofTask task keyword settings.search.previewLength

theorem runQuick_ofSnapshot (asJson : Bool) :
    runQuick ⟨settings⟩ (.ofSnapshot .standard snapshot) asJson keyword =
      .ok (render asJson (.array ((quickRows settings snapshot keyword).map Row.encode))
        (quickLines (quickRows settings snapshot keyword))) := by
  have listed := Ledger.listTasks_ofSnapshot .standard snapshot
  rw [runQuick, App.quickSearch_of_listTasks ⟨settings⟩ listed]
  rfl

variable {settings snapshot keyword}

theorem build_of_validate (valid : settings.validate = .ok ()) :
    App.build true settings = .ok ⟨settings⟩ := by
  rw [App.build, if_pos rfl, valid]

/-- With settings and a snapshot that can be used, a run prints the rows of the quick search. -/
theorem runJob_quick (valid : settings.validate = .ok ()) {surroundings : Surroundings}
    {config : Option String} {path : String}
    (loaded : Settings.load surroundings.entryAt surroundings.environment config = .ok settings)
    (begun : loadLedger surroundings path = .ok (.ofSnapshot .standard snapshot)) (asJson : Bool) :
    runJob surroundings config path asJson (.quick keyword) =
      .ok (render asJson (.array ((quickRows settings snapshot keyword).map Row.encode))
        (quickLines (quickRows settings snapshot keyword))) := by
  have ran := runQuick_ofSnapshot settings snapshot keyword asJson
  rw [runJob, loaded, begun]
  change ((App.build true settings).mapError .unbuildable >>= fun app =>
    (runQuick app _ asJson keyword).mapError RunError.app) = _
  rw [build_of_validate valid]
  exact congrArg (Except.mapError RunError.app) ran

/-- A quick search prints rows of the tasks that mention the keyword without the white
space around it.  A row that shows the whole description highlights something exactly if
its task mentions the keyword as it was typed, and so always where no white space was
typed around it. -/
theorem quick_rows_highlighted_iff (settings : Settings) (valid : settings.validate = .ok ())
    (snapshot : List Task) (keyword : String) (asJson : Bool) :
    App.build true settings = .ok ⟨settings⟩ ∧
    runQuick ⟨settings⟩ (.ofSnapshot .standard snapshot) asJson keyword =
      .ok (render asJson (.array ((quickRows settings snapshot keyword).map Row.encode))
        (quickLines (quickRows settings snapshot keyword))) ∧
    (∀ surroundings config path,
      Settings.load surroundings.entryAt surroundings.environment config = .ok settings →
      loadLedger surroundings path = .ok (.ofSnapshot .standard snapshot) →
      runJob surroundings config path asJson (.quick keyword) =
        .ok (render asJson (.array ((quickRows settings snapshot keyword).map Row.encode))
          (quickLines (quickRows settings snapshot keyword)))) ∧
    ∀ row ∈ quickRows settings snapshot keyword, ∃ task ∈ snapshot,
      row = Row.ofTask task keyword settings.search.previewLength ∧
      task.mentions (Text.trim keyword) = true ∧
      (row.truncated = false →
        (row.hasMatch = true ↔ task.mentions keyword = true) ∧
        (Text.trim keyword = keyword → row.hasMatch = true)) := by
  refine ⟨build_of_validate valid, runQuick_ofSnapshot settings snapshot keyword asJson, ?_, ?_⟩
  · intro surroundings config path loaded begun
    exact runJob_quick valid loaded begun asJson
  · intro row member
    obtain ⟨task, found, rfl⟩ := List.mem_map.mp member
    obtain ⟨held, mentioned⟩ := mentions_trim_of_mem_quickSearch found
    refine ⟨task, Ledger.mem_of_mem_tasks_ofSnapshot held, rfl, mentioned, fun whole => ?_⟩
    rw [Row.hasMatch_ofTask (toList_ne_nil_of_mem_quickSearch found) whole]
    exact ⟨Iff.rfl, fun bare => bare ▸ mentioned⟩

/-- A task without description. -/
def reactApp : Task := .fresh ⟨1, Nat.one_pos⟩ "React app" ⟨"alice"⟩ .epoch

/-- A quick search in a snapshot of one task shows the task if it mentions the keyword
without the white space around it. -/
theorem quickRows_singleton {task : Task} (keyword : String)
    (named : Text.isAllBlank keyword = false)
    (mentioned : task.mentions (Text.trim keyword) = true) :
    quickRows .standard [task] keyword = [Row.ofTask task keyword 80] := by
  have accepted :
      Filters.accepts { Filters.empty with keyword := some (Text.trim keyword) } task = true := by
    simpa [Filters.accepts, Filters.empty, Filters.holds, Task.mentions] using mentioned
  have selected :
      Filters.select { Filters.empty with keyword := some (Text.trim keyword) } [task] = [task] :=
    List.filter_cons_of_pos accepted
  have held : (Ledger.ofSnapshot .standard [task]).tasks = [task] := rfl
  have found : quickSearch [task] keyword Settings.standard.search.quickSearchLimit = [task] := by
    rw [quickSearch, named, if_neg Bool.false_ne_true]
    simp only [selected, SortOrder.sort, List.mergeSort_singleton]
    rfl
  rw [quickRows, held, found]
  rfl

/-- A keyword without white space around it is highlighted where it is found. -/
theorem quick_rows_highlighted_iff_reactApp :
    Settings.standard.validate = .ok () ∧ quickRows .standard [reactApp] "react" ≠ [] ∧
      ∀ row ∈ quickRows .standard [reactApp] "react", row.truncated = false ∧
        row.hasMatch = true := by
  have valid : Settings.standard.validate = .ok () := by decide
  have rows := @quickRows_singleton reactApp "react" (by decide) (by decide)
  refine ⟨valid, ?_, ?_⟩
  · rw [rows]
    exact List.cons_ne_nil _ _
  · intro row member
    obtain ⟨task, _, _, _, highlighted⟩ :=
      (quick_rows_highlighted_iff .standard valid [reactApp] "react" true).2.2.2 row member
    have whole : row.truncated = false := by
      rw [rows, List.mem_singleton] at member
      rw [member]
      rfl
    exact ⟨whole, (highlighted whole).2 (by decide)⟩

/-- It is not true that every row with a whole description highlights something: with
white space around the keyword the task is found and nothing is highlighted. -/
theorem spacedKeyword_not_highlighted :
    Settings.standard.validate = .ok () ∧
      ∃ row ∈ quickRows .standard [reactApp] " React ",
        row.truncated = false ∧ row.hasMatch = false := by
  have rows := @quickRows_singleton reactApp " React " (by decide) (by decide)
  refine ⟨by decide, Row.ofTask reactApp " React " 80, ?_, rfl, ?_⟩
  · rw [rows]
    exact List.mem_singleton_self _
  · rw [Row.hasMatch_ofTask (by decide) rfl]
    decide

end CommandLine

end TaskBoard
