import TaskBoard.Proofs.Ledger.Entries
import TaskBoard.Proofs.Ledger.Ratings

/-!
# Independent calls

Two calls about different tasks that are not assigned to the same account do not touch
what the other one reads, save for the numbers of notifications.  So either may come
first: both are answered as before, and the ledgers that are reached differ only in the
order of what is kept and in those numbers.
-/

namespace TaskBoard

/-- The notification with the first number in place of its own. -/
def Notification.unnumbered (notification : Notification) : Notification :=
  { notification with id := ⟨1, Nat.one_pos⟩ }

/-- The numbers that notices are given do not show in what is told. -/
theorem Notice.map_unnumbered_numbered (now : Instant) (notices : List Notice) (last : Nat)
    (fits : last + notices.length ≤ 4294967295) :
    (numbered now notices last fits).map Notification.unnumbered =
      notices.map fun notice => notice.toNotification ⟨1, Nat.one_pos⟩ now := by
  induction notices generalizing last with
  | nil => rfl
  | cons notice rest ih =>
      rw [numbered, List.map_cons, List.map_cons, ih]
      rfl

namespace Ledger

/-- The ledgers are the same up to the order of what is kept of different tasks and
accounts, and up to the numbers of notifications. -/
structure Matches (left right : Ledger) : Prop where
  tasks : right.tasks = left.tasks
  lastTask : right.lastTask = left.lastTask
  ballots : ∀ id, right.ballotsOn id = left.ballotsOn id
  evaluations : ∀ id, right.evaluationsOf id = left.evaluationsOf id
  notifications : (right.notifications.map Notification.unnumbered).Perm
    (left.notifications.map Notification.unnumbered)
  lastNotification : right.lastNotification = left.lastNotification
  achievers : right.achievers.Perm left.achievers
  reputations : ∀ account,
    right.reputations.lookup account = left.reputations.lookup account
  rules : right.rules = left.rules
  offline : right.offline = left.offline

theorem Matches.refl (ledger : Ledger) : ledger.Matches ledger :=
  ⟨rfl, rfl, fun _ => rfl, fun _ => rfl, .refl _, rfl, .refl _, fun _ => rfl, rfl, rfl⟩

/-- What is kept under one key is found under it and under no other. -/
theorem filter_toList_key {α κ : Type} [DecidableEq κ] {key : α → κ} {own : κ}
    {item : Option α} (isOwn : ∀ kept ∈ item, key kept = own) (wanted : κ) :
    (item.toList.filter fun kept => key kept == wanted) =
      if wanted = own then item.toList else [] := by
  cases item with
  | none => simp
  | some kept =>
      have sameKey := isOwn kept rfl
      by_cases same : wanted = own
      · simp [sameKey, same]
      · simp [sameKey, same, Ne.symm same]

/-- The reputation that an entry stores for an account, if it stores one. -/
def Entry.reputationOf? {id : TaskId} {assignee : Option Account} (entry : Entry id assignee)
    (account : Account) : Option Reputation :=
  (entry.promotion.filter fun earned => earned.account == account).map Promotion.reputation

theorem Entry.reputationOf?_eq_none {id : TaskId} {assignee : Option Account}
    (entry : Entry id assignee) {account : Account} (other : assignee ≠ some account) :
    entry.reputationOf? account = none := by
  rw [reputationOf?, Option.map_eq_none_iff, Option.filter_eq_none_iff]
  intro earned brought same
  rw [← beq_iff_eq.mp same] at other
  exact other (entry.promotes earned brought)

section Entered

variable {id : TaskId} {assignee : Option Account} (ledger : Ledger) (entry : Entry id assignee)
variable (now : Instant)
variable (fits : ledger.lastNotification.val + entry.notices.length ≤ 4294967295)

theorem lastNotification_enter :
    (ledger.enter entry now fits).lastNotification.val =
      ledger.lastNotification.val + entry.notices.length :=
  rfl

theorem task?_enter {other : TaskId} (different : other ≠ id) :
    (ledger.enter entry now fits).task? other = ledger.task? other :=
  (task?_updateTask ledger id other entry.edit entry.keepsId).trans (if_neg different)

theorem ballotsOn_enter (other : TaskId) :
    (ledger.enter entry now fits).ballotsOn other =
      if other = id then
        (if entry.dropsBallots then [] else ledger.ballotsOn id) ++ entry.ballot.toList
      else ledger.ballotsOn other := by
  have kept := ledger.ballotsOn_ite_clearBallots (entry.dropsBallots = true) id other
  rw [ballotsOn] at kept
  rw [ballotsOn, enter, List.filter_append, kept, filter_toList_key entry.ballotOn]
  by_cases same : other = id
  · simp [same]
  · simp [same]

theorem evaluationsOf_enter (other : TaskId) :
    (ledger.enter entry now fits).evaluationsOf other =
      if other = id then ledger.evaluationsOf id ++ entry.evaluation.toList
      else ledger.evaluationsOf other := by
  rw [evaluationsOf, enter, List.filter_append, filter_toList_key entry.evaluationOf]
  by_cases same : other = id
  · simp [same, evaluationsOf]
  · simp [same, evaluationsOf]

theorem lookup_enter (account : Account) :
    (ledger.enter entry now fits).reputations.lookup account =
      (entry.reputationOf? account).or (ledger.reputations.lookup account) := by
  rw [enter, Entry.reputationOf?]
  cases entry.promotion with
  | none => rfl
  | some earned =>
      have stored := lookup_putReputation earned.account account earned.reputation
        ledger.reputations
      refine stored.trans ?_
      by_cases same : account = earned.account
      · simp [Option.filter_some, same]
      · simp [Option.filter_some, same, Ne.symm same]

theorem contains_achievers_enter {account : Account} (other : assignee ≠ some account) :
    (ledger.enter entry now fits).achievers.contains account =
      ledger.achievers.contains account := by
  have notNew : entry.achiever.toList.contains account = false := by
    cases unlocked : entry.achiever with
    | none => rfl
    | some achiever =>
        have isAssignee := entry.achieverIs achiever unlocked
        have different : account ≠ achiever := by
          rintro rfl
          exact other isAssignee
        simp [different]
  rw [enter, List.contains_append, notNew, Bool.or_false]

/-- An entry for one task is not seen by calls about a task of another assignee. -/
theorem agrees_enter {other : TaskId} (different : other ≠ id)
    (apart : ∀ account, ledger.assignee? other = some account → assignee ≠ some account) :
    ledger.Agrees other (ledger.enter entry now fits) where
  offline := rfl
  rules := rfl
  task := task?_enter ledger entry now fits different
  ballots := (ballotsOn_enter ledger entry now fits other).trans (if_neg different)
  evaluations := (evaluationsOf_enter ledger entry now fits other).trans (if_neg different)
  achievers account assigned :=
    contains_achievers_enter ledger entry now fits (apart account assigned)
  reputations account assigned := by
    rw [reputation, lookup_enter, entry.reputationOf?_eq_none (apart account assigned),
      Option.none_or, reputation]

end Entered

section Commuting

variable {firstId secondId : TaskId} {firstAssignee secondAssignee : Option Account}
variable (ledger : Ledger) (first : Entry firstId firstAssignee)
variable (second : Entry secondId secondAssignee) (now : Instant)

theorem changeTask_comm (different : firstId ≠ secondId) (tasks : List Task) :
    changeTask secondId second.edit (changeTask firstId first.edit tasks) =
      changeTask firstId first.edit (changeTask secondId second.edit tasks) := by
  rw [changeTask, changeTask, changeTask, changeTask, List.map_map, List.map_map]
  apply List.map_congr_left
  intro task _
  rw [Function.comp_apply, Function.comp_apply]
  by_cases isFirst : task.id = firstId
  · have notSecond : task.id ≠ secondId := isFirst ▸ different
    rw [if_pos isFirst, if_neg notSecond, if_pos isFirst, first.keepsId, if_neg notSecond]
  · by_cases isSecond : task.id = secondId
    · rw [if_neg isFirst, if_pos isSecond, second.keepsId, if_neg isFirst]
    · rw [if_neg isFirst, if_neg isSecond, if_neg isFirst]

/-- In either order two entries for different tasks and assignees lead to the same. -/
theorem enter_matches (different : firstId ≠ secondId)
    (apart : ∀ account, firstAssignee = some account → secondAssignee ≠ some account)
    {fitsFirst fitsSecond fitsFirstThen fitsSecondThen} :
    ((ledger.enter first now fitsFirst).enter second now fitsSecondThen).Matches
      ((ledger.enter second now fitsSecond).enter first now fitsFirstThen) where
  tasks := (changeTask_comm first second different ledger.tasks).symm
  lastTask := rfl
  ballots id := by
    simp only [ballotsOn_enter]
    by_cases isFirst : id = firstId
    · simp [isFirst, different]
    · simp [isFirst, Ne.symm different]
  evaluations id := by
    simp only [evaluationsOf_enter]
    by_cases isFirst : id = firstId
    · simp [isFirst, different]
    · simp [isFirst, Ne.symm different]
  notifications := by
    simp only [enter, numbered, List.map_append, Notice.map_unnumbered_numbered,
      List.append_assoc]
    exact List.perm_append_comm.append_left _
  lastNotification := Bounded.ext (Nat.add_right_comm _ _ _)
  achievers := by
    simp only [enter, List.append_assoc]
    exact List.perm_append_comm.append_left _
  reputations account := by
    simp only [lookup_enter]
    by_cases isFirst : firstAssignee = some account
    · rw [second.reputationOf?_eq_none (apart account isFirst), Option.none_or, Option.none_or]
    · rw [first.reputationOf?_eq_none isFirst, Option.none_or, Option.none_or]
  rules := rfl
  offline := rfl

theorem enter_congr {left right : Ledger} (same : right = left)
    (fits : right.lastNotification.val + first.notices.length ≤ 4294967295) :
    right.enter first now fits = left.enter first now (same ▸ fits) := by
  subst same
  rfl

end Commuting

end Ledger

namespace Command

variable {command : Command} {now : Instant} {ledger : Ledger} {id : TaskId}

/-- A call about a task is refused for good or leads to an entry, and does the same on every
ledger that agrees on the task; only numbers for notifications can make a difference. -/
theorem refused_or_enters (command : Command) (now : Instant) (ledger : Ledger)
    (target : command.target? = some id)
    (numbered : command.answer now ledger ≠ .error (.rejected .notificationIdsExhausted)) :
    (∃ refusal, ∀ other, ledger.Agrees id other →
      command.answer now other = .error refusal ∧ (command.run now other).2 = other) ∨
    ∃ entry : Ledger.Entry id (ledger.assignee? id),
      (∃ fits, (command.run now ledger).2 = ledger.enter entry now fits) ∧
      ∀ other, ledger.Agrees id other → command.Enters now other entry := by
  rcases ran : command.run now ledger with ⟨refusal | receipt, after⟩
  · refine .inl ⟨refusal, fun other agrees => ?_⟩
    have unchanged := ledger_eq_of_run_eq_error ran
    subst unchanged
    have otherwise : refusal ≠ .rejected .notificationIdsExhausted := by
      rintro rfl
      exact numbered (by rw [answer, ran]; rfl)
    have alsoRefused := run_eq_error_of_agrees target agrees ran otherwise
    rw [answer, alsoRefused]
    exact ⟨rfl, rfl⟩
  · exact .inr ((run_eq_ok_iff.mp ran).exists_entry target)

/-- What a call about one task leaves is the same for calls about every other task that is
not assigned to the same account. -/
theorem agrees_after {other : TaskId} (command : Command) (now : Instant) (ledger : Ledger)
    (target : command.target? = some id) (different : other ≠ id)
    (apart : ∀ account, ledger.assignee? other = some account →
      ledger.assignee? id ≠ some account) :
    ledger.Agrees other (command.run now ledger).2 := by
  rcases ran : command.run now ledger with ⟨refusal | receipt, after⟩
  · rw [ledger_eq_of_run_eq_error ran]
    exact .refl other ledger
  · obtain ⟨entry, ⟨fits, entered⟩, _⟩ := (run_eq_ok_iff.mp ran).exists_entry target
    rw [entered]
    exact ledger.agrees_enter entry now fits different apart

/-- Two calls about different tasks that are not assigned to the same account may come in
either order, if there are numbers for their notifications: each is answered as in the
other order, and the ledgers that are reached match. -/
theorem independent_calls_commute (ledger : Ledger) (now : Instant) (first second : Command)
    (firstTask secondTask : TaskId) (firstTarget : first.target? = some firstTask)
    (secondTarget : second.target? = some secondTask) (different : firstTask ≠ secondTask)
    (apart : ∀ account, ledger.assignee? firstTask = some account →
      ledger.assignee? secondTask ≠ some account)
    (firstNumbered :
      first.answer now ledger ≠ .error (.rejected .notificationIdsExhausted))
    (secondNumbered :
      second.answer now (first.run now ledger).2 ≠
        .error (.rejected .notificationIdsExhausted)) :
    let afterFirst := (first.run now ledger).2
    let afterSecond := (second.run now ledger).2
    first.answer now afterSecond = first.answer now ledger ∧
      second.answer now afterFirst = second.answer now ledger ∧
      (second.run now afterFirst).2.Matches (first.run now afterSecond).2 := by
  intro afterFirst afterSecond
  have seenByFirst : ledger.Agrees firstTask afterSecond :=
    second.agrees_after now ledger secondTarget different apart
  have seenBySecond : ledger.Agrees secondTask afterFirst :=
    first.agrees_after now ledger firstTarget different.symm
      fun account assigned isFirst => apart account isFirst assigned
  rcases first.refused_or_enters now ledger firstTarget firstNumbered with
    ⟨refusal, refused⟩ | ⟨firstEntry, ⟨fits, entered⟩, firstEnters⟩
  · -- A refused call writes nothing, so that only the second one does.
    obtain ⟨answer, kept⟩ := refused ledger (.refl firstTask ledger)
    obtain ⟨laterAnswer, laterKept⟩ := refused afterSecond seenByFirst
    have isSame : afterFirst = ledger := kept
    rw [isSame, laterKept, answer, laterAnswer]
    exact ⟨rfl, rfl, .refl afterSecond⟩
  · rcases second.refused_or_enters now afterFirst secondTarget secondNumbered with
      ⟨refusal, refused⟩ | ⟨secondEntry, ⟨fitsThen, _⟩, secondEnters⟩
    · obtain ⟨answer, kept⟩ := refused afterFirst (.refl secondTask afterFirst)
      obtain ⟨earlierAnswer, earlierKept⟩ := refused ledger seenBySecond.symm
      have isSame : afterSecond = ledger := earlierKept
      rw [isSame, kept, answer, earlierAnswer]
      exact ⟨rfl, rfl, .refl afterFirst⟩
    · have isFirst : afterFirst = ledger.enter firstEntry now fits := entered
      have numbers : afterFirst.lastNotification.val =
          ledger.lastNotification.val + firstEntry.notices.length := by
        rw [isFirst, Ledger.lastNotification_enter]
      have fitsSecond : ledger.lastNotification.val + secondEntry.notices.length ≤ 4294967295 := by
        omega
      obtain ⟨secondAnswer, secondEntered⟩ := secondEnters ledger seenBySecond.symm fitsSecond
      have isSecond : afterSecond = ledger.enter secondEntry now fitsSecond := secondEntered
      have laterNumbers : afterSecond.lastNotification.val =
          ledger.lastNotification.val + secondEntry.notices.length := by
        rw [isSecond, Ledger.lastNotification_enter]
      have fitsFirst : afterSecond.lastNotification.val + firstEntry.notices.length ≤
          4294967295 := by
        omega
      obtain ⟨firstAnswer, _⟩ := firstEnters ledger (.refl firstTask ledger) fits
      obtain ⟨laterFirst, enteredFirst⟩ := firstEnters afterSecond seenByFirst fitsFirst
      obtain ⟨laterSecond, enteredSecond⟩ :=
        secondEnters afterFirst (.refl secondTask afterFirst) fitsThen
      refine ⟨laterFirst.trans firstAnswer.symm, laterSecond.trans secondAnswer.symm, ?_⟩
      rw [enteredFirst, enteredSecond, Ledger.enter_congr _ _ isFirst,
        Ledger.enter_congr _ _ isSecond]
      apply ledger.enter_matches firstEntry secondEntry now different
      intro account assigned
      rw [seenBySecond.assignee]
      exact apart account assigned

/-- Two tasks of alice, on which bob and carol work. -/
def twoInProgress : Ledger :=
  let first := Task.fresh ⟨1, Nat.one_pos⟩ "Review" ⟨"alice"⟩ .epoch
  let second := Task.fresh ⟨2, Nat.two_pos⟩ "Release" ⟨"alice"⟩ .epoch
  .ofSnapshot .standard
    [{ first with assignee := some ⟨"bob"⟩, status := .inProgress },
      { second with assignee := some ⟨"carol"⟩, status := .inProgress }]

/-- Alice completes bob's task and cancels carol's.  The notifications stand in the order of
the calls, and that is all that shows it. -/
theorem independent_calls_commute_twoInProgress :
    let complete : Command := .changeStatus ⟨"alice"⟩ ⟨1, Nat.one_pos⟩ .completed
    let cancel : Command := .changeStatus ⟨"alice"⟩ ⟨2, Nat.two_pos⟩ .cancelled
    let afterComplete := (complete.run .epoch twoInProgress).2
    let afterCancel := (cancel.run .epoch twoInProgress).2
    complete.answer .epoch afterCancel = .ok none ∧
      cancel.answer .epoch afterComplete = .ok none ∧
      (cancel.run .epoch afterComplete).2.Matches (complete.run .epoch afterCancel).2 ∧
      (cancel.run .epoch afterComplete).2.notifications ≠
        (complete.run .epoch afterCancel).2.notifications := by
  intro complete cancel afterComplete afterCancel
  have apart (account : Account)
      (isFirst : twoInProgress.assignee? ⟨1, Nat.one_pos⟩ = some account) :
      twoInProgress.assignee? ⟨2, Nat.two_pos⟩ ≠ some account := by
    intro isSecond
    have same : some (⟨"bob"⟩ : Account) = some ⟨"carol"⟩ := isFirst.trans isSecond.symm
    exact absurd same (by decide)
  obtain ⟨completed, cancelled, matched⟩ :=
    independent_calls_commute twoInProgress .epoch complete cancel ⟨1, Nat.one_pos⟩
      ⟨2, Nat.two_pos⟩ rfl rfl (by decide) apart (by nofun) (by nofun)
  exact ⟨completed, cancelled, matched, by decide⟩

end Command

end TaskBoard
