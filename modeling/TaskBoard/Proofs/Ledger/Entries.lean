import TaskBoard.Proofs.Ledger.Footprint
import TaskBoard.Proofs.Ledger.Rewards

/-!
# What a call writes

An accepted call about a task enters something under the task, under its assignee, and
behind the notifications.  What it enters is found before anything is written, so the same
is entered on every ledger that agrees on the task.
-/

namespace TaskBoard

/-- What is entered for a task and its assignee: a change of the task, of the votes on it
and of its evaluations, and what is brought to the assignee. -/
structure Ledger.Entry (id : TaskId) (assignee : Option Account) extends StatusChange where
  edit : Task → Task
  dropsBallots : Bool := false
  ballot : Option Ballot := none
  evaluation : Option Evaluation := none
  keepsId : ∀ task, (edit task).id = task.id
  ballotOn : ∀ cast ∈ ballot, cast.task = id := by
    exact fun _ member => nomatch member
  evaluationOf : ∀ given ∈ evaluation, given.task = id := by
    exact fun _ member => nomatch member
  achieverIs : ∀ account ∈ achiever, assignee = some account
  promotes : ∀ earned ∈ promotion, assignee = some earned.account

namespace Ledger

variable {id : TaskId} {assignee : Option Account}

/-- The ledger with an entry. -/
def enter (ledger : Ledger) (entry : Entry id assignee) (now : Instant)
    (fits : ledger.lastNotification.val + entry.notices.length ≤ 4294967295) : Ledger :=
  { ledger with
    tasks := changeTask id entry.edit ledger.tasks
    ballots :=
      (if entry.dropsBallots then ledger.clearBallots id else ledger).ballots ++
        entry.ballot.toList
    evaluations := ledger.evaluations ++ entry.evaluation.toList
    notifications := ledger.notifications ++ ledger.numbered entry.notices now fits
    lastNotification := ⟨ledger.lastNotification.val + entry.notices.length, fits⟩
    achievers := ledger.achievers ++ entry.achiever.toList
    reputations := (ledger.storePromotion? entry.promotion).reputations }

end Ledger

/-! ## The entries of the calls -/

namespace StatusChange

variable {ledger : Ledger} {actor : Account} {task : Task} {status : Status} {now : Instant}

theorem assignee_of_mem_achiever :
    ∀ account ∈ (plan ledger actor task status now).achiever, task.assignee = some account :=
  fun _ achieves => (Option.filter_eq_some_iff.mp achieves).1

theorem assignee_of_mem_promotion :
    ∀ earned ∈ (plan ledger actor task status now).promotion,
      task.assignee = some earned.account :=
  fun _ earned => assignee_of_promotion? earned

end StatusChange

namespace Ledger.Entry

variable (id : TaskId) (assignee : Option Account) (now : Instant)

/-- The entry of an assignment. -/
def assignment (notice : Notice) (newAssignee : Account) : Entry id assignee where
  toStatusChange := .onlyNotices [notice]
  edit task := Task.touch { task with assignee := some newAssignee } now
  keepsId _ := rfl
  achieverIs _ member := nomatch member
  promotes _ member := nomatch member

/-- The entry of a vote that leaves the quorum unreached. -/
def vote (voter : Account) (approve : Bool) : Entry id assignee where
  toStatusChange := .onlyNotices []
  edit task := task
  ballot := some ⟨id, voter, approve⟩
  keepsId _ := rfl
  ballotOn := by
    rintro _ ⟨⟩
    rfl
  achieverIs _ member := nomatch member
  promotes _ member := nomatch member

/-- The entry of a change of status, with which votes may be dropped. -/
def move (change : StatusChange) (status : Status) (drops : Prop) [Decidable drops]
    (achieverIs : ∀ account ∈ change.achiever, assignee = some account)
    (promotes : ∀ earned ∈ change.promotion, assignee = some earned.account) :
    Entry id assignee where
  toStatusChange := change
  edit task := Task.touch { task with status } now
  dropsBallots := drops
  keepsId _ := rfl
  achieverIs
  promotes

/-- The entry of a rating. -/
def rating (promotion : Option Promotion) (rater : Account) (given : Word8) (comment : String)
    (promotes : ∀ earned ∈ promotion, assignee = some earned.account) : Entry id assignee where
  toStatusChange := .rating promotion
  edit task := task
  evaluation := some ⟨id, assignee, rater, given, comment, now⟩
  keepsId _ := rfl
  evaluationOf := by
    rintro _ ⟨⟩
    rfl
  achieverIs _ member := nomatch member
  promotes

end Ledger.Entry

namespace Ledger

variable (ledger : Ledger) (id : TaskId) (assignee : Option Account) (now : Instant)

theorem changeTask_self (tasks : List Task) : changeTask id (fun task => task) tasks = tasks := by
  simp [changeTask]

theorem enter_assignment (notice : Notice) (newAssignee : Account)
    (fits : ledger.lastNotification.val + [notice].length ≤ 4294967295) :
    ledger.enter (.assignment id assignee now notice newAssignee) now fits =
      (ledger.storeNotices [notice] now fits).updateTask id fun task =>
        Task.touch { task with assignee := some newAssignee } now := by
  simp [enter, Entry.assignment, StatusChange.onlyNotices, storeNotices, updateTask,
    storePromotion?]

theorem enter_vote (voter : Account) (approve : Bool)
    (fits : ledger.lastNotification.val + ([] : List Notice).length ≤ 4294967295) :
    ledger.enter (.vote id assignee voter approve) now fits =
      ledger.castBallot ⟨id, voter, approve⟩ := by
  simp [enter, Entry.vote, StatusChange.onlyNotices, castBallot, storePromotion?,
    changeTask_self, numbered, Notice.numbered]

theorem enter_move (change : StatusChange) (status : Status) (drops : Prop) [Decidable drops]
    (achieverIs : ∀ account ∈ change.achiever, assignee = some account)
    (promotes : ∀ earned ∈ change.promotion, assignee = some earned.account)
    (fits : ledger.lastNotification.val + change.notices.length ≤ 4294967295) :
    ledger.enter (.move id assignee now change status drops achieverIs promotes) now fits =
      let changed := ledger.applyChange id status now change fits
      if drops then changed.clearBallots id else changed := by
  rw [applyChange_eq]
  by_cases dropped : drops
  · simp [enter, Entry.move, clearBallots, dropped]
  · simp [enter, Entry.move, dropped]

theorem enter_rating (promotion : Option Promotion) (rater : Account) (given : Word8)
    (comment : String) (promotes : ∀ earned ∈ promotion, assignee = some earned.account)
    (fits : ledger.lastNotification.val + (promotion.toList.flatMap Promotion.notices).length ≤
      4294967295) :
    ledger.enter (.rating id assignee now promotion rater given comment promotes) now fits =
      ((ledger.storeNotices (promotion.toList.flatMap Promotion.notices) now
        fits).addEvaluation ⟨id, assignee, rater, given, comment, now⟩).storePromotion?
          promotion := by
  cases promotion with
  | none =>
      simp [enter, Entry.rating, StatusChange.rating, storeNotices, addEvaluation,
        storePromotion?, changeTask_self]
  | some promotion =>
      simp [enter, Entry.rating, StatusChange.rating, storeNotices, addEvaluation,
        storePromotion?, storePromotion, changeTask_self]

end Ledger

/-! ## What accepted calls enter -/

namespace Command

variable {command : Command} {now : Instant} {ledger after : Ledger} {id : TaskId}
variable {receipt : Receipt (Option TaskId)} {assignee : Option Account}

/-- What a call answers. -/
def answer (command : Command) (now : Instant) (ledger : Ledger) :
    Except Refusal (Option TaskId) :=
  (command.run now ledger).1.map Receipt.answer

/-- The call is accepted and leads to the entry, as far as there are numbers for its
notices. -/
def Enters (command : Command) (now : Instant) (ledger : Ledger)
    (entry : Ledger.Entry id assignee) : Prop :=
  ∀ fits, command.answer now ledger = .ok none ∧
    (command.run now ledger).2 = ledger.enter entry now fits

theorem answer_of_accepted (accepted : Accepted now ledger command receipt after)
    (target : command.target? = some id) :
    command.answer now ledger = .ok none ∧ (command.run now ledger).2 = after := by
  rw [answer, run_eq_ok_iff.mpr accepted]
  cases accepted with
  | create | markRead => cases target
  | assign | changeStatus | ballot | verdict | evaluate => exact ⟨rfl, rfl⟩

/-- A rule leads to an entry if it writes what the entry does. -/
theorem entered_of_accepted {entry : Ledger.Entry id assignee}
    {fits : ledger.lastNotification.val + entry.notices.length ≤ 4294967295}
    (target : command.target? = some id) (entered : ledger.enter entry now fits = after)
    (accepted : Accepted now ledger command receipt after) :
    command.answer now ledger = .ok none ∧
      (command.run now ledger).2 = ledger.enter entry now fits := by
  rw [entered]
  exact answer_of_accepted accepted target

/-- An accepted call about a task leads to an entry for the task, and to the same one on
every ledger that agrees on the task. -/
theorem Accepted.exists_entry (accepted : Accepted now ledger command receipt after)
    (target : command.target? = some id) :
    ∃ entry : Ledger.Entry id (ledger.assignee? id),
      (∃ fits, after = ledger.enter entry now fits) ∧
      ∀ other, ledger.Agrees id other → command.Enters now other entry := by
  cases accepted with
  | create | markRead => cases target
  | @assign signer assignee _ task online found byCreator toOther unassigned fits =>
      cases target
      let notice := Notice.assignment task assignee
      refine ⟨.assignment id _ now notice assignee,
        ⟨fits, (ledger.enter_assignment id _ now notice assignee fits).symm⟩, ?_⟩
      intro other agrees fitsOther
      apply entered_of_accepted rfl (other.enter_assignment id _ now notice assignee fitsOther)
      exact .assign (agrees.offline.trans online) (agrees.task.trans found) byCreator toOther
        unassigned fitsOther
  | @changeStatus signer _ status task online found byParty allowed fits =>
      cases target
      rw [Ledger.assignee?_of_task?_eq_some found]
      let entry : Ledger.Entry id task.assignee :=
        .move id _ now (.plan ledger signer task status now) status
          (status = .pendingVerification) StatusChange.assignee_of_mem_achiever
          StatusChange.assignee_of_mem_promotion
      refine ⟨entry, ⟨fits, (ledger.enter_move id _ now _ status _ _ _ fits).symm⟩, ?_⟩
      intro other agrees fitsOther
      have accepted := @Accepted.changeStatus now other signer id status task
        (agrees.offline.trans online) (agrees.task.trans found) byParty allowed
      rw [agrees.plan found] at accepted
      exact entered_of_accepted rfl (other.enter_move id _ now _ status _ _ _ fitsOther)
        (accepted fitsOther)
  | @ballot signer _ approve task online found pending notCreator notAssignee firstVote short =>
      cases target
      have fits : ledger.lastNotification.val + ([] : List Notice).length ≤ 4294967295 :=
        ledger.lastNotification.le_limit
      refine ⟨.vote id _ signer approve,
        ⟨fits, (ledger.enter_vote id _ now signer approve fits).symm⟩, ?_⟩
      intro other agrees fitsOther
      rw [← agrees.ballots] at firstVote short
      apply entered_of_accepted rfl (other.enter_vote id _ now signer approve fitsOther)
      exact .ballot (agrees.offline.trans online) (agrees.task.trans found) pending notCreator
        notAssignee firstVote short
  | @verdict signer _ approve task outcome online found pending notCreator notAssignee firstVote
      full counted fits =>
      cases target
      rw [Ledger.assignee?_of_task?_eq_some found]
      let entry : Ledger.Entry id task.assignee :=
        .move id _ now (.plan ledger signer task outcome now) outcome True
          StatusChange.assignee_of_mem_achiever StatusChange.assignee_of_mem_promotion
      refine ⟨entry, ⟨fits, (ledger.enter_move id _ now _ outcome True _ _ fits).symm⟩, ?_⟩
      intro other agrees fitsOther
      rw [← agrees.ballots] at firstVote full counted
      have accepted := @Accepted.verdict now other signer id approve task outcome
        (agrees.offline.trans online) (agrees.task.trans found) pending notCreator notAssignee
        firstVote full counted
      rw [agrees.plan found] at accepted
      exact entered_of_accepted rfl (other.enter_move id _ now _ outcome True _ _ fitsOther)
        (accepted fitsOther)
  | @evaluate signer _ rating comment task promotion inRange online found completed notAssignee
      firstRating earned fits =>
      cases target
      rw [Ledger.assignee?_of_task?_eq_some found]
      have promotes : ∀ raised ∈ promotion, task.assignee = some raised.account :=
        fun _ isRaised => StatusChange.assignee_of_ratingPromotion? (earned.symm.trans isRaised)
      refine ⟨.rating id _ now promotion signer rating comment promotes,
        ⟨fits, (ledger.enter_rating id _ now promotion signer rating comment promotes fits).symm⟩,
        ?_⟩
      intro other agrees fitsOther
      rw [← agrees.evaluations] at firstRating
      rw [← agrees.ratingPromotion? found] at earned
      apply entered_of_accepted rfl
        (other.enter_rating id _ now promotion signer rating comment promotes fitsOther)
      exact .evaluate inRange (agrees.offline.trans online) (agrees.task.trans found) completed
        notAssignee firstRating earned fitsOther

end Command

end TaskBoard
