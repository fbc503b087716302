import Mathlib.Data.List.Nodup
import TaskBoard.Proofs.Ledger.Effect

/-!
# Ratings

Everybody but the assignee may rate a completed task, and once.  A completed task may
still be assigned, though, and its evaluations stay: an account that has rated a task is
its assignee exactly if the account rated first and was assigned afterwards.
-/

namespace TaskBoard

theorem Ledger.evaluationsOf_addEvaluation (ledger : Ledger) (evaluation : Evaluation)
    (id : TaskId) :
    (ledger.addEvaluation evaluation).evaluationsOf id =
      ledger.evaluationsOf id ++ if evaluation.task = id then [evaluation] else [] := by
  by_cases same : evaluation.task = id
  · simp [evaluationsOf, addEvaluation, same]
  · simp [evaluationsOf, addEvaluation, same]

theorem Ledger.evaluationsOf_applyChange {ledger : Ledger} {id : TaskId} {status : Status}
    {now : Instant} {change : StatusChange}
    (fits : ledger.lastNotification.val + change.notices.length ≤ 4294967295) (other : TaskId) :
    (ledger.applyChange id status now change fits).evaluationsOf other =
      ledger.evaluationsOf other := by
  rw [evaluationsOf, evaluations_applyChange, evaluationsOf]

theorem Ledger.evaluationsOf_storePromotion? (ledger : Ledger) (promotion : Option Promotion)
    (id : TaskId) :
    (ledger.storePromotion? promotion).evaluationsOf id = ledger.evaluationsOf id := by
  rw [storePromotion?_eq]
  rfl

namespace Occasion

/-- The account whose rating of a task is accepted on the occasion. -/
def rater? (occasion : Occasion) (ledger : Ledger) (id : TaskId) : Option Account :=
  match occasion with
  | call (.evaluate signer task rating comment) now =>
      if task = id ∧ (Command.evaluate signer task rating comment).isAccepted now ledger then
        some signer
      else none
  | _ => none

theorem rater?_of_isAccepted {signer : Account} {id : TaskId} {rating : Word8}
    {comment : String} {now : Instant} {ledger : Ledger}
    (accepted : (Command.evaluate signer id rating comment).isAccepted now ledger = true) :
    (call (.evaluate signer id rating comment) now).rater? ledger id = some signer :=
  if_pos ⟨rfl, accepted⟩

/-- What an occasion can do to the evaluations of a task. -/
inductive Rates (ledger : Ledger) (id : TaskId) : Occasion → Ledger → Prop where
  | untouched {occasion : Occasion} {after : Ledger}
      (same : after.evaluationsOf id = ledger.evaluationsOf id)
      (noRater : occasion.rater? ledger id = none) :
      Rates ledger id occasion after
  | rated {signer : Account} {rating : Word8} {comment : String} {now : Instant} {after : Ledger}
      (notAssignee : ledger.assignee? id ≠ some signer)
      (firstRating : ∀ evaluation ∈ ledger.evaluationsOf id, evaluation.evaluator ≠ signer)
      (stored : after.evaluationsOf id =
        ledger.evaluationsOf id ++ [⟨id, ledger.assignee? id, signer, rating, comment, now⟩])
      (accepted : (Command.evaluate signer id rating comment).isAccepted now ledger = true) :
      Rates ledger id (.call (.evaluate signer id rating comment) now) after

theorem rates_of_accepted {now : Instant} {ledger after : Ledger} {command : Command}
    {receipt : Receipt (Option TaskId)}
    (call : Command.Accepted now ledger command receipt after) (id : TaskId) :
    Rates ledger id (.call command now) after := by
  have accepted := call.isAccepted
  cases call with
  | create | assign | ballot | markRead => exact .untouched rfl rfl
  | changeStatus online found byParty allowed fits =>
      refine .untouched ?_ rfl
      rw [Ledger.read_ite_clearBallots _ _ _ (fun reached => reached.evaluationsOf id) rfl]
      exact Ledger.evaluationsOf_applyChange fits id
  | verdict online found pending notCreator notAssignee firstVote full counted fits =>
      exact .untouched (Ledger.evaluationsOf_applyChange fits id) rfl
  | @evaluate signer target rating comment task promotion inRange online found completed
      notAssignee firstRating earned fits =>
      have added := (ledger.storeNotices _ now fits).evaluationsOf_addEvaluation
        ⟨target, task.assignee, signer, rating, comment, now⟩ id
      rw [← Ledger.evaluationsOf_storePromotion? _ promotion] at added
      by_cases same : target = id
      · subst same
        have isAssignee := Ledger.assignee?_of_task?_eq_some found
        rw [if_pos rfl] at added
        refine .rated (isAssignee ▸ notAssignee) firstRating ?_ accepted
        rw [isAssignee]
        exact added
      · rw [if_neg same, List.append_nil] at added
        exact .untouched added (by simp [rater?, same])

theorem rates (occasion : Occasion) (ledger : Ledger) (id : TaskId) :
    Rates ledger id occasion (occasion.after ledger) := by
  have outcome := occasion.outcome ledger
  generalize occasion.published ledger = events, occasion.after ledger = reached at outcome ⊢
  cases outcome with
  | @refused command now refusal refused =>
      refine .untouched rfl ?_
      have unaccepted := Command.isAccepted_of_run_eq_error refused
      cases command with
      | evaluate signer target rating comment => simp [rater?, unaccepted]
      | create | assign | changeStatus | vote | markRead => rfl
  | accepted call => exact rates_of_accepted call id
  | connection => exact .untouched rfl rfl

end Occasion

namespace History

/-- The accounts that have rated a task, in order. -/
def raters (id : TaskId) : History → List Account
  | start _ _ => []
  | next earlier occasion =>
      earlier.raters id ++ (occasion.rater? earlier.ledger id).toList

/-- The account rated a task and was assigned to the task later. -/
def AssignedAfterRating (id : TaskId) (account : Account) : History → Prop
  | start _ _ => False
  | next earlier occasion =>
      earlier.AssignedAfterRating id account ∨
        occasion.assignee? earlier.ledger id = some account ∧ account ∈ earlier.raters id

/-- The evaluations that are stored for a task are those that were accepted. -/
theorem map_evaluator_evaluationsOf (history : History) (id : TaskId) :
    (history.ledger.evaluationsOf id).map Evaluation.evaluator = history.raters id := by
  induction history with
  | start rules snapshot =>
      rw [ledger, Ledger.evaluationsOf, Ledger.ofSnapshot_eq]
      rfl
  | next earlier occasion ih =>
      have rates := occasion.rates earlier.ledger id
      rw [ledger, raters, ← ih]
      generalize occasion.after earlier.ledger = reached at rates ⊢
      cases rates with
      | untouched same noRater => rw [same, noRater, Option.toList_none, List.append_nil]
      | rated notAssignee firstRating stored accepted =>
          rw [stored, List.map_append, Occasion.rater?_of_isAccepted accepted]
          rfl

theorem nodup_raters (history : History) (id : TaskId) : (history.raters id).Nodup := by
  induction history with
  | start rules snapshot => exact List.nodup_nil
  | next earlier occasion ih =>
      have rates := occasion.rates earlier.ledger id
      rw [raters]
      generalize occasion.after earlier.ledger = reached at rates
      cases rates with
      | untouched same noRater =>
          rw [noRater, Option.toList_none, List.append_nil]
          exact ih
      | @rated signer rating comment now _ notAssignee firstRating stored accepted =>
          have isNew : signer ∉ earlier.raters id := by
            rw [← earlier.map_evaluator_evaluationsOf, List.mem_map]
            rintro ⟨evaluation, member, same⟩
            exact firstRating evaluation member same
          rw [Occasion.rater?_of_isAccepted accepted, Option.toList_some,
            ← List.concat_eq_append, List.nodup_concat]
          exact ⟨isNew, ih⟩

/-- No rating is stored for the work of the account that gave it. -/
theorem assignee_ne_evaluator (history : History) {id : TaskId} {evaluation : Evaluation}
    (member : evaluation ∈ history.ledger.evaluationsOf id) :
    evaluation.assignee ≠ some evaluation.evaluator := by
  induction history with
  | start rules snapshot =>
      rw [ledger, Ledger.evaluationsOf, Ledger.ofSnapshot_eq] at member
      cases member
  | next earlier occasion ih =>
      have rates := occasion.rates earlier.ledger id
      rw [ledger] at member
      generalize occasion.after earlier.ledger = reached at rates member
      cases rates with
      | untouched same =>
          rw [same] at member
          exact ih member
      | rated notAssignee firstRating stored accepted =>
          rw [stored] at member
          rcases List.mem_append.mp member with isEarlier | isNew
          · exact ih isEarlier
          · rw [List.mem_singleton.mp isNew]
            exact notAssignee

/-- An account that has rated a task is its assignee exactly if it was assigned after that. -/
theorem assignedAfterRating_iff (history : History) (id : TaskId) (account : Account) :
    history.AssignedAfterRating id account ↔
      history.ledger.assignee? id = some account ∧ account ∈ history.raters id := by
  induction history with
  | start rules snapshot => simp [AssignedAfterRating, raters]
  | next earlier occasion ih =>
      rw [AssignedAfterRating, ih, raters, ledger, List.mem_append, Option.mem_toList]
      rcases occasion.assignee?_after earlier.numbered id with
        ⟨kept, nobody⟩ | ⟨unassigned, assignee, assigned, isAssignee⟩
      · -- The assignee stays, so it is none of the accounts that rate on the occasion.
        have notRater (isAssignee : earlier.ledger.assignee? id = some account) :
            occasion.rater? earlier.ledger id ≠ some account := by
          have rates := occasion.rates earlier.ledger id
          generalize occasion.after earlier.ledger = reached at rates
          cases rates with
          | untouched same noRater => simp [noRater]
          | rated notAssignee firstRating stored accepted =>
              rw [Occasion.rater?_of_isAccepted accepted]
              rintro ⟨⟩
              exact notAssignee isAssignee
        rw [kept, nobody]
        constructor
        · rintro (⟨isAssignee, rated⟩ | ⟨⟨⟩, _⟩)
          exact ⟨isAssignee, .inl rated⟩
        · rintro ⟨isAssignee, rated | rates⟩
          · exact .inl ⟨isAssignee, rated⟩
          · exact absurd rates (notRater isAssignee)
      · -- An occasion on which somebody is assigned is not one on which somebody rates.
        have noRater : occasion.rater? earlier.ledger id = none := by
          cases occasion with
          | connection => rfl
          | call command now =>
              cases command with
              | evaluate => cases assigned
              | create | assign | changeStatus | vote | markRead => rfl
        rw [unassigned, assigned, isAssignee, noRater]
        simp

/-- The evaluations of a task come from different accounts.  None is a rating by the
account that was assigned when it was given; an account with a stored evaluation is the
assignee exactly if it was assigned to the task after it had rated it. -/
theorem assignee_rated_iff (history : History) (id : TaskId) :
    ((history.ledger.evaluationsOf id).map Evaluation.evaluator).Nodup ∧
    (∀ evaluation ∈ history.ledger.evaluationsOf id,
      evaluation.assignee ≠ some evaluation.evaluator) ∧
    ∀ account,
      (history.ledger.assignee? id = some account ∧
          ∃ evaluation ∈ history.ledger.evaluationsOf id, evaluation.evaluator = account) ↔
        history.AssignedAfterRating id account := by
  have stored := history.map_evaluator_evaluationsOf id
  refine ⟨?_, fun evaluation member => history.assignee_ne_evaluator member, fun account => ?_⟩
  · rw [stored]
    exact history.nodup_raters id
  · rw [assignedAfterRating_iff, ← stored, List.mem_map]

/-- Bob rates a completed task that nobody is assigned to, and is assigned to it then. -/
def assignedRater : History :=
  let task := Task.fresh ⟨1, Nat.one_pos⟩ "Review" ⟨"alice"⟩ .epoch
  (start .standard [{ task with status := .completed }]).extend
    [.call (.evaluate ⟨"bob"⟩ task.id 5 "") .epoch,
      .call (.assign ⟨"alice"⟩ task.id ⟨"bob"⟩) .epoch]

/-- Bob was assigned after rating, so bob's evaluation is one of the assignee's; when it was
given, it was not. -/
theorem assignee_rated_iff_assignedRater :
    let id : TaskId := ⟨1, Nat.one_pos⟩
    assignedRater.AssignedAfterRating id ⟨"bob"⟩ ∧
      ∃ evaluation ∈ assignedRater.ledger.evaluationsOf id, evaluation.evaluator = ⟨"bob"⟩ ∧
        evaluation.assignee ≠ some ⟨"bob"⟩ := by
  intro id
  obtain ⟨_, byOther, assigned⟩ := assignedRater.assignee_rated_iff id
  have member : ⟨id, none, ⟨"bob"⟩, 5, "", .epoch⟩ ∈ assignedRater.ledger.evaluationsOf id :=
    List.mem_cons_self
  exact ⟨(assigned ⟨"bob"⟩).mp ⟨rfl, _, member, rfl⟩, _, member, rfl, byOther _ member⟩

/-- It is not true that no evaluation comes from the assignee: the mean rating of bob's
task is the five that bob gave. -/
theorem assignedRater_rated :
    let id : TaskId := ⟨1, Nat.one_pos⟩
    ∃ evaluation ∈ assignedRater.ledger.evaluationsOf id,
      assignedRater.ledger.assignee? id = some evaluation.evaluator ∧
        assignedRater.ledger.averageRating id = Double.average 5 1 :=
  ⟨⟨⟨1, Nat.one_pos⟩, none, ⟨"bob"⟩, 5, "", .epoch⟩, List.mem_cons_self, rfl, rfl⟩

end History

end TaskBoard
