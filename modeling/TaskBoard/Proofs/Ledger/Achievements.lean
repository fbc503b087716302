import TaskBoard.Proofs.Ledger.Endings
import TaskBoard.Proofs.Ledger.Rewards

/-!
# Achievements

The achievers are kept apart from the reputations that count completed tasks, but both
change together: an account becomes an achiever when its first completed task is counted.
It is told so then and never again.
-/

namespace TaskBoard

namespace StatusChange

variable {ledger after : Ledger} {change : StatusChange} {completes : Bool} {events : List Event}

/-- The change counts a completed task for the account. -/
def Counts (change : StatusChange) (completes : Bool) (account : Account) : Prop :=
  completes = true ∧ change.promotion.map Promotion.account = some account

/-- The achiever is the account for which a completed task is counted, unless it is an
achiever already. -/
theorem Sound.achiever_eq_some_iff (sound : change.Sound ledger completes)
    {account : Account} :
    change.achiever = some account ↔
      change.Counts completes account ∧ account ∉ ledger.achievers := by
  rw [sound.achiever, Counts]
  cases completes with
  | false => simp
  | true => simp [Option.filter_eq_some_iff]

theorem Sound.completedTasks_of_counts (sound : change.Sound ledger completes)
    (seen : change.Seen ledger events after) {account : Account}
    (counts : change.Counts completes account) :
    0 < (after.reputation account).completedTasks.val := by
  obtain ⟨rfl, isAccount⟩ := counts
  obtain ⟨promotion, brought, rfl⟩ := Option.map_eq_some_iff.mp isAccount
  have stored := seen.reputation promotion.account
  rw [brought, Ledger.storePromotion?, Ledger.reputation_storePromotion, if_pos rfl] at stored
  have counted := sound.completedTasks promotion brought
  rw [if_pos rfl] at counted
  have grown := congrArg Bounded.val counted
  rw [Bounded.add_val] at grown
  have one : (1 : Word32).val = 1 := rfl
  rw [stored]
  omega

theorem Sound.completedTasks_of_not_counts (sound : change.Sound ledger completes)
    (seen : change.Seen ledger events after) {account : Account}
    (uncounted : ¬ change.Counts completes account) :
    (after.reputation account).completedTasks = (ledger.reputation account).completedTasks := by
  have stored := seen.reputation account
  cases brought : change.promotion with
  | none =>
      rw [brought] at stored
      exact congrArg Reputation.completedTasks stored
  | some promotion =>
      rw [brought, Ledger.storePromotion?, Ledger.reputation_storePromotion] at stored
      by_cases same : account = promotion.account
      · have incomplete : ¬ completes = true := by
          intro isComplete
          exact uncounted ⟨isComplete, by rw [brought, Option.map_some, same]⟩
        rw [if_pos same] at stored
        rw [stored, sound.completedTasks promotion brought, if_neg incomplete, same]
      · rw [if_neg same] at stored
        rw [stored]

end StatusChange

/-- The achievers are different accounts, and are those that have completed a task. -/
structure Ledger.Consistent (ledger : Ledger) : Prop where
  nodup : ledger.achievers.Nodup
  mem_iff : ∀ account,
    account ∈ ledger.achievers ↔ 0 < (ledger.reputation account).completedTasks.val

/-- The account completes its first task between a ledger and a later one. -/
def Ledger.FirstCompletion (ledger after : Ledger) (account : Account) : Prop :=
  (ledger.reputation account).completedTasks.val = 0 ∧
    0 < (after.reputation account).completedTasks.val

namespace Ledger.Consistent

variable {ledger after : Ledger} {change : StatusChange} {completes : Bool} {events : List Event}

/-- A sound change keeps achievers and counters together. -/
theorem of_seen (consistent : ledger.Consistent) (sound : change.Sound ledger completes)
    (seen : change.Seen ledger events after) : after.Consistent := by
  constructor
  · rw [seen.achievers, List.nodup_append]
    have single : change.achiever.toList.Nodup := by
      cases change.achiever with
      | none => exact List.nodup_nil
      | some account => exact List.nodup_singleton account
    refine ⟨consistent.nodup, single, ?_⟩
    rintro earlier isEarlier account isNew rfl
    exact (sound.achiever_eq_some_iff.mp (Option.mem_toList.mp isNew)).2 isEarlier
  · intro account
    rw [seen.achievers, List.mem_append, Option.mem_toList, sound.achiever_eq_some_iff]
    by_cases counts : change.Counts completes account
    · have counted := sound.completedTasks_of_counts seen counts
      by_cases isAchiever : account ∈ ledger.achievers
      · exact ⟨fun _ => counted, fun _ => .inl isAchiever⟩
      · exact ⟨fun _ => counted, fun _ => .inr ⟨counts, isAchiever⟩⟩
    · rw [sound.completedTasks_of_not_counts seen counts, ← consistent.mem_iff]
      constructor
      · rintro (isAchiever | ⟨isCounted, _⟩)
        · exact isAchiever
        · exact absurd isCounted counts
      · exact .inl

/-- The achiever of a change is the account that completes its first task. -/
theorem mem_achiever_iff (consistent : ledger.Consistent) (later : after.Consistent)
    (achievers : after.achievers = ledger.achievers ++ change.achiever.toList)
    (account : Account) :
    account ∈ change.achiever.toList ↔ ledger.FirstCompletion after account := by
  have disjoint := later.nodup
  rw [achievers, List.nodup_append] at disjoint
  have isNot : (ledger.reputation account).completedTasks.val = 0 ↔
      account ∉ ledger.achievers := by
    rw [consistent.mem_iff, Nat.pos_iff_ne_zero, not_not]
  rw [FirstCompletion, isNot, ← later.mem_iff, achievers, List.mem_append]
  constructor
  · intro isNew
    exact ⟨fun isEarlier => disjoint.2.2 account isEarlier account isNew rfl, .inr isNew⟩
  · rintro ⟨isNot, isEarlier | isNew⟩
    · exact absurd isEarlier isNot
    · exact isNew

end Ledger.Consistent

namespace History

theorem consistent (history : History) : history.ledger.Consistent := by
  induction history with
  | start rules snapshot =>
      rw [ledger, Ledger.ofSnapshot_eq]
      exact ⟨List.nodup_nil, fun account => ⟨List.not_mem_nil.elim, fun positive =>
        absurd positive (Nat.lt_irrefl 0)⟩⟩
  | next earlier occasion ih =>
      obtain ⟨change, completes, sound, seen⟩ := occasion.brings earlier.enumerates
      exact ih.of_seen sound seen

/-- The events have told of each achiever, in order. -/
theorem filterMap_achiever?_events (history : History) :
    history.events.filterMap Event.achiever? = history.ledger.achievers := by
  induction history with
  | start rules snapshot =>
      rw [ledger, Ledger.ofSnapshot_eq]
      rfl
  | next earlier occasion ih =>
      obtain ⟨change, completes, sound, seen⟩ := occasion.brings earlier.enumerates
      rw [events, ledger, List.filterMap_append, ih, seen.filterMap_achiever?, seen.achievers]

/-- The notifications tell of each achiever, in order. -/
theorem filterMap_addressee?_notifications (history : History) :
    history.ledger.notifications.filterMap (Notification.addressee? .achievementUnlocked) =
      history.ledger.achievers := by
  induction history with
  | start rules snapshot =>
      rw [ledger, Ledger.ofSnapshot_eq]
      rfl
  | next earlier occasion ih =>
      obtain ⟨change, completes, sound, seen⟩ := occasion.brings earlier.enumerates
      have posts := occasion.posts earlier.ledger
      rw [ledger, posts.filterMap_addressee? earlier.enumerates, ih, seen.notices, sound.unlocked,
        seen.achievers]

/-- An event tells of an achievement exactly when the first task is completed. -/
theorem achievementUnlocked_mem_iff (history : History) (occasion : Occasion)
    (account : Account) :
    (∃ achievement, .achievementUnlocked account achievement ∈
        occasion.published history.ledger) ↔
      history.ledger.FirstCompletion (history.next occasion).ledger account := by
  obtain ⟨change, completes, sound, seen⟩ := occasion.brings history.enumerates
  rw [← history.consistent.mem_achiever_iff (history.next occasion).consistent seen.achievers,
    ← seen.filterMap_achiever?, Event.mem_filterMap_achiever?]

/-- A notification of an achievement is stored exactly when the first task is completed. -/
theorem achievementUnlocked_told_iff (history : History) (occasion : Occasion)
    (account : Account) :
    (∃ notification ∈ history.ledger.newNotifications (history.next occasion).ledger,
        notification.kind = .achievementUnlocked ∧ notification.recipient = account) ↔
      history.ledger.FirstCompletion (history.next occasion).ledger account := by
  obtain ⟨change, completes, sound, seen⟩ := occasion.brings history.enumerates
  have told := (seen.notices .achievementUnlocked).trans sound.unlocked
  rw [← history.consistent.mem_achiever_iff (history.next occasion).consistent seen.achievers,
    ← told, Notification.mem_filterMap_addressee?]
  rfl

/-- No task is completed or cancelled twice, and each ending counts for one account: the
counters are the numbers of endings, and together they count no more than there are
completed and cancelled tasks.  The achievers are the accounts with a completed task, and
each is told so once by an event and once by a notification, both on the occasion on
which its first task is completed. -/
theorem completions_counted_once (history : History) :
    (history.endings.map Ending.task).Nodup ∧
    (∀ account,
      (history.ledger.reputation account).completedTasks.val =
          (history.endings.countP fun ending =>
            ending.account = account ∧ ending.outcome = .completed) ∧
        (history.ledger.reputation account).cancelledTasks.val =
          history.endings.countP fun ending =>
            ending.account = account ∧ ending.outcome = .cancelled) ∧
    (∀ accounts : Finset Account,
      ∑ account ∈ accounts, (history.ledger.reputation account).completedTasks.val ≤
          (history.ledger.tasks.countP fun task => task.status = .completed) ∧
        ∑ account ∈ accounts, (history.ledger.reputation account).cancelledTasks.val ≤
          history.ledger.tasks.countP fun task => task.status = .cancelled) ∧
    (∀ account,
      account ∈ history.ledger.achievers ↔
        0 < (history.ledger.reputation account).completedTasks.val) ∧
    (history.events.filterMap Event.achiever?).Nodup ∧
    (history.ledger.notifications.filterMap
      (Notification.addressee? .achievementUnlocked)).Nodup ∧
    ∀ occasion account,
      let published := ∃ achievement, .achievementUnlocked account achievement ∈
        occasion.published history.ledger
      let stored := ∃ notification ∈
        history.ledger.newNotifications (history.next occasion).ledger,
        notification.kind = .achievementUnlocked ∧ notification.recipient = account
      let first := (history.ledger.reputation account).completedTasks.val = 0 ∧
        0 < ((history.next occasion).ledger.reputation account).completedTasks.val
      (published ↔ first) ∧ (stored ↔ first) := by
  have distinct := history.consistent.nodup
  refine ⟨history.nodup_endings, ?_, ?_, history.consistent.mem_iff, ?_, ?_, ?_⟩
  · intro account
    exact ⟨history.tally_reputation account .completed,
      history.tally_reputation account .cancelled⟩
  · intro accounts
    exact ⟨history.sum_tally_le .completed accounts, history.sum_tally_le .cancelled accounts⟩
  · rw [history.filterMap_achiever?_events]
    exact distinct
  · rw [history.filterMap_addressee?_notifications]
    exact distinct
  · intro occasion account
    exact ⟨history.achievementUnlocked_mem_iff occasion account,
      history.achievementUnlocked_told_iff occasion account⟩

end History

end TaskBoard
