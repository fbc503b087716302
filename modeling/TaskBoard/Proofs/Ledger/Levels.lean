import TaskBoard.Proofs.Ledger.Rewards
import TaskBoard.Proofs.Reputation.Bands

/-!
# Levels

A reputation is stored with its level, and a higher level is told twice: by a notice
before the ledger is written and by an event after it.  Both look at the level that is
stored and not at the score, but the stored level always is the level of the score.  So
both tell of an account exactly if its score comes to a higher level.
-/

namespace TaskBoard

/-- The level that the score of an account has on the ledger. -/
def Ledger.levelOf (ledger : Ledger) (account : Account) : Level :=
  .ofScore (ledger.reputation account).totalScore.val

namespace Ledger

theorem mem_putReputation {account : Account} {reputation : Reputation}
    {entry : Account × Reputation} {reputations : List (Account × Reputation)}
    (member : entry ∈ putReputation account reputation reputations) :
    entry = (account, reputation) ∨ entry ∈ reputations := by
  induction reputations with
  | nil => exact .inl (List.mem_singleton.mp member)
  | cons first rest ih =>
      obtain ⟨owner, kept⟩ := first
      rw [putReputation] at member
      split at member
      · rw [List.mem_cons] at member
        exact member.imp_right (List.mem_cons_of_mem _)
      · rcases List.mem_cons.mp member with rfl | inRest
        · exact .inr List.mem_cons_self
        · exact (ih inRest).imp_right (List.mem_cons_of_mem _)

/-- Every reputation is stored with the level of its score. -/
def Leveled (ledger : Ledger) : Prop :=
  ∀ entry ∈ ledger.reputations, entry.2.level = Level.ofScore entry.2.totalScore.val

variable {ledger after : Ledger} {change : StatusChange} {completes : Bool} {events : List Event}

theorem Leveled.level_reputation (leveled : ledger.Leveled) (account : Account) :
    (ledger.reputation account).level = ledger.levelOf account := by
  rw [levelOf, reputation]
  cases found : ledger.reputations.lookup account with
  | none => rfl
  | some kept =>
      obtain ⟨before, behind, split, _⟩ := List.lookup_eq_some_iff.mp found
      have member : (account, kept) ∈ ledger.reputations := by
        rw [split]
        exact List.mem_append_cons_self
      exact leveled _ member

theorem levelOf_congr {account : Account}
    (same : after.reputation account = ledger.reputation account) :
    after.levelOf account = ledger.levelOf account := by
  rw [levelOf, levelOf, same]

/-- A sound change stores the level of the new score. -/
theorem Leveled.of_seen (leveled : ledger.Leveled) (sound : change.Sound ledger completes)
    (seen : change.Seen ledger events after) : after.Leveled := by
  intro entry member
  rw [seen.reputations] at member
  cases brought : change.promotion with
  | none =>
      rw [brought] at member
      exact leveled entry member
  | some promotion =>
      rw [brought] at member
      rcases mem_putReputation member with rfl | isOld
      · have updates := sound.updates promotion brought
        rw [sound.level promotion brought, updates.newLevel, updates.newScore]
      · exact leveled entry isOld

end Ledger

/-- A promotion leads to a higher level exactly if its new score has one. -/
theorem StatusChange.Sound.leveledUp_iff {ledger : Ledger} {change : StatusChange}
    {completes : Bool} {promotion : Promotion} (sound : change.Sound ledger completes)
    (leveled : ledger.Leveled) (brought : change.promotion = some promotion) :
    promotion.change.leveledUp = true ↔
      (ledger.levelOf promotion.account).rank <
        (Level.ofScore promotion.reputation.totalScore.val).rank := by
  have updates := sound.updates promotion brought
  have newLevel : promotion.change.newLevel =
      Level.ofScore promotion.reputation.totalScore.val :=
    updates.newLevel.trans (congrArg (fun score => Level.ofScore score.val) updates.newScore)
  rw [ScoreChange.leveledUp, decide_eq_true_iff, newLevel, sound.oldLevel promotion brought,
    leveled.level_reputation]

/-- The account that a change raises is the one whose score comes to a higher level. -/
theorem StatusChange.climber?_eq_some_iff {ledger after : Ledger} {change : StatusChange}
    {completes : Bool} {events : List Event} (leveled : ledger.Leveled)
    (sound : change.Sound ledger completes) (seen : change.Seen ledger events after)
    (account : Account) :
    change.promotion.bind Promotion.climber? = some account ↔
      (ledger.levelOf account).rank < (after.levelOf account).rank := by
  have score := seen.reputation account
  cases brought : change.promotion with
  | none =>
      rw [brought] at score
      rw [Ledger.levelOf_congr score]
      constructor
      · rintro ⟨⟩
      · intro higher
        exact absurd higher (Nat.lt_irrefl _)
  | some promotion =>
      rw [brought, Ledger.storePromotion?, Ledger.reputation_storePromotion] at score
      rw [Option.bind_some, Promotion.climber?_eq_some_iff, sound.leveledUp_iff leveled brought]
      by_cases same : account = promotion.account
      · subst same
        rw [if_pos rfl] at score
        rw [← score, ← Ledger.levelOf]
        exact and_iff_left rfl
      · rw [if_neg same] at score
        rw [Ledger.levelOf_congr score]
        constructor
        · rintro ⟨_, isAccount⟩
          exact absurd isAccount.symm same
        · intro higher
          exact absurd higher (Nat.lt_irrefl _)

namespace Occasion

/-- A task is cancelled only by a call that says so. -/
theorem eq_cancel_of_status? {ledger : Ledger} (numbered : ledger.Numbered) {id : TaskId}
    {task : Task} (found : ledger.task? id = some task) (uncancelled : task.status ≠ .cancelled)
    {occasion : Occasion}
    (cancelled : (occasion.after ledger).status? id = some .cancelled) :
    ∃ signer now, occasion = call (.changeStatus signer id .cancelled) now := by
  obtain ⟨later, stored, moved⟩ := status_after numbered found occasion
  have reached : later.status = .cancelled :=
    Option.some.inj ((Ledger.status?_of_task?_eq_some stored).symm.trans cancelled)
  rw [reached] at moved
  rcases moved with kept | ⟨allowed, moves⟩
  · exact absurd kept.symm uncancelled
  · obtain rfl := Ledger.id_of_task?_eq_some found
    cases moves with
    | byParty => exact ⟨_, _, rfl⟩
    | byVerdict pending =>
        rw [pending] at allowed
        exact absurd allowed (by decide)

/-- Nobody's score rises when a task is cancelled. -/
theorem totalScore_after_cancel_le (ledger : Ledger) (signer : Account) (id : TaskId)
    (now : Instant) (account : Account) :
    (((call (.changeStatus signer id .cancelled) now).after ledger).reputation
        account).totalScore.val ≤ (ledger.reputation account).totalScore.val := by
  have outcome := (call (.changeStatus signer id .cancelled) now).outcome ledger
  generalize (call (.changeStatus signer id .cancelled) now).published ledger = events,
    (call (.changeStatus signer id .cancelled) now).after ledger = reached at outcome ⊢
  cases outcome with
  | refused => exact Nat.le_refl _
  | accepted accepted =>
      cases accepted with
      | @changeStatus _ _ _ task online found byParty allowed fits =>
          have recorded : (ledger.applyChange id .cancelled now
              (StatusChange.plan ledger signer task .cancelled now) fits).reputation account = _ :=
            Ledger.reputation_applyChange (Status.ne_of_allows allowed) fits
          apply Nat.le_trans (Nat.le_of_eq (congrArg (·.totalScore.val) recorded))
          rw [Task.merit?]
          split
          · exact Nat.sub_le _ _
          · exact Nat.le_refl _

end Occasion

namespace History

theorem leveled (history : History) : history.ledger.Leveled := by
  induction history with
  | start rules snapshot =>
      intro entry member
      rw [ledger, Ledger.ofSnapshot_eq] at member
      cases member
  | next earlier occasion ih =>
      obtain ⟨change, completes, sound, seen⟩ := occasion.brings earlier.enumerates
      exact ih.of_seen sound seen

/-- The events of an occasion tell of a higher level exactly where there is one. -/
theorem levelUp_mem_iff (history : History) (occasion : Occasion) (account : Account) :
    (∃ before after, .levelUp account before after ∈ occasion.published history.ledger) ↔
      (history.ledger.levelOf account).rank <
        ((history.next occasion).ledger.levelOf account).rank := by
  obtain ⟨change, completes, sound, seen⟩ := occasion.brings history.enumerates
  rw [ledger, ← StatusChange.climber?_eq_some_iff history.leveled sound seen account,
    ← Option.mem_toList, ← seen.filterMap_climber?, Event.mem_filterMap_climber?]

/-- The new notifications tell of a higher level exactly where there is one. -/
theorem levelUp_told_iff (history : History) (occasion : Occasion) (account : Account) :
    (∃ notification ∈ history.ledger.newNotifications (history.next occasion).ledger,
        notification.kind = .reputationLevelUp ∧ notification.recipient = account) ↔
      (history.ledger.levelOf account).rank <
        ((history.next occasion).ledger.levelOf account).rank := by
  obtain ⟨change, completes, sound, seen⟩ := occasion.brings history.enumerates
  have climbers := (seen.notices .reputationLevelUp).trans sound.climbed
  rw [ledger, ← StatusChange.climber?_eq_some_iff history.leveled sound seen account,
    ← Option.mem_toList, ← climbers, Notification.mem_filterMap_addressee?]

/-- Every reputation is stored with the level of its score.  An occasion publishes a
higher level of an account exactly if it stores a notification of it, and exactly if the
score comes to a higher level on the occasion.  No occasion on which a task is cancelled
does. -/
theorem level_ups_told (history : History) :
    (∀ entry ∈ history.ledger.reputations,
      entry.2.level = Level.ofScore entry.2.totalScore.val) ∧
    (∀ occasion account,
      let published := ∃ before after,
        .levelUp account before after ∈ occasion.published history.ledger
      let stored := ∃ notification ∈
        history.ledger.newNotifications (history.next occasion).ledger,
        notification.kind = .reputationLevelUp ∧ notification.recipient = account
      let higher :=
        (Level.ofScore (history.ledger.reputation account).totalScore.val).rank <
          (Level.ofScore ((history.next occasion).ledger.reputation account).totalScore.val).rank
      (published ↔ stored) ∧ (published ↔ higher)) ∧
    ∀ occasion id task, history.ledger.task? id = some task → task.status ≠ .cancelled →
      (history.next occasion).ledger.status? id = some .cancelled →
      (∀ account before after,
        .levelUp account before after ∉ occasion.published history.ledger) ∧
      ∀ notification ∈ history.ledger.newNotifications (history.next occasion).ledger,
        notification.kind ≠ .reputationLevelUp := by
  refine ⟨history.leveled, ?_, ?_⟩
  · intro occasion account
    have published := history.levelUp_mem_iff occasion account
    have stored := history.levelUp_told_iff occasion account
    exact ⟨published.trans stored.symm, published⟩
  · intro occasion id task found uncancelled cancelled
    obtain ⟨signer, now, rfl⟩ :=
      Occasion.eq_cancel_of_status? history.numbered found uncancelled cancelled
    have noHigher (account : Account) : ¬ (history.ledger.levelOf account).rank <
        ((history.next (.call (.changeStatus signer id .cancelled) now)).ledger.levelOf
          account).rank := by
      have lower := Occasion.totalScore_after_cancel_le history.ledger signer id now account
      exact Nat.not_lt.mpr (Level.rank_ofScore_le lower)
    constructor
    · intro account before after member
      exact noHigher account ((history.levelUp_mem_iff _ account).mp ⟨_, _, member⟩)
    · intro notification member isLevelUp
      exact noHigher notification.recipient
        ((history.levelUp_told_iff _ _).mp ⟨_, member, isLevelUp, rfl⟩)

/-- Bob works on two tasks that are worth 101 points each. -/
def worthALevel : History :=
  let first := Task.fresh ⟨1, Nat.one_pos⟩ "Review" ⟨"alice"⟩ .epoch
  let second := Task.fresh ⟨2, Nat.two_pos⟩ "Release" ⟨"alice"⟩ .epoch
  start ⟨101, 0, 0⟩
    [{ first with assignee := some ⟨"bob"⟩, status := .inProgress },
      { second with assignee := some ⟨"bob"⟩, status := .inProgress }]

/-- When the first task is completed, bob becomes an apprentice and is told so; bob's
reputation is stored with that level.  When the second is cancelled, bob is told of no
level. -/
theorem level_ups_told_worthALevel :
    let complete : Occasion := .call (.changeStatus ⟨"bob"⟩ ⟨1, Nat.one_pos⟩ .completed) .epoch
    let cancel : Occasion := .call (.changeStatus ⟨"bob"⟩ ⟨2, Nat.two_pos⟩ .cancelled) .epoch
    let apprenticed := worthALevel.next complete
    (∃ reputation, apprenticed.ledger.reputations = [(⟨"bob"⟩, reputation)] ∧
      reputation.level = .apprentice) ∧
    (∃ before after, .levelUp ⟨"bob"⟩ before after ∈ complete.published worthALevel.ledger) ∧
    (∃ notification ∈ worthALevel.ledger.newNotifications apprenticed.ledger,
      notification.kind = .reputationLevelUp ∧ notification.recipient = ⟨"bob"⟩) ∧
    ∀ notification ∈ apprenticed.ledger.newNotifications (apprenticed.next cancel).ledger,
      notification.kind ≠ .reputationLevelUp := by
  intro complete cancel apprenticed
  obtain ⟨_, told, _⟩ := worthALevel.level_ups_told
  obtain ⟨isStored, isHigher⟩ := told complete ⟨"bob"⟩
  have published := isHigher.mpr (by decide)
  obtain ⟨leveled, _, silent⟩ := apprenticed.level_ups_told
  have cancelled := silent cancel ⟨2, Nat.two_pos⟩ _ rfl (by decide) rfl
  exact ⟨⟨_, rfl, leveled _ List.mem_cons_self⟩, published, isStored.mp published, cancelled.2⟩

end History

end TaskBoard
