import TaskBoard.Proofs.Ledger.Merits
import TaskBoard.Proofs.Ledger.Notifications
import TaskBoard.Proofs.Ledger.Replay

/-!
# Rewards

A call may bring one account its first achievement and may change the reputation of one.
Both are told twice: by events, and by notices to the account.  A change of status is
planned with all of them, and a rating brings the same parts, so every occasion brings
a `StatusChange`; this module says what the ledger and its subscribers see of it, and
that its parts agree with each other.
-/

namespace TaskBoard

/-- Whether an event tells of an achievement or of a reputation. -/
def Event.isReward (event : Event) : Bool :=
  event.category == .achievements || event.category == .reputation

/-- The account that an event tells to have completed a task for the first time. -/
def Event.achiever? : Event → Option Account
  | .achievementUnlocked account _ => some account
  | _ => none

/-- The account that an event tells to have reached a higher level. -/
def Event.climber? : Event → Option Account
  | .levelUp account _ _ => some account
  | _ => none

/-- The account that reaches a higher level by a promotion. -/
def Promotion.climber? (promotion : Promotion) : Option Account :=
  if promotion.change.leveledUp then some promotion.account else none

theorem Event.mem_filterMap_achiever? {events : List Event} {account : Account} :
    account ∈ events.filterMap achiever? ↔
      ∃ achievement, .achievementUnlocked account achievement ∈ events := by
  rw [List.mem_filterMap]
  constructor
  · rintro ⟨event, member, achieves⟩
    cases event with
    | achievementUnlocked owner achievement =>
        cases achieves
        exact ⟨achievement, member⟩
    | _ => cases achieves
  · rintro ⟨achievement, member⟩
    exact ⟨_, member, rfl⟩

theorem Event.mem_filterMap_climber? {events : List Event} {account : Account} :
    account ∈ events.filterMap climber? ↔
      ∃ before after, .levelUp account before after ∈ events := by
  rw [List.mem_filterMap]
  constructor
  · rintro ⟨event, member, climbs⟩
    cases event with
    | levelUp owner before after =>
        cases climbs
        exact ⟨before, after, member⟩
    | _ => cases climbs
  · rintro ⟨before, after, member⟩
    exact ⟨_, member, rfl⟩

theorem Promotion.climber?_eq_some_iff {promotion : Promotion} {account : Account} :
    promotion.climber? = some account ↔
      promotion.change.leveledUp = true ∧ promotion.account = account := by
  rw [climber?, Option.ite_none_right_eq_some, Option.some_inj]

/-! ## Events -/

/-- What is read off the rewards among the events is read off all of them. -/
theorem Event.filterMap_filter_isReward {α : Type} {read : Event → Option α}
    (ofRewards : ∀ event : Event, event.isReward = false → read event = none)
    (events : List Event) : (events.filter isReward).filterMap read = events.filterMap read := by
  rw [List.filterMap_filter]
  apply List.filterMap_congr
  intro event _
  cases reward : event.isReward with
  | true => rfl
  | false => exact (ofRewards event reward).symm

theorem Event.achiever?_of_not_isReward (event : Event) (noReward : event.isReward = false) :
    event.achiever? = none := by
  cases event with
  | achievementUnlocked => cases noReward
  | _ => rfl

theorem Event.climber?_of_not_isReward (event : Event) (noReward : event.isReward = false) :
    event.climber? = none := by
  cases event with
  | levelUp => cases noReward
  | _ => rfl

theorem Promotion.isReward_of_mem_events {promotion : Promotion} {event : Event}
    (member : event ∈ promotion.events) : event.isReward = true := by
  rw [events] at member
  rcases List.mem_cons.mp member with rfl | ofLevel
  · rfl
  · split at ofLevel
    · rw [List.mem_singleton.mp ofLevel]
      rfl
    · cases ofLevel

theorem Promotion.filterMap_achiever?_events (promotion : Promotion) :
    promotion.events.filterMap Event.achiever? = [] := by
  rw [events]
  split
  · rfl
  · rfl

theorem Promotion.filterMap_climber?_events (promotion : Promotion) :
    promotion.events.filterMap Event.climber? = promotion.climber?.toList := by
  rw [events, climber?]
  split
  · rfl
  · rfl

namespace StatusChange

variable (change : StatusChange)

theorem filter_isReward_rewards : change.rewards.filter Event.isReward = change.rewards := by
  rw [List.filter_eq_self]
  intro event member
  rcases List.mem_append.mp member with unlocked | promoted
  · obtain ⟨account, _, rfl⟩ := List.mem_map.mp unlocked
    rfl
  · obtain ⟨promotion, _, isEvent⟩ := List.mem_flatMap.mp promoted
    exact Promotion.isReward_of_mem_events isEvent

/-- What is read off the rewards is read off the achievement and off the promotion. -/
theorem filterMap_rewards {α : Type} (read : Event → Option α) :
    change.rewards.filterMap read =
      (change.achiever.bind fun account =>
        read (.achievementUnlocked account "first_task_completed")).toList ++
        change.promotion.toList.flatMap fun promotion => promotion.events.filterMap read := by
  rw [rewards, List.filterMap_append, List.filterMap_map, List.filterMap_flatMap]
  cases change.achiever with
  | none => rfl
  | some account =>
      rw [Option.bind_some]
      cases unlocked : read (.achievementUnlocked account "first_task_completed") with
      | none => simp [unlocked]
      | some value => simp [unlocked]

theorem filterMap_achiever?_rewards :
    change.rewards.filterMap Event.achiever? = change.achiever.toList := by
  simp [filterMap_rewards, Event.achiever?, Promotion.filterMap_achiever?_events]

theorem filterMap_climber?_rewards :
    change.rewards.filterMap Event.climber? =
      (change.promotion.bind Promotion.climber?).toList := by
  rw [filterMap_rewards]
  cases change.promotion with
  | none => simp [Event.climber?]
  | some promotion => simp [Event.climber?, Promotion.filterMap_climber?_events]

end StatusChange

namespace Ledger

theorem filter_isReward_announced (ledger : Ledger) {notices : List Notice} (now : Instant)
    (fits : ledger.lastNotification.val + notices.length ≤ 4294967295) :
    (ledger.announced notices now fits).filter Event.isReward = [] := by
  rw [announced, List.filter_flatMap]
  exact List.flatMap_eq_nil_iff.mpr fun _ _ => rfl

theorem filter_isReward_changeEvents (ledger : Ledger) (task : Task) (id : TaskId)
    (status : Status) (now : Instant) (change : StatusChange)
    (fits : ledger.lastNotification.val + change.notices.length ≤ 4294967295) :
    (ledger.changeEvents task id status now change fits).filter Event.isReward =
      change.rewards := by
  rw [changeEvents, List.filter_cons_of_neg Bool.false_ne_true, List.filter_append,
    filter_isReward_announced, change.filter_isReward_rewards, List.nil_append]

end Ledger

/-! ## What a change brings -/

/-- The change brings a promotion from the reputation that an account has, and its notices
tell of its achiever and of a higher level.  If it completes a task, the completion is
recorded, and the account is the achiever unless it has been one before. -/
structure StatusChange.Sound (change : StatusChange) (ledger : Ledger) (completes : Bool) :
    Prop where
  unlocked : change.notices.filterMap (Notice.addressee? .achievementUnlocked) =
    change.achiever.toList
  climbed : change.notices.filterMap (Notice.addressee? .reputationLevelUp) =
    (change.promotion.bind Promotion.climber?).toList
  updates : ∀ promotion ∈ change.promotion, promotion.Updates ledger
  oldLevel : ∀ promotion ∈ change.promotion,
    promotion.change.oldLevel = (ledger.reputation promotion.account).level
  level : ∀ promotion ∈ change.promotion,
    promotion.reputation.level = promotion.change.newLevel
  completedTasks : ∀ promotion ∈ change.promotion,
    promotion.reputation.completedTasks =
      if completes then (ledger.reputation promotion.account).completedTasks.add 1
      else (ledger.reputation promotion.account).completedTasks
  achiever : change.achiever =
    if completes then
      (change.promotion.map Promotion.account).filter fun account =>
        !ledger.achievers.contains account
    else none

/-- What is seen of the change: the ledger stores the achiever, the promotion and the
notices, and the events tell of achievements and reputations as the change does. -/
structure StatusChange.Seen (change : StatusChange) (ledger : Ledger) (events : List Event)
    (after : Ledger) : Prop where
  achievers : after.achievers = ledger.achievers ++ change.achiever.toList
  reputations : after.reputations = (ledger.storePromotion? change.promotion).reputations
  rewards : events.filter Event.isReward = change.rewards
  notices : ∀ kind,
    (ledger.newNotifications after).filterMap (Notification.addressee? kind) =
      change.notices.filterMap (Notice.addressee? kind)

namespace StatusChange

/-- The events tell of an achievement as the change does. -/
theorem Seen.filterMap_achiever? {change : StatusChange} {ledger after : Ledger}
    {events : List Event} (seen : change.Seen ledger events after) :
    events.filterMap Event.achiever? = change.achiever.toList := by
  rw [← change.filterMap_achiever?_rewards, ← seen.rewards,
    Event.filterMap_filter_isReward Event.achiever?_of_not_isReward]

/-- The events tell of a higher level as the change does. -/
theorem Seen.filterMap_climber? {change : StatusChange} {ledger after : Ledger}
    {events : List Event} (seen : change.Seen ledger events after) :
    events.filterMap Event.climber? = (change.promotion.bind Promotion.climber?).toList := by
  rw [← change.filterMap_climber?_rewards, ← seen.rewards,
    Event.filterMap_filter_isReward Event.climber?_of_not_isReward]

theorem Seen.reputation {change : StatusChange} {ledger after : Ledger} {events : List Event}
    (seen : change.Seen ledger events after) (account : Account) :
    after.reputation account = (ledger.storePromotion? change.promotion).reputation account :=
  Ledger.reputation_congr seen.reputations

/-- The change that brings notices and nothing else. -/
def onlyNotices (notices : List Notice) : StatusChange := ⟨notices, none, none⟩

/-- The change that a rating brings. -/
def rating (promotion : Option Promotion) : StatusChange :=
  ⟨promotion.toList.flatMap Promotion.notices, none, promotion⟩

variable {ledger after : Ledger} {events : List Event} {now : Instant}

theorem Sound.of_silent {notices : List Notice}
    (silent : ∀ notice ∈ notices, notice.kind = .taskAssigned) (ledger : Ledger) :
    (onlyNotices notices).Sound ledger false := by
  have nobody (kind : NotificationKind) (different : kind ≠ .taskAssigned) :
      notices.filterMap (Notice.addressee? kind) = [] := by
    apply Notice.filterMap_addressee?_eq_nil
    intro notice member same
    exact different (same.symm.trans (silent notice member))
  refine ⟨nobody _ (by decide), nobody _ (by decide), ?_, ?_, ?_, ?_, rfl⟩
  all_goals
    intro promotion none
    cases none

theorem filterMap_addressee?_promotion (promotion : Option Promotion) :
    (promotion.toList.flatMap Promotion.notices).filterMap
        (Notice.addressee? .achievementUnlocked) = [] ∧
      (promotion.toList.flatMap Promotion.notices).filterMap
        (Notice.addressee? .reputationLevelUp) = (promotion.bind Promotion.climber?).toList := by
  cases promotion with
  | none => exact ⟨rfl, rfl⟩
  | some promotion =>
      rw [Option.toList_some, List.flatMap_singleton, Option.bind_some, Promotion.notices,
        Promotion.climber?]
      split
      · exact ⟨rfl, rfl⟩
      · exact ⟨rfl, rfl⟩

theorem sound_rating (ledger : Ledger) (task : Task) (given : Word8) (now : Instant) :
    (rating (Transaction.ratingPromotion? ledger task given now)).Sound ledger false := by
  obtain ⟨noAchievement, climbed⟩ :=
    filterMap_addressee?_promotion (Transaction.ratingPromotion? ledger task given now)
  refine ⟨noAchievement, climbed, ?_, ?_, ?_, ?_, rfl⟩
  · intro promotion earned
    exact Promotion.updates_of_ratingPromotion? earned
  all_goals
    intro promotion earned
    obtain ⟨account, _, rfl⟩ := Option.map_eq_some_iff.mp earned
    rfl

theorem assignee_of_promotion? {task : Task} {status : Status} {promotion : Promotion}
    (earned : promotion? ledger task status now = some promotion) :
    task.assignee = some promotion.account := by
  unfold promotion? at earned
  split at earned
  · next assigned =>
    cases earned
    exact assigned
  · next assigned =>
    cases earned
    exact assigned
  · cases earned

theorem assignee_of_ratingPromotion? {task : Task} {given : Word8} {promotion : Promotion}
    (earned : Transaction.ratingPromotion? ledger task given now = some promotion) :
    task.assignee = some promotion.account := by
  obtain ⟨account, assigned, rfl⟩ := Option.map_eq_some_iff.mp earned
  exact assigned

/-- A promotion records a completion exactly if the task comes to be completed. -/
theorem of_promotion?_eq_some {task : Task} {status : Status} {promotion : Promotion}
    (earned : promotion? ledger task status now = some promotion) :
    promotion.change.oldLevel = (ledger.reputation promotion.account).level ∧
      promotion.reputation.level = promotion.change.newLevel ∧
      promotion.reputation.completedTasks =
        if status == .completed then (ledger.reputation promotion.account).completedTasks.add 1
        else (ledger.reputation promotion.account).completedTasks := by
  unfold promotion? at earned
  split at earned
  · cases earned
    exact ⟨rfl, rfl, rfl⟩
  · cases earned
    exact ⟨rfl, rfl, rfl⟩
  · cases earned

theorem achiever?_eq (ledger : Ledger) (task : Task) (status : Status) (now : Instant) :
    achiever? ledger task status =
      if status == .completed then
        ((promotion? ledger task status now).map Promotion.account).filter fun account =>
          !ledger.achievers.contains account
      else none := by
  cases assigned : task.assignee with
  | none => simp [achiever?, promotion?, assigned]
  | some account =>
      cases status
      all_goals simp [achiever?, promotion?, assigned, Option.filter]

theorem sound_plan (ledger : Ledger) (actor : Account) (task : Task) (status : Status)
    (now : Instant) : (plan ledger actor task status now).Sound ledger (status == .completed) := by
  obtain ⟨noAchievement, climbed⟩ :=
    filterMap_addressee?_promotion (promotion? ledger task status now)
  have noMove (kind : NotificationKind) (different : ∀ status, Notice.kindFor status ≠ kind) :
      ((audience task actor).map (Notice.move task status)).filterMap
        (Notice.addressee? kind) = [] := by
    apply Notice.filterMap_addressee?_eq_nil
    intro notice member
    obtain ⟨party, _, rfl⟩ := List.mem_map.mp member
    exact different status
  have noUnlock : ∀ status, Notice.kindFor status ≠ .achievementUnlocked := by
    intro status
    cases status
    all_goals decide
  have noClimb : ∀ status, Notice.kindFor status ≠ .reputationLevelUp := by
    intro status
    cases status
    all_goals decide
  refine ⟨?_, ?_, ?_, ?_, ?_, ?_, achiever?_eq ledger task status now⟩
  · rw [plan, List.filterMap_append, List.filterMap_append, noMove _ noUnlock, noAchievement,
      List.nil_append, List.append_nil]
    cases achiever? ledger task status with
    | none => rfl
    | some account => rfl
  · rw [plan, List.filterMap_append, List.filterMap_append, noMove _ noClimb, climbed,
      List.nil_append]
    cases achiever? ledger task status with
    | none => rfl
    | some account => rfl
  · intro promotion earned
    exact Promotion.updates_of_promotion? earned
  · intro promotion earned
    exact (of_promotion?_eq_some earned).1
  · intro promotion earned
    exact (of_promotion?_eq_some earned).2.1
  · intro promotion earned
    exact (of_promotion?_eq_some earned).2.2

/-! ## What is seen of it -/

theorem Seen.of_same (enumerates : ledger.Enumerates)
    (achievers : after.achievers = ledger.achievers)
    (reputations : after.reputations = ledger.reputations)
    (ids : after.notifications.map Notification.id = ledger.notifications.map Notification.id)
    (rewards : events.filter Event.isReward = []) :
    (onlyNotices []).Seen ledger events after := by
  refine ⟨achievers.trans (List.append_nil _).symm, reputations, rewards, fun kind => ?_⟩
  rw [Ledger.newNotifications_eq_nil enumerates ids]
  rfl

theorem Seen.of_stored {change : StatusChange} (enumerates : ledger.Enumerates) (now : Instant)
    (fits : ledger.lastNotification.val + change.notices.length ≤ 4294967295)
    (stored :
      after.notifications = ledger.notifications ++ ledger.numbered change.notices now fits)
    (achievers : after.achievers = ledger.achievers ++ change.achiever.toList)
    (reputations : after.reputations = (ledger.storePromotion? change.promotion).reputations)
    (rewards : events.filter Event.isReward = change.rewards) :
    change.Seen ledger events after := by
  exact ⟨achievers, reputations, rewards,
    Ledger.filterMap_addressee?_of_stored enumerates fits stored⟩

theorem Seen.of_applyChange {change : StatusChange} (enumerates : ledger.Enumerates)
    (id : TaskId) (status : Status) (now : Instant)
    (fits : ledger.lastNotification.val + change.notices.length ≤ 4294967295)
    (rewards : events.filter Event.isReward = change.rewards) :
    change.Seen ledger events (ledger.applyChange id status now change fits) := by
  apply of_stored enumerates now fits (ledger.notifications_applyChange id status now change fits)
  · rw [Ledger.applyChange_eq]
  · rw [Ledger.applyChange_eq]
  · exact rewards

/-- What is seen of a change is the same whether votes are dropped or not. -/
theorem Seen.clearBallots {change : StatusChange} (seen : change.Seen ledger events after)
    (id : TaskId) : change.Seen ledger events (after.clearBallots id) :=
  ⟨seen.achievers, seen.reputations, seen.rewards, seen.notices⟩

end StatusChange

namespace Occasion

variable {ledger : Ledger}

/-- Every accepted call brings a sound change, which is seen in the events and afterwards. -/
theorem brings_of_accepted {now : Instant} {after : Ledger} {command : Command}
    {receipt : Receipt (Option TaskId)} (enumerates : ledger.Enumerates)
    (accepted : Command.Accepted now ledger command receipt after) :
    ∃ change completes,
      StatusChange.Sound change ledger completes ∧ change.Seen ledger receipt.events after := by
  have nothing := StatusChange.Sound.of_silent (List.forall_mem_nil _) ledger
  cases accepted with
  | create | ballot => exact ⟨_, _, nothing, .of_same enumerates rfl rfl rfl rfl⟩
  | @assign signer assignee id task online found byCreator toOther unassigned fits =>
      have noRewards := ledger.filter_isReward_announced now fits
      exact ⟨.onlyNotices [Notice.assignment task assignee], _,
        .of_silent (List.forall_mem_singleton.mpr rfl) ledger,
        .of_stored enumerates now fits rfl (List.append_nil _).symm rfl noRewards⟩
  | @changeStatus signer id status task online found byParty allowed fits =>
      have seen := StatusChange.Seen.of_applyChange enumerates id status now fits
        (ledger.filter_isReward_changeEvents task id status now _ fits)
      refine ⟨_, _, StatusChange.sound_plan ledger signer task status now, ?_⟩
      dsimp only
      split
      · exact seen.clearBallots id
      · exact seen
  | @verdict signer id approve task outcome online found pending notCreator notAssignee firstVote
      full counted fits =>
      refine ⟨_, _, StatusChange.sound_plan ledger signer task outcome now,
        StatusChange.Seen.clearBallots (.of_applyChange enumerates id outcome now fits ?_) id⟩
      rw [List.filter_cons_of_neg Bool.false_ne_true]
      exact ledger.filter_isReward_changeEvents task id outcome now _ fits
  | @evaluate signer id rating comment task promotion inRange online found completed notAssignee
      firstRating earned fits =>
      have sound := StatusChange.sound_rating ledger task rating now
      have rewards := (StatusChange.rating promotion).filter_isReward_rewards
      rw [← earned] at sound
      refine ⟨.rating promotion, _, sound, .of_stored enumerates now fits ?_ ?_ ?_ ?_⟩
      · rw [Ledger.storePromotion?_eq]
        rfl
      · rw [Ledger.storePromotion?_eq]
        exact (List.append_nil _).symm
      · apply Ledger.reputations_storePromotion?_congr
        rfl
      · rw [List.filter_cons_of_neg Bool.false_ne_true, List.filter_append,
          ledger.filter_isReward_announced now fits, List.append_nil]
        exact rewards
  | markRead =>
      exact ⟨_, _, nothing,
        .of_same enumerates rfl rfl (ledger.map_readNotification _ _ fun _ => rfl) rfl⟩

/-- Every occasion brings a sound change. -/
theorem brings (occasion : Occasion) (enumerates : ledger.Enumerates) :
    ∃ change completes, StatusChange.Sound change ledger completes ∧
      change.Seen ledger (occasion.published ledger) (occasion.after ledger) := by
  have nothing := StatusChange.Sound.of_silent (List.forall_mem_nil _) ledger
  have outcome := occasion.outcome ledger
  generalize occasion.published ledger = events, occasion.after ledger = reached at outcome ⊢
  cases outcome with
  | refused => exact ⟨_, _, nothing, .of_same enumerates rfl rfl rfl rfl⟩
  | accepted call => exact brings_of_accepted enumerates call
  | connection => exact ⟨_, _, nothing, .of_same enumerates rfl rfl rfl rfl⟩

end Occasion

end TaskBoard
