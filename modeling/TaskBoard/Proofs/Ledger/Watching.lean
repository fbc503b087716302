import TaskBoard.App
import TaskBoard.Proofs.Ledger.Notifications

/-!
# Watching notifications

A watcher is told about the notifications of the account that was selected when it
started.  The events that it has received and those that wait for it are always the
announcements of all notifications stored for the account since then, if it keeps up:
if the bus never has to drop an event.
-/

namespace TaskBoard

/-- What announces the notifications of an account, but for those that were stored first. -/
def Ledger.announcementsFor (ledger : Ledger) (account : Account) (since : Nat) : List Event :=
  ((ledger.notifications.drop since).filter fun notification =>
    notification.recipient == account).flatMap Notification.announcements

/-- A ledger with its history, a session, and a watcher with the events it has received. -/
structure Watch where
  history : History
  session : Session
  watcher : Subscription
  received : List Event

namespace Watch

/-- What happens in turn while somebody watches: something to the ledger, the choice of an
account in the session, or the delivery of what waits. -/
inductive Turn where
  | occasion (occasion : Occasion)
  | selection (account : Account)
  | delivery

/-- What happens to the ledger. -/
def Turn.occasion? : Turn → Option Occasion
  | .occasion current => some current
  | .selection _ => none
  | .delivery => none

/-- The beginning of a watch. -/
def start (history : History) (session : Session) (watcher : Subscription) : Watch :=
  ⟨history, session, watcher, []⟩

/-- The watch after a turn; a choice that the session refuses changes nothing. -/
def next (watch : Watch) : Turn → Watch
  | .occasion occasion =>
      { watch with
        history := watch.history.next occasion
        watcher := watch.watcher.push (occasion.published watch.history.ledger) }
  | .selection account =>
      match watch.session.select account with
      | .ok session => { watch with session }
      | .error _ => watch
  | .delivery =>
      { watch with
        watcher := watch.watcher.settle
        received := watch.received ++ watch.watcher.delivery }

/-- The watch after several turns. -/
def after (watch : Watch) (turns : List Turn) : Watch := turns.foldl next watch

/-- Whether the bus can hold what is published in a turn besides what waits. -/
def HasRoom (watch : Watch) : Turn → Prop
  | .occasion occasion =>
      watch.watcher.pending.length + (occasion.published watch.history.ledger).length ≤
        Subscription.capacity
  | .selection _ => True
  | .delivery => True

/-- Whether the bus can hold what is published in each of several turns. -/
def KeepsUp (watch : Watch) : List Turn → Prop
  | [] => True
  | turn :: rest => watch.HasRoom turn ∧ (watch.next turn).KeepsUp rest

/-- The watcher is told about an account, and the events that it has received or that wait
for it announce all notifications of the account but the first ones stored. -/
structure Follows (watch : Watch) (account : Account) (since : Nat) : Prop where
  category : watch.watcher.category = .notifications
  recipient : watch.watcher.recipient = some account
  begun : since ≤ watch.history.ledger.notifications.length
  complete : watch.received ++ watch.watcher.delivery =
    watch.history.ledger.announcementsFor account since

end Watch

/-! ## Announcements for an account -/

namespace Notification

/-- The announcements for an account are those of its notifications. -/
theorem filter_announcements (notifications : List Notification) (account : Account) :
    (notifications.flatMap announcements).filter (fun event => event.recipient? == some account) =
      (notifications.filter fun notification =>
        notification.recipient == account).flatMap announcements := by
  induction notifications with
  | nil => rfl
  | cons notification rest ih =>
      rw [List.flatMap_cons, List.filter_append, ih]
      by_cases addressed : notification.recipient = account
      · simp [announcements, Event.recipient?, addressed]
      · simp [announcements, Event.recipient?, addressed]

end Notification

/-- To mark a notification as read does not change what announces it. -/
theorem Ledger.announcementsFor_readNotification (ledger : Ledger) (id : NotificationId)
    (account : Account) (since : Nat) :
    (ledger.readNotification id).announcementsFor account since =
      ledger.announcementsFor account since := by
  rw [announcementsFor, readNotification, ← List.map_drop, List.filter_map, List.flatMap_map,
    announcementsFor]
  congr 1
  · funext notification
    split
    · rfl
    · rfl
  · congr 1
    funext notification
    rw [Function.comp_apply]
    split
    · rfl
    · rfl

namespace Occasion.Posts

variable {ledger after : Ledger} {occasion : Occasion} {events : List Event}

theorem length_notifications_le (posts : occasion.Posts ledger events after) :
    ledger.notifications.length ≤ after.notifications.length := by
  cases posts with
  | stored fits notifications =>
      rw [notifications, List.length_append]
      exact Nat.le_add_right _ _
  | read found => exact Nat.le_of_eq (List.length_map _).symm

/-- The announcements for an account grow by those that are published for it. -/
theorem announcementsFor_after (posts : occasion.Posts ledger events after) {since : Nat}
    (begun : since ≤ ledger.notifications.length) (account : Account) :
    after.announcementsFor account since =
      ledger.announcementsFor account since ++
        (events.filter Event.announces).filter fun event => event.recipient? == some account := by
  cases posts with
  | stored fits notifications last announced =>
      rw [Ledger.announcementsFor, notifications, List.drop_append_of_le_length begun,
        List.filter_append, List.flatMap_append, announced, Ledger.announced,
        Notification.filter_announcements, Ledger.announcementsFor]
  | @read now id notification found =>
      rw [Ledger.announcementsFor_readNotification]
      exact (List.append_nil _).symm

end Occasion.Posts

/-! ## One turn -/

namespace Subscription

variable {watcher : Subscription} {account : Account} {events : List Event}

/-- Where the bus can hold them, all events wait behind those that already do. -/
theorem push_of_room (room : watcher.pending.length + events.length ≤ capacity) :
    watcher.push events = { watcher with pending := watcher.pending ++ events } := by
  have drops : (watcher.pending ++ events).length - capacity = 0 := by
    rw [List.length_append]
    omega
  rw [push, drops, List.drop_zero]

theorem delivery_append :
    { watcher with pending := watcher.pending ++ events }.delivery =
      watcher.delivery ++ events.filter watcher.wants := by
  rw [delivery, List.filter_append]
  rfl

/-- Of the events, those are delivered that announce a notification of the account. -/
theorem filter_wants (category : watcher.category = .notifications)
    (recipient : watcher.recipient = some account) :
    events.filter watcher.wants =
      (events.filter Event.announces).filter fun event => event.recipient? == some account := by
  rw [List.filter_filter]
  apply List.filter_congr
  intro event _
  rw [wants, category, recipient, Event.announces, Bool.and_comm]

end Subscription

namespace Watch

variable {watch : Watch} {account : Account} {since : Nat}

/-- The watcher stays with the account in every turn in which the bus has room. -/
theorem Follows.next (follows : watch.Follows account since) {turn : Turn}
    (room : watch.HasRoom turn) : (watch.next turn).Follows account since := by
  obtain ⟨category, recipient, begun, complete⟩ := follows
  cases turn with
  | occasion occasion =>
      have posts := occasion.posts watch.history.ledger
      rw [Watch.next, Subscription.push_of_room room]
      refine ⟨category, recipient, Nat.le_trans begun posts.length_notifications_le, ?_⟩
      -- Of what is published, the watcher wants what announces the new notifications.
      have announced := posts.announcementsFor_after begun account
      rw [← complete, ← Subscription.filter_wants category recipient, List.append_assoc,
        ← Subscription.delivery_append] at announced
      exact announced.symm
  | selection chosen =>
      rw [Watch.next]
      split
      · exact ⟨category, recipient, begun, complete⟩
      · exact ⟨category, recipient, begun, complete⟩
  | delivery =>
      rw [Watch.next]
      exact ⟨category, recipient, begun, (List.append_nil _).trans complete⟩

theorem Follows.after {turns : List Turn} (follows : watch.Follows account since)
    (keepsUp : watch.KeepsUp turns) : (watch.after turns).Follows account since := by
  induction turns generalizing watch with
  | nil => exact follows
  | cons turn rest ih => exact ih (follows.next keepsUp.1) keepsUp.2

/-- What happens to the ledger does not depend on the session or on the watcher. -/
theorem history_after (watch : Watch) (turns : List Turn) :
    (watch.after turns).history = watch.history.extend (turns.filterMap Turn.occasion?) := by
  induction turns generalizing watch with
  | nil => rfl
  | cons turn rest ih =>
      refine (ih (watch.next turn)).trans ?_
      cases turn with
      | occasion occasion => rfl
      | selection account =>
          rw [next]
          split
          · rfl
          · rfl
      | delivery => rfl

end Watch

/-! ## Watchers that keep up -/

theorem length_toList_le_one {α : Type} (value : Option α) : value.toList.length ≤ 1 := by
  cases value with
  | none => exact Nat.zero_le 1
  | some value => exact Nat.le_refl 1

theorem Notification.length_flatMap_announcements (notifications : List Notification) :
    (notifications.flatMap announcements).length = 2 * notifications.length := by
  induction notifications with
  | nil => rfl
  | cons notification rest ih =>
      rw [List.flatMap_cons, List.length_append, ih, List.length_cons]
      exact Nat.add_comm _ _

theorem Ledger.length_announced (ledger : Ledger) {notices : List Notice} {now : Instant}
    (fits : ledger.lastNotification.val + notices.length ≤ 4294967295) :
    (ledger.announced notices now fits).length = 2 * notices.length := by
  have sameLength : (ledger.numbered notices now fits).length = notices.length := by
    have ids := congrArg List.length
      (Notice.map_id_numbered now notices ledger.lastNotification.val fits)
    rwa [List.length_map, List.length_range'] at ids
  rw [announced, Notification.length_flatMap_announcements, sameLength]

namespace Promotion

theorem length_flatMap_notices_le (promotion : Option Promotion) :
    (promotion.toList.flatMap notices).length ≤ 1 := by
  cases promotion with
  | none => exact Nat.zero_le 1
  | some promotion =>
      rw [Option.toList_some, List.flatMap_singleton, notices]
      split
      · exact Nat.le_refl 1
      · exact Nat.zero_le 1

theorem length_flatMap_events_le (promotion : Option Promotion) :
    (promotion.toList.flatMap events).length ≤ 2 := by
  cases promotion with
  | none => exact Nat.zero_le 2
  | some promotion =>
      rw [Option.toList_some, List.flatMap_singleton, events, List.length_cons]
      split
      · exact Nat.le_refl 2
      · exact Nat.le_succ 1

end Promotion

namespace StatusChange

theorem length_notices_plan_le (ledger : Ledger) (actor : Account) (task : Task)
    (status : Status) (now : Instant) : (plan ledger actor task status now).notices.length ≤ 4 := by
  have parties : (audience task actor).length ≤ task.assignee.toList.length + 1 :=
    List.length_filter_le _ _
  have assigned := length_toList_le_one task.assignee
  have achieved := length_toList_le_one (achiever? ledger task status)
  have promoted := Promotion.length_flatMap_notices_le (promotion? ledger task status now)
  simp only [plan, List.length_append, List.length_map]
  omega

theorem length_rewards_le (change : StatusChange) : change.rewards.length ≤ 3 := by
  have achieved := length_toList_le_one change.achiever
  have promoted := Promotion.length_flatMap_events_le change.promotion
  simp only [rewards, List.length_append, List.length_map]
  omega

end StatusChange

theorem Ledger.length_changeEvents_plan_le (ledger : Ledger) (actor : Account) (task : Task)
    (id : TaskId) (status : Status) (now : Instant)
    (fits : ledger.lastNotification.val +
      (StatusChange.plan ledger actor task status now).notices.length ≤ 4294967295) :
    (ledger.changeEvents task id status now
      (StatusChange.plan ledger actor task status now) fits).length ≤ 12 := by
  have notices := StatusChange.length_notices_plan_le ledger actor task status now
  have rewards := StatusChange.length_rewards_le (StatusChange.plan ledger actor task status now)
  rw [changeEvents, List.length_cons, List.length_append, length_announced]
  omega

/-- No occasion publishes more events than those of a vote that decides, with a notification
for both parties, for an achievement and for a higher level. -/
theorem Occasion.length_published_le (occasion : Occasion) (ledger : Ledger) :
    (occasion.published ledger).length ≤ 13 := by
  have outcome := occasion.outcome ledger
  generalize occasion.published ledger = events, occasion.after ledger = reached at outcome ⊢
  cases outcome with
  | refused | connection => exact Nat.zero_le 13
  | accepted call =>
      cases call with
      | create | assign | ballot | markRead => exact Nat.le_of_ble_eq_true rfl
      | changeStatus online found byParty allowed fits =>
          exact Nat.le_succ_of_le (ledger.length_changeEvents_plan_le _ _ _ _ _ fits)
      | verdict online found pending notCreator notAssignee firstVote reached counted fits =>
          exact Nat.succ_le_succ (ledger.length_changeEvents_plan_le _ _ _ _ _ fits)
      | @evaluate signer id rating comment task promotion inRange online found completed
          notAssignee firstRating earned fits =>
          have notices := Promotion.length_flatMap_notices_le promotion
          have events := Promotion.length_flatMap_events_le promotion
          rw [List.length_cons, List.length_append, Ledger.length_announced]
          omega

namespace Watch

/-- Occasions after each of which the delivery is taken. -/
def promptly (occasions : List Occasion) : List Turn :=
  occasions.flatMap fun occasion => [.occasion occasion, .delivery]

/-- A watcher that takes the delivery after each occasion keeps up. -/
theorem keepsUp_promptly {watch : Watch} (settled : watch.watcher.pending = [])
    (occasions : List Occasion) : watch.KeepsUp (promptly occasions) := by
  induction occasions generalizing watch with
  | nil => trivial
  | cons occasion rest ih =>
      have published := occasion.length_published_le watch.history.ledger
      refine ⟨?_, trivial, ih rfl⟩
      rw [HasRoom, settled, Subscription.capacity, List.length_nil]
      omega

end Watch

/-! ## A whole watch -/

/-- Watching begins with the selected account, if the connection stands. -/
theorem App.watchNotifications_eq_ok {session : Session} {account : Account} {ledger : Ledger}
    (selected : session.selected = some account) (online : ledger.offline = false) :
    App.watchNotifications session ledger = .ok ⟨.notifications, some account, []⟩ := by
  simp only [App.watchNotifications, Session.require, selected, Ledger.subscribe,
    Ledger.checkOnline, online]
  rfl

namespace Watch

variable (history : History) (session : Session) (account : Account)

theorem follows_start :
    (start history session ⟨.notifications, some account, []⟩).Follows account
      history.ledger.notifications.length := by
  refine ⟨rfl, rfl, Nat.le_refl _, ?_⟩
  rw [start, Ledger.announcementsFor, List.drop_length]
  rfl

/-- With a delivery in the end, a watcher that keeps up has received the announcements of
all notifications stored for its account since the beginning. -/
theorem received_after {turns : List Turn}
    (keepsUp : (start history session ⟨.notifications, some account, []⟩).KeepsUp turns) :
    ((start history session ⟨.notifications, some account, []⟩).after
        (turns ++ [.delivery])).received =
      (history.extend (turns.filterMap Turn.occasion?)).ledger.announcementsFor account
        history.ledger.notifications.length := by
  have follows := (follows_start history session account).after keepsUp
  have complete := follows.complete
  rw [history_after] at complete
  rw [after, List.foldl_append]
  exact complete

end Watch

namespace History

/-- The notifications are numbered from one on in the order in which they are stored.  None
is removed, and nothing changes but that its recipient marks it as read.  An account is
shown its notifications, the latest first.  A watcher that keeps up is told about the
notifications stored for the account that was selected in the beginning, one after the
other, and about nothing else, whatever the session selects later. -/
theorem notifications_kept_and_watched (history : History) :
    history.ledger.notifications.map (fun notification => notification.id.toNat) =
      List.range' 1 history.ledger.notifications.length ∧
    (∀ notification ∈ history.ledger.notifications, ∀ occasions,
      ∃ later ∈ (history.extend occasions).ledger.notifications, later = notification ∨
        notification.isRead = false ∧ later = { notification with isRead := true } ∧
          ∃ now, .call (.markRead notification.recipient notification.id) now ∈ occasions) ∧
    (∀ account, ∃ listed,
      history.ledger.notificationsFor account =
        (if history.ledger.offline then .error .disconnected else .ok listed) ∧
      (∀ notification, notification ∈ listed ↔
        notification ∈ history.ledger.notifications ∧ notification.recipient = account) ∧
      listed.Pairwise fun newer older => older.id.toNat < newer.id.toNat) ∧
    ∀ session account, session.selected = some account → history.ledger.offline = false →
      ∃ watcher, App.watchNotifications session history.ledger = .ok watcher ∧
        ∀ turns, (Watch.start history session watcher).KeepsUp turns →
          ((Watch.start history session watcher).after (turns ++ [.delivery])).received =
            (history.extend (turns.filterMap Watch.Turn.occasion?)).ledger.announcementsFor account
              history.ledger.notifications.length := by
  have enumerates := history.enumerates
  refine ⟨?_, ?_, enumerates.notificationsFor_eq, ?_⟩
  · rw [enumerates.length_notifications]
    exact enumerates
  · intro notification member occasions
    obtain ⟨later, stored, kept⟩ :=
      notification?_extend (enumerates.notification?_eq_some_iff.mpr ⟨member, rfl⟩) occasions
    exact ⟨later, List.mem_of_find?_eq_some stored, kept⟩
  · intro session account selected online
    refine ⟨_, App.watchNotifications_eq_ok selected online, fun turns keepsUp => ?_⟩
    exact Watch.received_after history session account keepsUp

/-- Two tasks of alice. -/
def twoPending : History :=
  start .standard [.fresh ⟨1, Nat.one_pos⟩ "Review" ⟨"alice"⟩ .epoch,
    .fresh ⟨2, Nat.two_pos⟩ "Release" ⟨"alice"⟩ .epoch]

/-- The watch begins with bob, and carol is selected then.  When alice has assigned one task
to each of them, only bob's notification has been announced; bob's mark does not show. -/
theorem notifications_kept_and_watched_twoPending :
    let session : Session := ⟨"wallet", [⟨"bob"⟩, ⟨"carol"⟩], some ⟨"bob"⟩, .epoch⟩
    let occasions : List Occasion :=
      [.call (.assign ⟨"alice"⟩ ⟨1, Nat.one_pos⟩ ⟨"bob"⟩) .epoch,
        .call (.assign ⟨"alice"⟩ ⟨2, Nat.two_pos⟩ ⟨"carol"⟩) .epoch,
        .call (.markRead ⟨"bob"⟩ ⟨1, Nat.one_pos⟩) .epoch]
    ∃ watcher, App.watchNotifications session twoPending.ledger = .ok watcher ∧
      ((Watch.start twoPending session watcher).after
          (.selection ⟨"carol"⟩ :: Watch.promptly occasions ++ [.delivery])).received =
        [.notificationCreated ⟨"bob"⟩ ⟨1, Nat.one_pos⟩,
          .notificationPushed ⟨"bob"⟩ .taskAssigned] := by
  intro session occasions
  obtain ⟨_, _, _, watched⟩ := twoPending.notifications_kept_and_watched
  obtain ⟨watcher, started, told⟩ := watched session ⟨"bob"⟩ rfl rfl
  refine ⟨watcher, started, ?_⟩
  cases started
  have keepsUp : (Watch.start twoPending session ⟨.notifications, some ⟨"bob"⟩, []⟩).KeepsUp
      (.selection ⟨"carol"⟩ :: Watch.promptly occasions) :=
    ⟨trivial, Watch.keepsUp_promptly rfl occasions⟩
  exact (told _ keepsUp).trans rfl

end History

end TaskBoard
