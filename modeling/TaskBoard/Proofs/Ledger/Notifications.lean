import TaskBoard.Proofs.Ledger.Listing

/-!
# Notifications

An occasion either stores new notifications behind the others and announces exactly
these, or marks one as read.  So the notifications are numbered from one on without
gaps, none is removed, and nothing about them changes but the mark of its recipient.
-/

namespace TaskBoard

/-! ## Announcements -/

/-- Whether an event announces a notification. -/
def Event.announces (event : Event) : Bool := event.category == .notifications

theorem Promotion.filter_announces_events (promotion : Promotion) :
    promotion.events.filter Event.announces = [] := by
  rw [events]
  split
  · rfl
  · rfl

theorem Promotion.filter_announces_flatMap_events (promotion : Option Promotion) :
    (promotion.toList.flatMap events).filter Event.announces = [] := by
  cases promotion with
  | none => rfl
  | some promotion =>
      rw [Option.toList_some, List.flatMap_singleton, promotion.filter_announces_events]

theorem StatusChange.filter_announces_rewards (change : StatusChange) :
    change.rewards.filter Event.announces = [] := by
  rw [rewards, List.filter_append, Promotion.filter_announces_flatMap_events, List.append_nil]
  cases change.achiever with
  | none => rfl
  | some achiever => rfl

/-! ## Storing notifications -/

/-- Notices become notifications with the numbers after the last one. -/
theorem Notice.map_id_numbered (now : Instant) (notices : List Notice) (last : Nat)
    (fits : last + notices.length ≤ 4294967295) :
    (numbered now notices last fits).map (fun notification => notification.id.toNat) =
      List.range' (last + 1) notices.length := by
  induction notices generalizing last with
  | nil => rfl
  | cons notice rest ih =>
      rw [numbered, List.map_cons, ih, List.length_cons, List.range'_succ]
      rfl

namespace Ledger

theorem filter_announces_announced (ledger : Ledger) {notices : List Notice} {now : Instant}
    (fits : ledger.lastNotification.val + notices.length ≤ 4294967295) :
    (ledger.announced notices now fits).filter Event.announces =
      ledger.announced notices now fits := by
  rw [announced, List.filter_flatMap]
  rfl

section Change

variable (ledger : Ledger) (id : TaskId) (status : Status) (now : Instant)
variable (change : StatusChange)
variable (fits : ledger.lastNotification.val + change.notices.length ≤ 4294967295)

theorem notifications_applyChange :
    (ledger.applyChange id status now change fits).notifications =
      ledger.notifications ++ ledger.numbered change.notices now fits := by
  rw [applyChange_eq]

theorem lastNotification_applyChange :
    (ledger.applyChange id status now change fits).lastNotification.val =
      ledger.lastNotification.val + change.notices.length := by
  rw [applyChange_eq]

theorem filter_announces_changeEvents (task : Task) :
    (ledger.changeEvents task id status now change fits).filter Event.announces =
      ledger.announced change.notices now fits := by
  rw [changeEvents, List.filter_cons_of_neg Bool.false_ne_true, List.filter_append,
    filter_announces_announced, change.filter_announces_rewards, List.append_nil]

end Change

end Ledger

namespace Occasion

/-- What an occasion can do to the notifications. -/
inductive Posts (ledger : Ledger) : Occasion → List Event → Ledger → Prop where
  /-- Notices are stored behind the others, and their announcements are published. -/
  | stored {occasion : Occasion} {events : List Event} {after : Ledger} {notices : List Notice}
      {now : Instant}
      (fits : ledger.lastNotification.val + notices.length ≤ 4294967295)
      (notifications :
        after.notifications = ledger.notifications ++ ledger.numbered notices now fits)
      (last : after.lastNotification.val = ledger.lastNotification.val + notices.length)
      (announced : events.filter Event.announces = ledger.announced notices now fits) :
      Posts ledger occasion events after
  /-- The recipient of a notification marks it as read. -/
  | read {now : Instant} {id : NotificationId} {notification : Notification}
      (found : ledger.notification? id = some notification) :
      Posts ledger (.call (.markRead notification.recipient id) now) []
        (ledger.readNotification id)

namespace Posts

variable {ledger after : Ledger} {occasion : Occasion} {events : List Event}

/-- An occasion that brings no notices leaves the notifications as they are. -/
theorem of_same (notifications : after.notifications = ledger.notifications)
    (last : after.lastNotification = ledger.lastNotification)
    (silent : events.filter Event.announces = []) : Posts ledger occasion events after := by
  have fits : ledger.lastNotification.val + ([] : List Notice).length ≤ 4294967295 :=
    ledger.lastNotification.le_limit
  refine @stored _ _ _ _ [] .epoch fits ?_ (congrArg Bounded.val last) silent
  exact notifications.trans (List.append_nil _).symm

theorem of_accepted {now : Instant} {command : Command} {receipt : Receipt (Option TaskId)}
    (accepted : Command.Accepted now ledger command receipt after) :
    Posts ledger (.call command now) receipt.events after := by
  cases accepted with
  | create | ballot => exact of_same rfl rfl rfl
  | assign online found byCreator toOther unassigned fits =>
      exact .stored fits rfl rfl rfl
  | @changeStatus signer id status task online found byParty allowed fits =>
      have announced := ledger.filter_announces_changeEvents id status now _ fits task
      refine .stored fits ?_ ?_ announced
      · rw [Ledger.read_ite_clearBallots _ _ _ Ledger.notifications rfl]
        exact ledger.notifications_applyChange id status now _ fits
      · rw [Ledger.read_ite_clearBallots _ _ _ Ledger.lastNotification rfl]
        exact ledger.lastNotification_applyChange id status now _ fits
  | @verdict signer id approve task outcome online found pending notCreator notAssignee firstVote
      reached counted fits =>
      have announced := ledger.filter_announces_changeEvents id outcome now _ fits task
      exact .stored fits (ledger.notifications_applyChange id outcome now _ fits)
        (ledger.lastNotification_applyChange id outcome now _ fits) announced
  | @evaluate signer id rating comment task promotion inRange online found completed notAssignee
      firstRating earned fits =>
      have announced : ((promotion.toList.flatMap Promotion.events ++
          ledger.announced (promotion.toList.flatMap Promotion.notices) now fits).filter
            Event.announces) =
          ledger.announced (promotion.toList.flatMap Promotion.notices) now fits := by
        rw [List.filter_append, Promotion.filter_announces_flatMap_events, List.nil_append,
          ledger.filter_announces_announced]
      cases promotion with
      | none => exact .stored fits rfl rfl announced
      | some promotion => exact .stored fits rfl rfl announced
  | markRead online found byRecipient =>
      subst byRecipient
      exact .read found

end Posts

theorem posts (occasion : Occasion) (ledger : Ledger) :
    Posts ledger occasion (occasion.published ledger) (occasion.after ledger) := by
  have outcome := occasion.outcome ledger
  generalize occasion.published ledger = events, occasion.after ledger = reached at outcome ⊢
  cases outcome with
  | refused => exact .of_same rfl rfl rfl
  | accepted call => exact .of_accepted call
  | connection => exact .of_same rfl rfl rfl

end Occasion

/-! ## Numbering -/

namespace Ledger

/-- The notifications are numbered from one up to the last number given. -/
def Enumerates (ledger : Ledger) : Prop :=
  ledger.notifications.map (fun notification => notification.id.toNat) =
    List.range' 1 ledger.lastNotification.val

/-- To mark a notification as read changes nothing that does not depend on the mark. -/
theorem map_readNotification {α : Type} (ledger : Ledger) (id : NotificationId)
    (read : Notification → α)
    (same : ∀ notification : Notification,
      read { notification with isRead := true } = read notification) :
    (ledger.readNotification id).notifications.map read = ledger.notifications.map read := by
  rw [readNotification, List.map_map]
  apply List.map_congr_left
  intro notification _
  rw [Function.comp_apply]
  split
  · exact same notification
  · rfl

theorem Enumerates.of_posts {ledger after : Ledger} {occasion : Occasion} {events : List Event}
    (enumerates : ledger.Enumerates) (posts : occasion.Posts ledger events after) :
    after.Enumerates := by
  cases posts with
  | @stored _ _ _ notices now fits notifications last announced =>
      rw [Enumerates, notifications, List.map_append, enumerates, numbered,
        Notice.map_id_numbered, last, Nat.add_comm ledger.lastNotification.val 1,
        List.range'_append_1]
  | read found =>
      rw [Enumerates, map_readNotification _ _ _ fun _ => rfl]
      exact enumerates

namespace Enumerates

variable {ledger : Ledger}

theorem length_notifications (enumerates : ledger.Enumerates) :
    ledger.notifications.length = ledger.lastNotification.val := by
  rw [← List.length_map (fun notification : Notification => notification.id.toNat), enumerates,
    List.length_range']

/-- Each notification has a smaller number than those behind it. -/
theorem pairwise (enumerates : ledger.Enumerates) :
    ledger.notifications.Pairwise fun older newer => older.id.toNat < newer.id.toNat := by
  have ascending : (ledger.notifications.map fun notification =>
      notification.id.toNat).Pairwise (· < ·) := by
    rw [enumerates]
    exact List.pairwise_lt_range' 1
  exact List.pairwise_map.mp ascending

theorem nodup (enumerates : ledger.Enumerates) :
    (ledger.notifications.map Notification.id).Nodup := by
  rw [List.Nodup, List.pairwise_map]
  apply enumerates.pairwise.imp
  intro older newer smaller same
  exact absurd (congrArg Id.toNat same) (Nat.ne_of_lt smaller)

theorem notification?_eq_some_iff (enumerates : ledger.Enumerates) {id : NotificationId}
    {notification : Notification} :
    ledger.notification? id = some notification ↔
      notification ∈ ledger.notifications ∧ notification.id = id :=
  find?_key_eq_some_iff enumerates.nodup

/-- An account is shown its notifications, those with greater numbers first. -/
theorem notificationsFor_eq (enumerates : ledger.Enumerates) (account : Account) :
    ∃ listed,
      ledger.notificationsFor account =
        (if ledger.offline then .error .disconnected else .ok listed) ∧
      (∀ notification, notification ∈ listed ↔
        notification ∈ ledger.notifications ∧ notification.recipient = account) ∧
      listed.Pairwise fun newer older => older.id.toNat < newer.id.toNat := by
  refine ⟨ledger.notifications.reverse.filter fun notification =>
    notification.recipient == account, ?_, ?_, ?_⟩
  · rw [notificationsFor, checkOnline]
    cases ledger.offline with
    | false => rfl
    | true => rfl
  · intro notification
    rw [List.mem_filter, List.mem_reverse, beq_iff_eq]
  · exact (List.pairwise_reverse.mpr enumerates.pairwise).filter _

end Enumerates

theorem notification?_readNotification (ledger : Ledger) (id other : NotificationId) :
    (ledger.readNotification id).notification? other =
      (ledger.notification? other).map fun notification =>
        if notification.id = id then { notification with isRead := true } else notification := by
  have sameTest : ((fun notification : Notification => notification.id == other) ∘
      fun notification =>
        if notification.id = id then { notification with isRead := true } else notification) =
      fun notification => notification.id == other := by
    funext notification
    rw [Function.comp_apply]
    split
    · rfl
    · rfl
  rw [notification?, readNotification, List.find?_map, sameTest, notification?]

end Ledger

/-! ## New notifications -/

/-- The recipient of a notification, if it is of a kind. -/
def Notification.addressee? (kind : NotificationKind) (notification : Notification) :
    Option Account :=
  if notification.kind = kind then some notification.recipient else none

theorem Notification.mem_filterMap_addressee? {kind : NotificationKind} {account : Account}
    {notifications : List Notification} :
    account ∈ notifications.filterMap (addressee? kind) ↔
      ∃ notification ∈ notifications,
        notification.kind = kind ∧ notification.recipient = account := by
  simp only [List.mem_filterMap, addressee?, Option.ite_none_right_eq_some, Option.some_inj]

/-- The recipient of a notice, if it is of a kind. -/
def Notice.addressee? (kind : NotificationKind) (notice : Notice) : Option Account :=
  if notice.kind = kind then some notice.recipient else none

theorem Notice.filterMap_addressee?_eq_nil {kind : NotificationKind} {notices : List Notice}
    (different : ∀ notice ∈ notices, notice.kind ≠ kind) :
    notices.filterMap (addressee? kind) = [] := by
  rw [List.filterMap_eq_nil_iff]
  intro notice member
  exact if_neg (different notice member)

theorem Promotion.kind_of_mem_notices {promotion : Promotion} {notice : Notice}
    (member : notice ∈ promotion.notices) : notice.kind = .reputationLevelUp := by
  rw [notices] at member
  split at member
  · rw [List.mem_singleton.mp member]
  · cases member

theorem Notice.filterMap_addressee?_numbered (kind : NotificationKind) (now : Instant)
    (notices : List Notice) (last : Nat) (fits : last + notices.length ≤ 4294967295) :
    (numbered now notices last fits).filterMap (Notification.addressee? kind) =
      notices.filterMap (addressee? kind) := by
  induction notices generalizing last with
  | nil => rfl
  | cons notice rest ih =>
      have same : (notice.toNotification ⟨⟨last + 1, by rw [List.length_cons] at fits; omega⟩,
          Nat.succ_pos last⟩ now).addressee? kind = notice.addressee? kind := rfl
      rw [numbered, List.filterMap_cons, List.filterMap_cons, same, ih]

namespace Ledger

/-- The notifications of a later ledger whose numbers were not given before. -/
def newNotifications (ledger after : Ledger) : List Notification :=
  after.notifications.filter fun notification =>
    (ledger.notification? notification.id).isNone

variable {ledger after : Ledger} {notices : List Notice} {now : Instant}

/-- No notification is under a number that is not given yet. -/
theorem Enumerates.notification?_eq_none (enumerates : ledger.Enumerates) {id : NotificationId}
    (isNew : ledger.lastNotification.val < id.toNat) : ledger.notification? id = none := by
  rw [notification?, List.find?_eq_none]
  intro notification member same
  have sameId : notification.id = id := by simpa using same
  have given : notification.id.toNat ∈ List.range' 1 ledger.lastNotification.val := by
    rw [← enumerates]
    exact List.mem_map_of_mem member
  rw [sameId, List.mem_range'_1] at given
  omega

theorem newNotifications_eq_nil (enumerates : ledger.Enumerates)
    (sameIds : after.notifications.map Notification.id =
      ledger.notifications.map Notification.id) : ledger.newNotifications after = [] := by
  rw [newNotifications, List.filter_eq_nil_iff]
  intro notification member
  have isOld : notification.id ∈ ledger.notifications.map Notification.id := by
    rw [← sameIds]
    exact List.mem_map_of_mem member
  obtain ⟨other, isOther, same⟩ := List.mem_map.mp isOld
  rw [enumerates.notification?_eq_some_iff.mpr ⟨isOther, same⟩]
  exact Bool.false_ne_true

/-- Notices that are stored behind the others become the new notifications. -/
theorem newNotifications_of_stored (enumerates : ledger.Enumerates)
    (fits : ledger.lastNotification.val + notices.length ≤ 4294967295)
    (stored : after.notifications = ledger.notifications ++ ledger.numbered notices now fits) :
    ledger.newNotifications after = ledger.numbered notices now fits := by
  have old : ledger.newNotifications ledger = [] := newNotifications_eq_nil enumerates rfl
  rw [newNotifications] at old
  rw [newNotifications, stored, List.filter_append, old, List.nil_append, List.filter_eq_self]
  intro notification member
  have given : notification.id.toNat ∈
      List.range' (ledger.lastNotification.val + 1) notices.length := by
    rw [← Notice.map_id_numbered now notices ledger.lastNotification.val fits]
    exact List.mem_map_of_mem member
  have isNew : ledger.lastNotification.val < notification.id.toNat := by
    rw [List.mem_range'_1] at given
    omega
  rw [enumerates.notification?_eq_none isNew]
  rfl

/-- What is told by the new notifications of a kind is what the notices of the kind say. -/
theorem filterMap_addressee?_of_stored (enumerates : ledger.Enumerates)
    (fits : ledger.lastNotification.val + notices.length ≤ 4294967295)
    (stored : after.notifications = ledger.notifications ++ ledger.numbered notices now fits)
    (kind : NotificationKind) :
    (ledger.newNotifications after).filterMap (Notification.addressee? kind) =
      notices.filterMap (Notice.addressee? kind) := by
  rw [newNotifications_of_stored enumerates fits stored]
  exact Notice.filterMap_addressee?_numbered kind now _ _ fits

end Ledger

/-- What was told of a kind before is told still, and the new notifications come behind. -/
theorem Occasion.Posts.filterMap_addressee? {ledger after : Ledger} {occasion : Occasion}
    {events : List Event} (posts : occasion.Posts ledger events after)
    (enumerates : ledger.Enumerates) (kind : NotificationKind) :
    after.notifications.filterMap (Notification.addressee? kind) =
      ledger.notifications.filterMap (Notification.addressee? kind) ++
        (ledger.newNotifications after).filterMap (Notification.addressee? kind) := by
  cases posts with
  | stored fits notifications =>
      rw [Ledger.newNotifications_of_stored enumerates fits notifications, notifications,
        List.filterMap_append]
  | @read now id notification found =>
      have sameIds := ledger.map_readNotification id Notification.id fun _ => rfl
      have sameAddressees := congrArg (List.filterMap fun addressee => addressee)
        (ledger.map_readNotification id (Notification.addressee? kind) fun _ => rfl)
      rw [List.filterMap_map, List.filterMap_map] at sameAddressees
      rw [Ledger.newNotifications_eq_nil enumerates sameIds, List.filterMap_nil, List.append_nil]
      exact sameAddressees

/-- A notification stays under its number; it is as it was, or its recipient has marked it
as read. -/
theorem Occasion.Posts.notification_after {ledger after : Ledger} {occasion : Occasion}
    {events : List Event} (posts : occasion.Posts ledger events after) {id : NotificationId}
    {notification : Notification} (found : ledger.notification? id = some notification) :
    ∃ later, after.notification? id = some later ∧
      (later = notification ∨ notification.isRead = false ∧
        later = { notification with isRead := true } ∧
        ∃ now, occasion = .call (.markRead notification.recipient id) now) := by
  cases posts with
  | stored fits notifications =>
      refine ⟨notification, ?_, .inl rfl⟩
      rw [Ledger.notification?] at found
      rw [Ledger.notification?, notifications, List.find?_append, found, Option.some_or]
  | @read now marked target isTarget =>
      have stored := ledger.notification?_readNotification marked id
      rw [found, Option.map_some] at stored
      refine ⟨_, stored, ?_⟩
      have sameId : notification.id = id := by
        have satisfied := List.find?_some found
        simpa using satisfied
      by_cases isMarked : notification.id = marked
      · rw [if_pos isMarked]
        obtain rfl : id = marked := sameId.symm.trans isMarked
        cases found.symm.trans isTarget
        -- To mark a notification again that is read already changes nothing.
        cases unread : notification.isRead with
        | true =>
            have same : { notification with isRead := true } = notification := by
              rw [← unread]
            exact .inl same
        | false => exact .inr ⟨rfl, rfl, now, rfl⟩
      · exact .inl (if_neg isMarked)

namespace History

theorem enumerates (history : History) : history.ledger.Enumerates := by
  induction history with
  | start rules snapshot =>
      rw [ledger, Ledger.ofSnapshot_eq]
      rfl
  | next earlier occasion ih => exact ih.of_posts (occasion.posts earlier.ledger)

/-- Notifications are never removed, and only their recipients change the mark. -/
theorem notification?_extend {history : History} {id : NotificationId}
    {notification : Notification} (found : history.ledger.notification? id = some notification)
    (occasions : List Occasion) :
    ∃ later, (history.extend occasions).ledger.notification? id = some later ∧
      (later = notification ∨ notification.isRead = false ∧
        later = { notification with isRead := true } ∧
        ∃ now, .call (.markRead notification.recipient id) now ∈ occasions) := by
  induction occasions generalizing history notification with
  | nil => exact ⟨notification, found, .inl rfl⟩
  | cons occasion rest ih =>
      obtain ⟨next, stored, step⟩ := (occasion.posts history.ledger).notification_after found
      obtain ⟨last, isLast, run⟩ := @ih (history.next occasion) next stored
      refine ⟨last, isLast, ?_⟩
      -- Only one of the occasions can mark it, since a marked one never changes.
      rcases step with rfl | ⟨unread, rfl, now, rfl⟩
      · rcases run with rfl | ⟨unread, marked, now, member⟩
        · exact .inl rfl
        · exact .inr ⟨unread, marked, now, List.mem_cons_of_mem _ member⟩
      · rcases run with rfl | ⟨unread, _⟩
        · exact .inr ⟨unread, rfl, now, List.mem_cons_self⟩
        · cases unread

end History

end TaskBoard
