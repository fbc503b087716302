import TaskBoard.Ledger.Subscription
import TaskBoard.Proofs.Ledger.Atomicity

/-!
# Calls without a connection

While the connection is lost, every call is refused and changes nothing.  Nearly all
calls ask for the connection first and are refused for want of it, which is worth
another attempt.  A draft without title and a rating out of range are refused for
themselves, with or without a connection.
-/

namespace TaskBoard

/-- A call of the ledger from outside: a question, a subscription or a command. -/
inductive Call where
  | listTasks
  | notificationsFor (account : Account)
  | reputationOf (account : Account)
  | subscribe (category : Category)
  | command (command : Command) (now : Instant)

namespace Call

/-- Why an answer refuses, if it does. -/
def refusalOf? {α : Type} : Except Refusal α → Option Refusal
  | .ok _ => none
  | .error refusal => some refusal

/-- Why a call is refused, if it is. -/
def refusal? (ledger : Ledger) : Call → Option Refusal
  | listTasks => refusalOf? ledger.listTasks
  | notificationsFor account => refusalOf? (ledger.notificationsFor account)
  | reputationOf account => refusalOf? (ledger.reputationOf account)
  | subscribe category => refusalOf? (ledger.subscribe category)
  | command call now => refusalOf? (call.run now ledger).1

/-- The ledger after a call. -/
def after (ledger : Ledger) : Call → Ledger
  | command call now => (call.run now ledger).2
  | _ => ledger

/-- The events that a call publishes. -/
def published (ledger : Ledger) : Call → List Event
  | command call now => call.published now ledger
  | _ => []

end Call

namespace Command

/-- Why the arguments of a command are refused before the ledger is looked at, if they are. -/
def objection? : Command → Option Refusal
  | create _ draft =>
      if Text.isAllBlank draft.title then some (.rejected .emptyTitle) else none
  | evaluate _ _ rating _ =>
      if 1 ≤ rating.val ∧ rating.val ≤ 5 then none else some (.invalidRating rating)
  | _ => none

end Command

/-- Why the arguments of a call are refused before the ledger is looked at, if they are. -/
def Call.objection? : Call → Option Refusal
  | command call _ => call.objection?
  | _ => none

namespace Transaction

variable {α β : Type} {ledger after : Ledger} {refusal : Refusal}

theorem on_bind_of_error {first : Transaction α}
    (refused : first.on ledger = (.error refusal, after)) (rest : α → Transaction β) :
    (first >>= rest).on ledger = (.error refusal, after) :=
  on_bind_eq_error.mpr (.inl refused)

/-- Behind the question for the connection nothing happens while it is lost. -/
theorem on_requireOnline_bind_of_offline (offline : ledger.offline = true)
    (rest : Unit → Transaction β) :
    (requireOnline >>= rest).on ledger = (.error .disconnected, ledger) := by
  apply on_bind_of_error
  rw [on_requireOnline, offline]
  rfl

/-- A requirement that stands before the question for the connection decides first. -/
theorem on_require_bind_of_offline (offline : ledger.offline = true) (condition : Bool)
    (refusal : Refusal) (rest : Unit → Transaction β) :
    (require condition refusal >>= fun _ => requireOnline >>= rest).on ledger =
      (.error (if condition then .disconnected else refusal), ledger) := by
  rw [on_bind, on_require]
  cases condition
  · rfl
  · exact on_requireOnline_bind_of_offline offline rest

end Transaction

theorem Ledger.checkOnline_of_offline {ledger : Ledger} (offline : ledger.offline = true) :
    ledger.checkOnline = .error .disconnected := if_pos offline

/-- Without a connection a command is refused for its arguments if they can be refused by
themselves, else for want of the connection. -/
theorem Command.run_of_offline {ledger : Ledger} (offline : ledger.offline = true)
    (command : Command) (now : Instant) :
    command.run now ledger = (.error (command.objection?.getD .disconnected), ledger) := by
  cases command with
  | create signer draft =>
      apply Transaction.on_bind_of_error
      rw [Transaction.create, Transaction.on_require_bind_of_offline offline, objection?]
      cases Text.isAllBlank draft.title <;> rfl
  | evaluate signer task rating comment =>
      apply Transaction.on_bind_of_error
      rw [Transaction.evaluate, Transaction.on_require_bind_of_offline offline, objection?]
      simp only [Bool.and_eq_true, decide_eq_true_eq]
      split <;> rfl
  | assign | changeStatus | vote | markRead =>
      apply Transaction.on_bind_of_error
      exact Transaction.on_requireOnline_bind_of_offline offline _

namespace Call

theorem refusal?_of_offline {ledger : Ledger} (offline : ledger.offline = true) (call : Call) :
    call.refusal? ledger = some (call.objection?.getD .disconnected) := by
  cases call with
  | listTasks =>
      rw [refusal?, Ledger.listTasks, Ledger.checkOnline_of_offline offline]
      rfl
  | notificationsFor account =>
      rw [refusal?, Ledger.notificationsFor, Ledger.checkOnline_of_offline offline]
      rfl
  | reputationOf account =>
      rw [refusal?, Ledger.reputationOf, Ledger.checkOnline_of_offline offline]
      rfl
  | subscribe category =>
      rw [refusal?, Ledger.subscribe, Ledger.checkOnline_of_offline offline]
      rfl
  | command call now =>
      rw [refusal?, Command.run_of_offline offline]
      rfl

theorem isTransient_of_objection?_eq_some {call : Call} {refusal : Refusal}
    (objection : call.objection? = some refusal) : refusal.isTransient = false := by
  cases call with
  | command call now =>
      cases call with
      | create signer draft =>
          rw [Call.objection?, Command.objection?] at objection
          split at objection <;> cases objection
          rfl
      | evaluate signer task rating comment =>
          rw [Call.objection?, Command.objection?] at objection
          split at objection <;> cases objection
          rfl
      | assign | changeStatus | vote | markRead => cases objection
  | listTasks | notificationsFor | reputationOf | subscribe => cases objection

/-- While the connection is lost, every call with any arguments is refused, leaves the
ledger as it is and publishes nothing.  It is refused for want of the connection, and so
worth another attempt, exactly if its arguments are not refused by themselves. -/
theorem refused_while_offline (ledger : Ledger) (offline : ledger.offline = true) (call : Call) :
    call.refusal? ledger = some (call.objection?.getD .disconnected) ∧
    (call.refusal? ledger = some .disconnected ↔ call.objection? = none) ∧
    (∀ refusal, call.refusal? ledger = some refusal →
      (refusal.isTransient = true ↔ call.objection? = none)) ∧
    call.after ledger = ledger ∧ call.published ledger = [] := by
  have refused := refusal?_of_offline offline call
  refine ⟨refused, ?_, ?_, ?_⟩
  · rw [refused]
    cases objection : call.objection? with
    | none => simp
    | some refusal =>
        have permanent := isTransient_of_objection?_eq_some objection
        refine iff_of_false ?_ (Option.some_ne_none refusal)
        rintro ⟨⟩
        cases permanent
  · rw [refused]
    rintro refusal ⟨⟩
    cases objection : call.objection? with
    | none => simp [Refusal.isTransient]
    | some refusal => simp [isTransient_of_objection?_eq_some objection]
  · cases call with
    | command call now =>
        have ran := Command.run_of_offline offline call now
        exact ⟨congrArg Prod.snd ran, Command.published_of_run_eq_error ran⟩
    | listTasks | notificationsFor | reputationOf | subscribe => exact ⟨rfl, rfl⟩

/-- A ledger whose connection is lost. -/
def severed : Ledger := (Ledger.empty .standard).setOffline true

/-- A vote waits for the connection, and a draft without title does not. -/
theorem refused_while_offline_severed :
    let vote : Call := .command (.vote ⟨"bob"⟩ ⟨1, Nat.one_pos⟩ true) .epoch
    severed.offline = true ∧ vote.refusal? severed = some .disconnected ∧
      vote.after severed = severed := by
  intro vote
  obtain ⟨_, disconnected, _, unchanged, _⟩ := refused_while_offline severed rfl vote
  exact ⟨rfl, disconnected.mpr rfl, unchanged⟩

/-- It is not true that every call is refused for want of the connection while it is lost:
a blank title and a rating of six are refused for good. -/
theorem untitled_not_disconnected :
    let untitled : Call := .command (.create ⟨"alice"⟩ (.titled " ")) .epoch
    let unrated : Call := .command (.evaluate ⟨"alice"⟩ ⟨1, Nat.one_pos⟩ 6 "") .epoch
    severed.offline = true ∧
      untitled.refusal? severed = some (.rejected .emptyTitle) ∧
      unrated.refusal? severed = some (.invalidRating 6) ∧
      Refusal.isTransient (.rejected .emptyTitle) = false ∧
      Refusal.isTransient (.invalidRating 6) = false :=
  ⟨rfl, by decide, rfl, rfl, rfl⟩

end Call

end TaskBoard
