import TaskBoard.Proofs.Ledger.Atomicity
import TaskBoard.Proofs.Ledger.Numbering

/-!
# Histories of the ledger

A history begins with a snapshot and goes on with occasions: calls, which the
ledger may accept or refuse, and losses and returns of the connection.  It
determines the ledger that is reached and the events that are published.
-/

namespace TaskBoard

/-- What happens to a ledger: an account calls it at an instant, or its connection
is lost or restored. -/
inductive Occasion where
  | call (command : Command) (now : Instant)
  | connection (offline : Bool)

namespace Occasion

/-- The ledger after the occasion. -/
def after (occasion : Occasion) (ledger : Ledger) : Ledger :=
  match occasion with
  | call command now => (command.run now ledger).2
  | connection offline => ledger.setOffline offline

/-- The events that are published on the occasion. -/
def published (occasion : Occasion) (ledger : Ledger) : List Event :=
  match occasion with
  | call command now => command.published now ledger
  | connection _ => []

/-- The three ways an occasion may go: a refused call, an accepted one, or a
change of the connection. -/
inductive Outcome (ledger : Ledger) : Occasion → List Event → Ledger → Prop where
  | refused {command : Command} {now : Instant} {refusal : Refusal}
      (refused : command.run now ledger = (.error refusal, ledger)) :
      Outcome ledger (.call command now) [] ledger
  | accepted {command : Command} {now : Instant} {receipt : Receipt (Option TaskId)}
      {after : Ledger} (accepted : Command.Accepted now ledger command receipt after) :
      Outcome ledger (.call command now) receipt.events after
  | connection {offline : Bool} :
      Outcome ledger (.connection offline) [] (ledger.setOffline offline)

theorem outcome (occasion : Occasion) (ledger : Ledger) :
    Outcome ledger occasion (occasion.published ledger) (occasion.after ledger) := by
  cases occasion with
  | connection offline => exact .connection
  | call command now =>
      simp only [published, after]
      rcases ran : command.run now ledger with ⟨refusal | receipt, reached⟩
      · have unchanged := Command.ledger_eq_of_run_eq_error ran
        subst unchanged
        rw [Command.published_of_run_eq_error ran]
        exact .refused ran
      · rw [Command.published_of_run_eq_ok ran]
        exact .accepted (Command.run_eq_ok_iff.mp ran)

end Occasion

/-- A snapshot and what happened since to the ledger that began with it. -/
inductive History where
  | start (rules : Rules) (snapshot : List Task)
  | next (earlier : History) (occasion : Occasion)

namespace History

/-- The ledger that the history begins with. -/
def opening : History → Ledger
  | start rules snapshot => .ofSnapshot rules snapshot
  | next earlier _ => earlier.opening

/-- The ledger that the history leads to. -/
def ledger : History → Ledger
  | start rules snapshot => .ofSnapshot rules snapshot
  | next earlier occasion => occasion.after earlier.ledger

/-- All events published, in order. -/
def events : History → List Event
  | start _ _ => []
  | next earlier occasion => earlier.events ++ occasion.published earlier.ledger

/-- The history that goes on with further occasions. -/
def extend (history : History) (occasions : List Occasion) : History :=
  occasions.foldl next history

/-- What one further occasion keeps is kept by any number of them. -/
theorem extend_keeps (property : History → Prop) {history : History} (holds : property history)
    (kept : ∀ (earlier : History) (occasion : Occasion),
      property earlier → property (earlier.next occasion)) (occasions : List Occasion) :
    property (history.extend occasions) := by
  induction occasions generalizing history with
  | nil => exact holds
  | cons occasion rest ih => exact ih (kept history occasion holds)

/-- What holds of every ledger that begins with a snapshot and is kept by accepted
calls and by changes of the connection holds of every ledger that is reached. -/
theorem invariant {property : Ledger → Prop}
    (atStart : ∀ rules snapshot, property (.ofSnapshot rules snapshot))
    (connection : ∀ {ledger : Ledger} {offline : Bool},
      property ledger → property (ledger.setOffline offline))
    (accepted : ∀ {now : Instant} {ledger after : Ledger} {command : Command}
      {receipt : Receipt (Option TaskId)},
      Command.Accepted now ledger command receipt after → property ledger → property after)
    (history : History) : property history.ledger := by
  induction history with
  | start rules snapshot => exact atStart rules snapshot
  | next earlier occasion ih =>
      have outcome := occasion.outcome earlier.ledger
      rw [ledger]
      generalize occasion.published earlier.ledger = events,
        occasion.after earlier.ledger = reached at outcome ⊢
      cases outcome with
      | refused => exact ih
      | accepted call => exact accepted call ih
      | connection => exact connection ih

/-- No history leads to a task with a greater number than the last one given. -/
theorem numbered (history : History) : history.ledger.Numbered :=
  history.invariant Ledger.numbered_ofSnapshot (fun numbered => numbered)
    Ledger.Numbered.of_accepted

end History

end TaskBoard
