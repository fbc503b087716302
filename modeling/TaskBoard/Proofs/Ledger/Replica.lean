import TaskBoard.Proofs.Ledger.Contents

/-!
# Replicas of the ledger

A subscriber that knows the tasks of a snapshot can follow the ledger by the events
that are published.  A replica is what such a subscriber keeps: the parts of the
ledger that events tell of.  Some events name the value that they replace, so a
replica can check what it is told against what it holds.
-/

namespace TaskBoard

/-- What events tell of a task. -/
structure Outline where
  id : TaskId
  creator : Account
  title : String
  assignee : Option Account
  status : Status
  deriving DecidableEq

/-- The outline of a task. -/
def Outline.ofTask (task : Task) : Outline where
  id := task.id
  creator := task.creator
  title := task.title
  assignee := task.assignee
  status := task.status

/-- What a subscriber knows of the ledger. -/
structure Replica where
  tasks : List Outline
  score : Account → Word32
  achievers : List Account
  /-- The higher levels that accounts have reached, in the order in which it was told. -/
  levels : List (Account × Level)

namespace Replica

/-- The replica that knows the tasks of a ledger and nothing else. -/
def opening (tasks : List Task) : Replica where
  tasks := tasks.map Outline.ofTask
  score _ := 0
  achievers := []
  levels := []

/-- The status of the task with an identifier. -/
def status? (replica : Replica) (id : TaskId) : Option Status :=
  (replica.tasks.find? fun task => task.id == id).map Outline.status

/-- The replica with one task changed. -/
def updateTask (replica : Replica) (id : TaskId) (change : Outline → Outline) : Replica :=
  { replica with
    tasks := replica.tasks.map fun task => if task.id = id then change task else task }

/-- The replica after an event. -/
def apply (replica : Replica) : Event → Replica
  | .taskCreated id creator title =>
      { replica with tasks := replica.tasks ++ [⟨id, creator, title, none, .pending⟩] }
  | .taskAssigned id assignee =>
      replica.updateTask id fun task => { task with assignee := some assignee }
  | .statusChanged id _ status => replica.updateTask id fun task => { task with status }
  | .scoreChanged account _ _ score =>
      { replica with
        score := fun other => if other = account then score else replica.score other }
  | .levelUp account _ level => { replica with levels := replica.levels ++ [(account, level)] }
  | .achievementUnlocked account _ =>
      { replica with achievers := replica.achievers ++ [account] }
  | _ => replica

/-- The event agrees with what the replica holds: it replaces the status or the score
that is there, and a higher level is that of the score. -/
def Expects (replica : Replica) : Event → Prop
  | .statusChanged id before _ => replica.status? id = some before
  | .scoreChanged account _ before _ => replica.score account = before
  | .levelUp account _ level => Level.ofScore (replica.score account).val = level
  | _ => True

/-- The replica after events. -/
def replay (replica : Replica) (events : List Event) : Replica := events.foldl apply replica

/-- Each of the events agrees with what the replica holds just before it. -/
def Follows : Replica → List Event → Prop
  | _, [] => True
  | replica, event :: rest => replica.Expects event ∧ (replica.apply event).Follows rest

theorem replay_append (replica : Replica) (first rest : List Event) :
    replica.replay (first ++ rest) = (replica.replay first).replay rest :=
  List.foldl_append

theorem follows_append (replica : Replica) (first rest : List Event) :
    replica.Follows (first ++ rest) ↔
      replica.Follows first ∧ (replica.replay first).Follows rest := by
  induction first generalizing replica with
  | nil => exact (Iff.of_eq (true_and _)).symm
  | cons event first ih =>
      rw [List.cons_append, Follows, Follows, ih (replica.apply event), and_assoc]
      rfl

/-- The replica agrees with the ledger. -/
structure Mirrors (replica : Replica) (ledger : Ledger) : Prop where
  tasks : replica.tasks = ledger.tasks.map Outline.ofTask
  score : ∀ account, replica.score account = (ledger.reputation account).totalScore
  achievers : replica.achievers = ledger.achievers

theorem Mirrors.status?_eq {replica : Replica} {ledger : Ledger}
    (mirrors : replica.Mirrors ledger) (id : TaskId) :
    replica.status? id = ledger.status? id := by
  rw [status?, mirrors.tasks, List.find?_map, Option.map_map]
  rfl

theorem opening_mirrors (rules : Rules) (snapshot : List Task) :
    (opening (Ledger.ofSnapshot rules snapshot).tasks).Mirrors (.ofSnapshot rules snapshot) := by
  rw [Ledger.ofSnapshot_eq]
  exact ⟨rfl, fun _ => rfl, rfl⟩

end Replica

/-- The events tell how one ledger became another: every replica of the first ledger
agrees with each event, and with the second ledger in the end. -/
def Recounts (events : List Event) (before after : Ledger) : Prop :=
  ∀ replica : Replica, replica.Mirrors before →
    replica.Follows events ∧ (replica.replay events).Mirrors after

namespace Recounts

variable {before after reached : Ledger}

theorem append {first rest : List Event} (told : Recounts first before reached)
    (further : Recounts rest reached after) : Recounts (first ++ rest) before after := by
  intro replica mirrors
  have toReached := told replica mirrors
  have toAfter := further (replica.replay first) toReached.2
  rw [Replica.follows_append, Replica.replay_append]
  exact ⟨⟨toReached.1, toAfter.1⟩, toAfter.2⟩

/-- Nothing has to be told of a write that no replica can see. -/
theorem of_unseen
    (tasks : after.tasks.map Outline.ofTask = before.tasks.map Outline.ofTask)
    (reputations : after.reputations = before.reputations)
    (achievers : after.achievers = before.achievers) : Recounts [] before after := by
  intro replica mirrors
  refine ⟨trivial, mirrors.tasks.trans tasks.symm, ?_, mirrors.achievers.trans achievers.symm⟩
  intro account
  rw [Ledger.reputation, reputations]
  exact mirrors.score account

theorem then_unseen {events : List Event} (told : Recounts events before reached)
    (tasks : after.tasks.map Outline.ofTask = reached.tasks.map Outline.ofTask)
    (reputations : after.reputations = reached.reputations)
    (achievers : after.achievers = reached.achievers) : Recounts events before after := by
  have further := told.append (of_unseen tasks reputations achievers)
  rw [List.append_nil] at further
  exact further

end Recounts

end TaskBoard
