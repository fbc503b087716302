import Mathlib
import TaskBoard.Proofs.Ledger.Rewards
import TaskBoard.Proofs.Lookup
import TaskBoard.Proofs.Text.ByteOrder

/-!
# The leaderboard

The leaderboard is the beginning of one list of all accounts whose score was ever
published to change, whatever the score is now.  The accounts are different, so the
order of entries is strict on them, and the limit only says where the list is cut.
-/

namespace TaskBoard

/-- The account whose score an event tells to change. -/
def Event.scored? : Event → Option Account
  | .scoreChanged account _ _ _ => some account
  | _ => none

/-- The accounts whose score was published to change, as often as it was. -/
def History.scored (history : History) : List Account :=
  history.events.filterMap Event.scored?

/-- An entry stands before another on the leaderboard: by the higher score, and at the
same score by the lesser name, compared byte by byte. -/
def Ledger.RanksBefore (left right : Account × Reputation) : Prop :=
  right.2.totalScore.val < left.2.totalScore.val ∨
    left.2.totalScore.val = right.2.totalScore.val ∧
      Text.encode left.1.name.toList < Text.encode right.1.name.toList

/-! ### Accounts with a reputation -/

theorem Event.scored?_of_not_isReward (event : Event) (noReward : event.isReward = false) :
    event.scored? = none := by
  cases event with
  | scoreChanged => cases noReward
  | _ => rfl

theorem Promotion.filterMap_scored?_events (promotion : Promotion) :
    promotion.events.filterMap Event.scored? = [promotion.account] := by
  rw [events]
  split
  · rfl
  · rfl

/-- The events tell of a score as the change does. -/
theorem StatusChange.Seen.filterMap_scored? {change : StatusChange} {ledger after : Ledger}
    {events : List Event} (seen : change.Seen ledger events after) :
    events.filterMap Event.scored? = (change.promotion.map Promotion.account).toList := by
  rw [← Event.filterMap_filter_isReward Event.scored?_of_not_isReward, seen.rewards,
    filterMap_rewards]
  cases change.promotion with
  | none => simp [Event.scored?]
  | some promotion => simp [Event.scored?, Promotion.filterMap_scored?_events]

namespace Ledger

variable {ledger after : Ledger}

/-- An account that has no reputation yet is put behind those that have one. -/
theorem map_fst_putReputation (account : Account) (reputation : Reputation)
    (reputations : List (Account × Reputation)) :
    (putReputation account reputation reputations).map Prod.fst =
      if account ∈ reputations.map Prod.fst then reputations.map Prod.fst
      else reputations.map Prod.fst ++ [account] := by
  induction reputations with
  | nil => rfl
  | cons first rest ih =>
      obtain ⟨owner, kept⟩ := first
      by_cases same : owner = account
      · simp [putReputation, same]
      · simp only [putReputation, same, ↓reduceIte, List.map_cons, ih, List.mem_cons,
          Ne.symm same, false_or]
        split
        · rfl
        · rfl

/-- The accounts that have a reputation are different, and they are those of a list. -/
structure Lists (ledger : Ledger) (accounts : List Account) : Prop where
  nodup : (ledger.reputations.map Prod.fst).Nodup
  mem_iff : ∀ account, account ∈ ledger.reputations.map Prod.fst ↔ account ∈ accounts

theorem Lists.of_seen {accounts : List Account} (lists : ledger.Lists accounts)
    {change : StatusChange} {events : List Event} (seen : change.Seen ledger events after) :
    after.Lists (accounts ++ events.filterMap Event.scored?) := by
  rw [seen.filterMap_scored?]
  have stored := congrArg (List.map Prod.fst) seen.reputations
  cases brought : change.promotion with
  | none =>
      rw [brought] at stored
      rw [Option.map_none, Option.toList_none, List.append_nil]
      exact ⟨stored ▸ lists.nodup, fun account => stored ▸ lists.mem_iff account⟩
  | some promotion =>
      rw [brought] at stored
      have put := stored.trans (map_fst_putReputation promotion.account promotion.reputation _)
      rw [Option.map_some, Option.toList_some]
      constructor
      · rw [put]
        split
        · exact lists.nodup
        · next isNew =>
            rw [← List.concat_eq_append]
            exact lists.nodup.concat isNew
      · intro account
        rw [put, List.mem_append, List.mem_singleton, ← lists.mem_iff]
        split
        · next isOld =>
            constructor
            · exact .inl
            · rintro (member | rfl)
              · exact member
              · exact isOld
        · rw [List.mem_append, List.mem_singleton]

theorem Lists.length_eq {accounts : List Account} (lists : ledger.Lists accounts) :
    ledger.reputations.length = accounts.dedup.length := by
  have permuted : (ledger.reputations.map Prod.fst).Perm accounts.dedup :=
    (List.perm_ext_iff_of_nodup lists.nodup accounts.nodup_dedup).mpr fun account =>
      (lists.mem_iff account).trans List.mem_dedup.symm
  rw [← permuted.length_eq, List.length_map]

/-- Where accounts are different, each entry holds the reputation of its account. -/
theorem reputation_of_mem (distinct : (ledger.reputations.map Prod.fst).Nodup)
    {entry : Account × Reputation} (member : entry ∈ ledger.reputations) :
    ledger.reputation entry.1 = entry.2 := by
  have found : ledger.reputations.lookup entry.1 = some entry.2 :=
    (lookup_eq_some_iff_mem distinct).mpr member
  rw [reputation, found]
  rfl

end Ledger

theorem History.lists (history : History) : history.ledger.Lists history.scored := by
  induction history with
  | start rules snapshot =>
      rw [ledger, Ledger.ofSnapshot_eq]
      exact ⟨List.nodup_nil, fun _ => Iff.rfl⟩
  | next earlier occasion ih =>
      obtain ⟨change, completes, _, seen⟩ := occasion.brings earlier.enumerates
      rw [scored, events, List.filterMap_append]
      exact ih.of_seen seen

/-! ### The order of entries -/

namespace Ledger

theorem outranks_iff {left right : Account × Reputation} :
    outranks left right = true ↔
      right.2.totalScore.val < left.2.totalScore.val ∨
        left.2.totalScore.val = right.2.totalScore.val ∧ left.1.name ≤ right.1.name := by
  rw [outranks, Bool.or_eq_true, Bool.and_eq_true, decide_eq_true_eq, decide_eq_true_eq,
    decide_eq_true_eq, eq_comm (a := right.2.totalScore.val)]

theorem outranks_total (left right : Account × Reputation) :
    (outranks left right || outranks right left) = true := by
  rw [Bool.or_eq_true, outranks_iff, outranks_iff]
  rcases Nat.lt_trichotomy left.2.totalScore.val right.2.totalScore.val with
    less | same | greater
  · exact .inr (.inl less)
  · exact (String.le_total left.1.name right.1.name).imp (fun name => .inr ⟨same, name⟩)
      fun name => .inr ⟨same.symm, name⟩
  · exact .inl (.inl greater)

theorem outranks_trans (first second third : Account × Reputation)
    (before : outranks first second = true) (behind : outranks second third = true) :
    outranks first third = true := by
  rw [outranks_iff] at before behind ⊢
  rcases before with higher | ⟨same, name⟩
  · exact .inl (by omega)
  · rcases behind with higher | ⟨alsoSame, alsoName⟩
    · exact .inl (by omega)
    · exact .inr ⟨same.trans alsoSame, String.le_trans name alsoName⟩

/-- The order of entries of different accounts is strict. -/
theorem ranksBefore_of_outranks {left right : Account × Reputation}
    (before : outranks left right = true) (different : left.1 ≠ right.1) :
    RanksBefore left right := by
  rcases outranks_iff.mp before with higher | ⟨same, name⟩
  · exact .inl higher
  · refine .inr ⟨same, Text.encode_lt_iff.mpr (String.lt_iff.mp ?_)⟩
    exact Std.lt_of_le_of_ne name fun equal => different (congrArg Account.mk equal)

/-- All entries in the order of the leaderboard. -/
def ranking (ledger : Ledger) : List (Account × Reputation) :=
  ledger.reputations.mergeSort outranks

theorem ranking_perm (ledger : Ledger) : ledger.ranking.Perm ledger.reputations :=
  List.mergeSort_perm _ _

theorem Lists.pairwise_ranking {ledger : Ledger} {accounts : List Account}
    (lists : ledger.Lists accounts) : ledger.ranking.Pairwise RanksBefore := by
  have sorted := List.pairwise_mergeSort outranks_trans outranks_total ledger.reputations
  have distinct := (ledger.ranking_perm.map Prod.fst).nodup_iff.mpr lists.nodup
  exact (sorted.and (List.pairwise_map.mp distinct)).imp fun ⟨before, different⟩ =>
    ranksBefore_of_outranks before different

end Ledger

namespace History

/-- The leaderboard lists different accounts with their present reputations, as many as
were published to have changed or as the limit allows, in the order of descending scores
and, at one score, ascending names.  A greater limit adds entries at the end, and those
that are left out rank behind those that are listed. -/
theorem leaderboard_ranks (history : History) {fewer more : Nat} (le : fewer ≤ more) :
    let board := history.ledger.leaderboard fewer
    board <+: history.ledger.leaderboard more ∧
    board.length = min fewer history.scored.dedup.length ∧
    (board.map Prod.fst).Nodup ∧
    (∀ entry ∈ board, entry.1 ∈ history.scored ∧ entry.2 = history.ledger.reputation entry.1) ∧
    board.Pairwise Ledger.RanksBefore ∧
    ∀ account ∈ history.scored, account ∉ board.map Prod.fst → ∀ entry ∈ board,
      Ledger.RanksBefore entry (account, history.ledger.reputation account) := by
  intro board
  have lists := history.lists
  have listed := history.ledger.ranking_perm
  have distinct := (listed.map Prod.fst).nodup_iff.mpr lists.nodup
  have sorted := lists.pairwise_ranking
  have cut : board.Sublist history.ledger.ranking := List.take_sublist _ _
  refine ⟨List.take_prefix_take_left le, ?_, distinct.sublist (cut.map Prod.fst), ?_,
    sorted.sublist cut, ?_⟩
  · rw [← lists.length_eq, ← listed.length_eq]
    exact List.length_take
  · intro entry member
    have held := listed.mem_iff.mp (cut.subset member)
    exact ⟨(lists.mem_iff _).mp (List.mem_map_of_mem held),
      (Ledger.reputation_of_mem lists.nodup held).symm⟩
  · intro account isScored leftOut entry isListed
    obtain ⟨other, held, rfl⟩ := List.mem_map.mp ((lists.mem_iff account).mpr isScored)
    have behind : other ∈ history.ledger.ranking.drop fewer := by
      have member := listed.mem_iff.mpr held
      rw [← List.take_append_drop fewer history.ledger.ranking, List.mem_append] at member
      exact member.resolve_left fun inBoard => leftOut (List.mem_map_of_mem inBoard)
    rw [Ledger.reputation_of_mem lists.nodup held]
    rw [← List.take_append_drop fewer history.ledger.ranking] at sorted
    exact (List.pairwise_append.mp sorted).2.2 entry isListed other behind

/-- Bob and carol have each completed a task, and a task of dave's was cancelled. -/
def threeScored : History :=
  let numbered (number : Word32) (positive : 0 < number.val) (worker : Account) : Task :=
    { Task.fresh ⟨number, positive⟩ "Review" ⟨"alice"⟩ .epoch with
      assignee := some worker, status := .inProgress }
  (start .standard
      [numbered 1 (by decide) ⟨"dave"⟩, numbered 2 (by decide) ⟨"carol"⟩,
        numbered 3 (by decide) ⟨"bob"⟩]).extend
    [.call (.changeStatus ⟨"alice"⟩ ⟨1, by decide⟩ .cancelled) .epoch,
      .call (.changeStatus ⟨"alice"⟩ ⟨2, by decide⟩ .completed) .epoch,
      .call (.changeStatus ⟨"alice"⟩ ⟨3, by decide⟩ .completed) .epoch]

/-- Bob stands before carol by name; dave, whose score is still zero, stands behind both and
is listed if there is room for three. -/
theorem leaderboard_ranks_threeScored :
    let board := threeScored.ledger.leaderboard 2
    2 ≤ 3 ∧ board.map Prod.fst = [⟨"bob"⟩, ⟨"carol"⟩] ∧
      board <+: threeScored.ledger.leaderboard 3 ∧
      (threeScored.ledger.leaderboard 3).length = 3 ∧
      ⟨"dave"⟩ ∈ threeScored.scored ∧ ⟨"dave"⟩ ∉ board.map Prod.fst ∧
      ∀ entry ∈ board,
        Ledger.RanksBefore entry (⟨"dave"⟩, threeScored.ledger.reputation ⟨"dave"⟩) := by
  intro board
  have scored : threeScored.scored = [⟨"dave"⟩, ⟨"carol"⟩, ⟨"bob"⟩] := rfl
  have listed : (threeScored.ledger.leaderboard 2).map Prod.fst = [⟨"bob"⟩, ⟨"carol"⟩] := by cbv
  have hasScored : (⟨"dave"⟩ : Account) ∈ threeScored.scored := by simp [scored]
  have leftOut : (⟨"dave"⟩ : Account) ∉ board.map Prod.fst := by simp [board, listed]
  have le : 2 ≤ 3 := by decide
  obtain ⟨begins, _, _, _, _, behind⟩ := threeScored.leaderboard_ranks le
  obtain ⟨_, length, _⟩ := threeScored.leaderboard_ranks (Nat.le_refl 3)
  rw [scored] at length
  exact ⟨le, listed, begins, length.trans (by decide), hasScored, leftOut,
    behind _ hasScored leftOut⟩

end History

end TaskBoard
