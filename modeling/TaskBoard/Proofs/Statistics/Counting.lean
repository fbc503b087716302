import Mathlib.Algebra.GroupWithZero.Nat
import Mathlib.Tactic.SplitIfs
import TaskBoard.Proofs.Search.Conditions
import TaskBoard.Proofs.Search.Pagination
import TaskBoard.Statistics

/-!
# What statistics count

Statistics are collected one task after the other.  `Statistics.Counted` says what
has been collected after some tasks, and every further task keeps it.  Each count
is the number of tasks that a search with the filter for it reports, and every task
is counted once by its status, its priority, its difficulty and its reward.
-/

namespace TaskBoard

/-! ### Tallies -/

namespace Tally

variable {κ : Type} [DecidableEq κ] {rank : κ → Nat} {key other : κ} {tally : Tally κ}

/-- The keys stand in ascending order. -/
def Ascending (rank : κ → Nat) (tally : Tally κ) : Prop :=
  tally.Pairwise fun left right => rank left.1 < rank right.1

/-- How often keys were counted altogether. -/
def total (tally : Tally κ) : Nat := (tally.map Prod.snd).sum

theorem countOf_cons (entry : κ × Nat) (tally : Tally κ) (key : κ) :
    countOf (entry :: tally) key = if key = entry.1 then entry.2 else countOf tally key := by
  rw [countOf, List.lookup_cons]
  by_cases same : key = entry.1
  · simp [same]
  · rw [beq_eq_false_iff_ne.mpr same, if_neg same, countOf]

/-- A key below all others was not counted. -/
theorem countOf_eq_zero (below : ∀ entry ∈ tally, rank key < rank entry.1) :
    tally.countOf key = 0 := by
  induction tally with
  | nil => rfl
  | cons entry rest ih =>
      have different : key ≠ entry.1 := by
        intro same
        have lower := below entry List.mem_cons_self
        rw [same] at lower
        exact Nat.lt_irrefl _ lower
      rw [countOf_cons, if_neg different]
      exact ih fun later isLater => below later (List.mem_cons_of_mem entry isLater)

theorem total_increment (rank : κ → Nat) (key : κ) (tally : Tally κ) :
    (tally.increment rank key).total = tally.total + 1 := by
  induction tally with
  | nil => rfl
  | cons entry rest ih =>
      rw [increment]
      split
      · simp [total, Nat.add_comm]
      · split
        · simp only [total, List.map_cons, List.sum_cons]
          omega
        · simp only [total, List.map_cons, List.sum_cons] at ih ⊢
          omega

theorem fst_of_mem_increment {entry : κ × Nat} (member : entry ∈ tally.increment rank key) :
    entry.1 = key ∨ ∃ earlier ∈ tally, entry.1 = earlier.1 := by
  induction tally with
  | nil => exact .inl (congrArg Prod.fst (List.mem_singleton.mp member))
  | cons first rest ih =>
      rw [increment] at member
      split at member
      · rcases List.mem_cons.mp member with rfl | isEarlier
        · exact .inl rfl
        · exact .inr ⟨entry, isEarlier, rfl⟩
      · split at member
        · rcases List.mem_cons.mp member with rfl | isEarlier
          · exact .inr ⟨first, List.mem_cons_self, rfl⟩
          · exact .inr ⟨entry, List.mem_cons_of_mem first isEarlier, rfl⟩
        · rcases List.mem_cons.mp member with rfl | isLater
          · exact .inr ⟨_, List.mem_cons_self, rfl⟩
          · rcases ih isLater with isKey | ⟨earlier, isEarlier, same⟩
            · exact .inl isKey
            · exact .inr ⟨earlier, List.mem_cons_of_mem first isEarlier, same⟩

theorem Ascending.increment (ranked : Function.Injective rank) (ascending : tally.Ascending rank)
    (key : κ) : (tally.increment rank key).Ascending rank := by
  induction tally with
  | nil => exact List.pairwise_singleton _ _
  | cons first rest ih =>
      obtain ⟨above, ascending⟩ := List.pairwise_cons.mp ascending
      rw [Tally.increment]
      split
      · next below =>
          refine List.pairwise_cons.mpr ⟨?_, List.pairwise_cons.mpr ⟨above, ascending⟩⟩
          intro entry member
          rcases List.mem_cons.mp member with rfl | later
          · exact below
          · exact Nat.lt_trans below (above entry later)
      · next notBelow =>
          split
          · exact List.pairwise_cons.mpr ⟨above, ascending⟩
          · next different =>
              have higher : rank first.1 < rank key :=
                Nat.lt_of_le_of_ne (Nat.le_of_not_lt notBelow) fun same =>
                  different (ranked same).symm
              refine List.pairwise_cons.mpr ⟨?_, ih ascending⟩
              intro entry member
              rcases fst_of_mem_increment member with same | ⟨earlier, isEarlier, same⟩
              · rw [same]
                exact higher
              · rw [same]
                exact above earlier isEarlier

theorem Ascending.countOf_increment (ascending : tally.Ascending rank) (key other : κ) :
    (tally.increment rank key).countOf other =
      tally.countOf other + if key = other then 1 else 0 := by
  induction tally with
  | nil =>
      rw [Tally.increment, countOf_cons]
      simp [countOf, eq_comm]
  | cons first rest ih =>
      obtain ⟨above, ascending⟩ := List.pairwise_cons.mp ascending
      rw [Tally.increment]
      split
      · next below =>
          rw [countOf_cons]
          by_cases same : other = key
          · subst same
            have belowAll : ∀ entry ∈ first :: rest, rank other < rank entry.1 := by
              intro entry member
              rcases List.mem_cons.mp member with rfl | later
              · exact below
              · exact Nat.lt_trans below (above entry later)
            simp [countOf_eq_zero belowAll]
          · simp [same, Ne.symm same]
      · split
        · next isFirst =>
            subst isFirst
            rw [countOf_cons, countOf_cons]
            by_cases same : other = first.1
            · simp [same]
            · simp [same, Ne.symm same]
        · next different =>
            rw [countOf_cons, countOf_cons, ih ascending]
            by_cases same : other = first.1
            · subst same
              simp [different]
            · simp [same]

/-- A tally has counted some keys. -/
structure Counts (rank : κ → Nat) (keys : List κ) (tally : Tally κ) : Prop where
  ascending : tally.Ascending rank
  countOf : ∀ key, tally.countOf key = keys.count key
  total : tally.total = keys.length

theorem counts_nil (rank : κ → Nat) : Counts rank [] [] where
  ascending := List.Pairwise.nil
  countOf := fun _ => rfl
  total := rfl

theorem Counts.increment {keys : List κ} (counts : Counts rank keys tally)
    (ranked : Function.Injective rank) (key : κ) :
    Counts rank (keys ++ [key]) (tally.increment rank key) where
  ascending := counts.ascending.increment ranked key
  countOf := by
    intro other
    rw [counts.ascending.countOf_increment, counts.countOf, List.count_append,
      List.count_singleton]
    simp only [beq_iff_eq]
  total := by rw [total_increment, counts.total, List.length_append, List.length_singleton]

end Tally

/-! ### Counts of classes -/

/-- If every item is in one class, the weights of the items in the classes add up to the
weight of all items. -/
theorem sum_map_sum_filter {α β : Type} {classes : List β} {holds : β → α → Bool}
    (once : ∀ item, classes.countP (fun kind => holds kind item) = 1) (weight : α → Nat)
    (items : List α) :
    (classes.map fun kind => ((items.filter (holds kind)).map weight).sum).sum =
      (items.map weight).sum := by
  induction items with
  | nil => simp
  | cons item rest ih =>
      -- One more item adds its weight to the sum once for each of its classes, which is once
      -- only for all classes together; for the induction on the classes that stands as a count.
      have split (kinds : List β) :
          (kinds.map fun kind => (((item :: rest).filter (holds kind)).map weight).sum).sum =
            (kinds.map fun kind => ((rest.filter (holds kind)).map weight).sum).sum +
              weight item * kinds.countP fun kind => holds kind item := by
        induction kinds with
        | nil => simp
        | cons kind kinds ihKinds =>
            rw [List.map_cons, List.map_cons, List.sum_cons, List.sum_cons, ihKinds]
            by_cases inClass : holds kind item
            · simp only [inClass, List.filter_cons_of_pos, List.map_cons, List.sum_cons,
                List.countP_cons_of_pos, Nat.mul_add, Nat.mul_one]
              omega
            · simp only [inClass, List.filter_cons_of_neg, List.countP_cons_of_neg,
                Bool.false_eq_true, not_false_eq_true]
              omega
      rw [split, ih, once, Nat.mul_one, List.map_cons, List.sum_cons, Nat.add_comm]

/-- If every item is in one class, the numbers of items in the classes add up to the
number of items. -/
theorem sum_map_countP_eq_length {α β : Type} {classes : List β} {holds : β → α → Bool}
    (once : ∀ item, classes.countP (fun kind => holds kind item) = 1) (items : List α) :
    (classes.map fun kind => items.countP (holds kind)).sum = items.length := by
  simpa [List.countP_eq_length_filter] using sum_map_sum_filter once (fun _ => 1) items

theorem Status.countP_all (status : Status) : (all.countP fun kind => status == kind) = 1 := by
  cases status <;> rfl

theorem Priority.ordinal_injective : Function.Injective ordinal := by
  intro left right same
  cases left <;> cases right <;> first | rfl | cases same

/-! ### Buckets -/

/-- No reward is left out of the bands, and none is in two of them. -/
theorem RewardBand.countP_contains (reward : Word64) :
    (all.countP fun band => band.contains reward) = 1 := by
  simp only [all, contains, List.countP_cons, List.countP_nil, Bool.and_true, Bool.and_eq_true,
    decide_eq_true_eq]
  simp (disch := decide) only [Bounded.ofNat_val]
  split_ifs <;> omega

namespace RewardBucket

/-- The bucket of a band for a list of rewards. -/
def ofRewards (rewards : List Word64) (band : RewardBand) : RewardBucket :=
  ⟨band, rewards.countP band.contains, Bounded.sum (rewards.filter band.contains)⟩

theorem ofRewards_concat (rewards : List Word64) (reward : Word64) (band : RewardBand) :
    ofRewards (rewards ++ [reward]) band =
      if band.contains reward then (ofRewards rewards band).add reward
      else ofRewards rewards band := by
  cases inBand : band.contains reward
  · simp [ofRewards, inBand]
  · simp [ofRewards, inBand, add, Bounded.sum]

/-- Where at most one band has a reward, the first bucket for it is the only one. -/
theorem addToFirst_eq_map {buckets : List RewardBucket} {reward : Word64}
    (once : (buckets.countP fun bucket => bucket.band.contains reward) ≤ 1) :
    addToFirst reward buckets =
      buckets.map fun bucket =>
        if bucket.band.contains reward then bucket.add reward else bucket := by
  induction buckets with
  | nil => rfl
  | cons bucket rest ih =>
      rw [addToFirst, List.map_cons]
      split
      · next inBand =>
          have others : ∀ other ∈ rest, ¬ other.band.contains reward = true := by
            rw [List.countP_cons, if_pos inBand] at once
            exact List.countP_eq_zero.mp (Nat.le_zero.mp (Nat.le_of_succ_le_succ once))
          have unchanged : rest.map (fun other =>
              if other.band.contains reward then other.add reward else other) =
                rest.map fun other => other :=
            List.map_congr_left fun other member => if_neg (others other member)
          rw [unchanged, List.map_id']
      · next outside =>
          rw [List.countP_cons, if_neg outside] at once
          rw [ih once]

theorem addToFirst_ofRewards (rewards : List Word64) (reward : Word64) :
    addToFirst reward (RewardBand.all.map (ofRewards rewards)) =
      RewardBand.all.map (ofRewards (rewards ++ [reward])) := by
  have once : ((RewardBand.all.map (ofRewards rewards)).countP fun bucket =>
      bucket.band.contains reward) ≤ 1 := by
    rw [List.countP_map]
    exact Nat.le_of_eq (RewardBand.countP_contains reward)
  rw [addToFirst_eq_map once, List.map_map]
  apply List.map_congr_left
  intro band _
  exact (ofRewards_concat rewards reward band).symm

end RewardBucket

/-! ### Statistics -/

namespace Statistics

/-- Statistics have counted some tasks. -/
structure Counted (tasks : List Task) (statistics : Statistics) : Prop where
  count : ∀ status, statistics.count status = tasks.countP fun task => task.status == status
  byPriority : statistics.byPriority.Counts Priority.ordinal (tasks.map Task.priority)
  byDifficulty :
    statistics.byDifficulty.Counts id (tasks.map fun task => task.difficulty.level)
  buckets :
    statistics.buckets = RewardBand.all.map (RewardBucket.ofRewards (tasks.map Task.reward))

theorem counted_start (total : Nat) : Counted [] (start total) where
  count := fun status => by cases status <;> rfl
  byPriority := Tally.counts_nil _
  byDifficulty := Tally.counts_nil _
  buckets := rfl

theorem count_addStatus (statistics : Statistics) (status other : Status) :
    (statistics.addStatus status).count other =
      statistics.count other + if status == other then 1 else 0 := by
  cases status <;> cases other <;> rfl

theorem Counted.add {tasks : List Task} {statistics : Statistics}
    (counted : Counted tasks statistics) (now : Instant) (task : Task) :
    Counted (tasks ++ [task]) (statistics.add now task) where
  count := by
    intro status
    have added := statistics.count_addStatus task.status status
    rw [counted.count] at added
    rw [List.countP_append, List.countP_singleton, ← added]
    cases status <;> rfl
  byPriority := by
    rw [List.map_append]
    exact counted.byPriority.increment Priority.ordinal_injective task.priority
  byDifficulty := by
    rw [List.map_append]
    exact counted.byDifficulty.increment Function.injective_id task.difficulty.level
  buckets := by
    rw [List.map_append, List.map_singleton, ← RewardBucket.addToFirst_ofRewards,
      ← counted.buckets]
    rfl

/-- What holds before anything is counted and is kept by each further task holds of the
statistics of a snapshot. -/
theorem ofTasks_induction {motive : List Task → Statistics → Prop} {now : Instant}
    (tasks : List Task) (atStart : motive [] (start tasks.length))
    (further : ∀ {counted : List Task} {statistics : Statistics} (task : Task),
      motive counted statistics → motive (counted ++ [task]) (statistics.add now task)) :
    motive tasks (ofTasks tasks now) := by
  have kept (rest : List Task) : ∀ {counted : List Task} {statistics : Statistics},
      motive counted statistics →
        motive (counted ++ rest) (rest.foldl (Statistics.add now) statistics) := by
    induction rest with
    | nil =>
        intro counted statistics soFar
        simpa using soFar
    | cons task rest ih =>
        intro counted statistics soFar
        rw [List.foldl_cons, List.append_cons]
        exact ih (further task soFar)
  exact kept tasks atStart

theorem counted_ofTasks (tasks : List Task) (now : Instant) :
    Counted tasks (ofTasks tasks now) :=
  ofTasks_induction tasks (counted_start tasks.length) fun task counted => counted.add now task

theorem total_add (statistics : Statistics) (now : Instant) (task : Task) :
    (statistics.add now task).total = statistics.total := by
  cases status : task.status <;> simp only [add, status, addStatus]

theorem total_ofTasks (tasks : List Task) (now : Instant) :
    (ofTasks tasks now).total = tasks.length := by
  apply ofTasks_induction (motive := fun _ statistics => statistics.total = tasks.length)
  · rfl
  · intro counted statistics task soFar
    rw [total_add, soFar]

end Statistics

/-! ### Searches -/

/-- Whatever the order and the page asked for, a search reports a number of tasks. -/
def SearchReports (tasks : List Task) (filters : Filters) (number : Nat) : Prop :=
  ∀ order page pageSize, 0 < page.val → 0 < pageSize.val →
    ∃ found, search tasks ⟨filters, order, page, pageSize⟩ = .ok found ∧ found.total = number

theorem searchReports_countP {filters : Filters} {test : Task → Bool}
    (accepts : ∀ task, filters.accepts task = test task) (tasks : List Task) :
    SearchReports tasks filters (tasks.countP test) := by
  intro order page pageSize numbered sized
  let request : Request := ⟨filters, order, page, pageSize⟩
  have paged : 0 < request.pageSize.val := sized
  refine ⟨request.pageAt tasks page, ?_, ?_⟩
  · exact (Request.search_onPage_eq_ok_iff paged).mpr ⟨numbered, rfl⟩
  · have same : filters.accepts = test := funext accepts
    rw [List.countP_eq_length_filter, ← same]
    rfl

/-- The range that a search has to look in for the rewards of a band. -/
def RewardBand.range (band : RewardBand) : Range Word64 :=
  ⟨band.least, band.greatest.getD 18446744073709551615⟩

namespace Filters

theorem accepts_status (status : Status) (task : Task) :
    ({ empty with status := some status } : Filters).accepts task = (task.status == status) :=
  Condition.accepts_alone (.status status) task

theorem accepts_priority (priority : Priority) (task : Task) :
    ({ empty with priority := some priority } : Filters).accepts task =
      (task.priority == priority) :=
  Condition.accepts_alone (.priority priority) task

theorem accepts_difficulty (level : Word8) (task : Task) :
    ({ empty with difficultyRange := some ⟨level, level⟩ } : Filters).accepts task =
      (task.difficulty.level == level.val) := by
  refine (Condition.accepts_alone (.difficulty ⟨level, level⟩) task).trans ?_
  rw [Condition.meets, Range.contains, Bool.eq_iff_iff]
  simp only [Bounded.le_def, Difficulty.word, Bool.and_eq_true, decide_eq_true_eq, beq_iff_eq]
  omega

theorem accepts_band (band : RewardBand) (task : Task) :
    ({ empty with rewardRange := some band.range } : Filters).accepts task =
      band.contains task.reward := by
  have bound := task.reward.le_limit
  have greatest : (18446744073709551615 : Word64).val = 18446744073709551615 := rfl
  refine (Condition.accepts_alone (.reward band.range) task).trans ?_
  rw [Condition.meets, Range.contains, RewardBand.range, RewardBand.contains, Bool.eq_iff_iff]
  cases band.greatest with
  | none => simp [Bounded.le_def, greatest, bound]
  | some last => simp [Bounded.le_def]

end Filters

namespace Statistics

/-- Every count of a snapshot's statistics is the number of tasks that a search with the
filter for it reports: for a status, a priority, a level of difficulty from the level to
itself, and a bucket of rewards from its least to its greatest one.  By status, by
priority, by difficulty and by bucket the counts add up to the number of tasks, and each
reward belongs to one bucket. -/
theorem counts_agree_with_searches (tasks : List Task) (now : Instant) :
    let statistics := ofTasks tasks now
    (∀ status, SearchReports tasks { Filters.empty with status := some status }
      (statistics.count status)) ∧
    (∀ priority, SearchReports tasks { Filters.empty with priority := some priority }
      (statistics.countPriority priority)) ∧
    (∀ level : Word8, SearchReports tasks
      { Filters.empty with difficultyRange := some ⟨level, level⟩ }
      (statistics.countDifficulty level.val)) ∧
    (∀ bucket ∈ statistics.buckets, SearchReports tasks
      { Filters.empty with rewardRange := some bucket.band.range } bucket.count) ∧
    statistics.total = tasks.length ∧
    (Status.all.map statistics.count).sum = statistics.total ∧
    statistics.byPriority.total = statistics.total ∧
    statistics.byDifficulty.total = statistics.total ∧
    (statistics.buckets.map RewardBucket.count).sum = statistics.total ∧
    statistics.buckets.map RewardBucket.band = RewardBand.all ∧
    ∀ reward, (RewardBand.all.countP fun band => band.contains reward) = 1 := by
  intro statistics
  have counted : Counted tasks statistics := counted_ofTasks tasks now
  have total : statistics.total = tasks.length := total_ofTasks tasks now
  refine ⟨?_, ?_, ?_, ?_, total, ?_, ?_, ?_, ?_, ?_, RewardBand.countP_contains⟩
  · intro status
    rw [counted.count]
    exact searchReports_countP (Filters.accepts_status status) tasks
  · intro priority
    rw [countPriority, counted.byPriority.countOf, List.count_eq_countP, List.countP_map]
    exact searchReports_countP (Filters.accepts_priority priority) tasks
  · intro level
    rw [countDifficulty, counted.byDifficulty.countOf, List.count_eq_countP, List.countP_map]
    exact searchReports_countP (Filters.accepts_difficulty level) tasks
  · intro bucket member
    rw [counted.buckets, List.mem_map] at member
    obtain ⟨band, _, rfl⟩ := member
    rw [RewardBucket.ofRewards, List.countP_map]
    exact searchReports_countP (Filters.accepts_band band) tasks
  · have once (task : Task) : (Status.all.countP fun status => task.status == status) = 1 :=
      task.status.countP_all
    rw [total, ← sum_map_countP_eq_length once tasks]
    exact congrArg List.sum (List.map_congr_left fun status _ => counted.count status)
  · rw [counted.byPriority.total, List.length_map, total]
  · rw [counted.byDifficulty.total, List.length_map, total]
  · rw [counted.buckets, List.map_map, total]
    exact (sum_map_countP_eq_length RewardBand.countP_contains _).trans (List.length_map _)
  · rw [counted.buckets, List.map_map]
    exact List.map_id _

/-- The greatest reward is counted in the bucket without end, and found by a search up to
the greatest reward; those next to a bound are not. -/
theorem counts_agree_with_searches_greatest :
    let rewarded (reward : Word64) : Task :=
      { Task.fresh ⟨1, by decide⟩ "Review" ⟨"alice"⟩ .epoch with reward }
    let tasks := [rewarded 1000, rewarded 18446744073709551615, rewarded 500]
    let bucket : RewardBucket := ⟨⟨1001, none⟩, 1, 18446744073709551615⟩
    bucket ∈ (ofTasks tasks .epoch).buckets ∧ 0 < (1 : Word32).val ∧
      ∃ found,
        search tasks
          ⟨{ Filters.empty with rewardRange := some ⟨1001, 18446744073709551615⟩ },
            .newestFirst, 1, 1⟩ = .ok found ∧
        found.total = 1 := by
  intro rewarded tasks bucket
  have member : bucket ∈ (ofTasks tasks .epoch).buckets := by decide
  have positive : 0 < (1 : Word32).val := by decide
  obtain ⟨_, _, _, agree, _⟩ := counts_agree_with_searches tasks .epoch
  exact ⟨member, positive, agree bucket member .newestFirst 1 1 positive positive⟩

end Statistics

end TaskBoard
