import Mathlib
import Marginalia.Context.Strategy
import Marginalia.Proofs.Context.ExactScale
import Marginalia.Proofs.Except
import Marginalia.Proofs.Sorting
import Marginalia.Proofs.Tally

/-!
# Co-change

The analysis of a history counts, for every other file, the commits in which it changed together
with the target, and lists those files that do so often enough.  On an exact scale the most frequent
of them always does, since no threshold exceeds certainty; and the more often a file changed, the
surer it makes, since neither its share nor the weight of its reason falls.
-/

namespace Marginalia

/-! ## Counting -/

/-- In how many commits a file changed together with a target. -/
def together (target path : Text) (commits : List (List Text)) : Nat :=
  commits.countP fun files => files.contains target && files.contains path

theorem together_cons (target path : Text) (files : List Text) (commits : List (List Text)) :
    together target path (files :: commits) =
      together target path commits +
        if files.contains target && files.contains path then 1 else 0 :=
  List.countP_cons

/-- The files of the commits that touched a target, commit by commit. -/
def touching (target : Text) (commits : List (List Text)) : List Text :=
  (commits.filter (·.contains target)).flatten

theorem touching_cons (target : Text) (files : List Text) (commits : List (List Text)) :
    touching target (files :: commits) =
      (if files.contains target then files else []) ++ touching target commits := by
  rw [touching, List.filter_cons]
  split <;> rfl

theorem partnerCounts_eq_tally (target : Text) (commits : List (List Text)) :
    partnerCounts target commits = Table.tally ((touching target commits).filter (· ≠ target)) := by
  rw [partnerCounts, touching, List.filter_flatten, List.flatMap_def]

theorem count_touching {commits : List (List Text)} (distinct : ∀ files ∈ commits, files.Nodup)
    (target path : Text) :
    (touching target commits).count path = together target path commits := by
  induction commits with
  | nil => rfl
  | cons files commits induct =>
      obtain ⟨first, others⟩ := List.forall_mem_cons.mp distinct
      rw [touching_cons, List.count_append, induct others, together_cons, Nat.add_comm]
      by_cases touched : files.contains target = true
      · simp only [touched, if_pos, first.count, Bool.true_and, List.contains_iff_mem]
      · simp only [Bool.eq_false_iff.mpr touched, Bool.false_and]
        rfl

/-- Every other file is counted in each commit that it shares with the target. -/
theorem get?_partnerCounts {commits : List (List Text)} (distinct : ∀ files ∈ commits, files.Nodup)
    (target path : Text) :
    Table.get? path (partnerCounts target commits) =
      if path ≠ target ∧ 0 < together target path commits then
        some (together target path commits)
      else none := by
  rw [partnerCounts_eq_tally, Table.get?_tally]
  have counted := count_touching distinct target path
  by_cases isTarget : path = target
  · simp [isTarget]
  · have occurs : path ∈ (touching target commits).filter (· ≠ target) ↔
        path ≠ target ∧ 0 < together target path commits := by
      rw [← counted, List.count_pos_iff, List.mem_filter]
      simp [isTarget]
    have kept : ((touching target commits).filter (· ≠ target)).count path =
        together target path commits := by
      rw [List.count_filter (by simpa using isTarget), counted]
    rw [kept]
    exact if_congr occurs rfl rfl

/-- The files are counted in the order in which they first came up beside the target. -/
theorem pairwise_partnerCounts (target : Text) (commits : List (List Text)) :
    (partnerCounts target commits).Pairwise fun former latter =>
      (touching target commits).idxOf former.1 < (touching target commits).idxOf latter.1 := by
  rw [partnerCounts_eq_tally]
  have keys := Table.keys_tally ((touching target commits).filter (· ≠ target))
  rw [eraseDups_filter] at keys
  have ordered := (pairwise_idxOf_eraseDups (touching target commits)).filter (· ≠ target)
  rw [← keys, Table.keys, List.pairwise_map] at ordered
  exact ordered

theorem nodup_keys_partnerCounts (target : Text) (commits : List (List Text)) :
    (Table.keys (partnerCounts target commits)).Nodup :=
  partnerCounts_eq_tally target commits ▸ Table.nodup_keys_tally _

theorem mem_partnerCounts_iff {commits : List (List Text)}
    (distinct : ∀ files ∈ commits, files.Nodup) (target path : Text) (count : Nat) :
    (path, count) ∈ partnerCounts target commits ↔
      path ≠ target ∧ 0 < together target path commits ∧ count = together target path commits := by
  rw [← Table.get?_eq_some_iff (nodup_keys_partnerCounts target commits),
    get?_partnerCounts distinct]
  split <;> simp_all [eq_comm]

/-! ## The largest count -/

theorem largestCount_concat (counts : Table Text Nat) (entry : Text × Nat) :
    largestCount (counts ++ [entry]) = max (largestCount counts) entry.2 := by
  simp [largestCount]

theorem le_largestCount {counts : Table Text Nat} {entry : Text × Nat} (isEntry : entry ∈ counts) :
    entry.2 ≤ largestCount counts := by
  induction counts using List.reverseRecOn with
  | nil => simp at isEntry
  | append_singleton counts last induct =>
      rw [largestCount_concat]
      rcases List.mem_append.mp isEntry with isFormer | isLast
      · exact (induct isFormer).trans (Nat.le_max_left _ _)
      · obtain rfl := List.mem_singleton.mp isLast
        exact Nat.le_max_right _ _

/-- Of several counts one is the largest. -/
theorem exists_mem_eq_largestCount {counts : Table Text Nat} (nonempty : counts ≠ []) :
    ∃ entry ∈ counts, entry.2 = largestCount counts := by
  induction counts using List.reverseRecOn with
  | nil => exact absurd rfl nonempty
  | append_singleton counts last induct =>
      rw [largestCount_concat]
      rcases Nat.le_total (largestCount counts) last.2 with less | more
      · exact ⟨last, by simp, (Nat.max_eq_right less).symm⟩
      · by_cases none : counts = []
        · subst none
          exact ⟨last, by simp, by simp [largestCount]⟩
        · obtain ⟨entry, isEntry, isLargest⟩ := induct none
          exact ⟨entry, by simp [isEntry], by rw [isLargest, Nat.max_eq_left more]⟩

/-! ## Couplings -/

namespace Coupling

/-- The coupling that a count gives, measured against the largest one. -/
def measured (thresholds : Thresholds ℚ) (largest : Nat) (entry : Text × Nat) : Coupling ℚ where
  path := entry.1
  count := entry.2
  frequency := Scale.ratio entry.2 largest
  thresholds := thresholds

variable {coupling other : Coupling ℚ}

theorem counts_iff : coupling.counts = true ↔ coupling.thresholds.medium ≤ coupling.frequency :=
  Scale.atMost_iff_le

theorem isHigh_iff : coupling.isHigh = true ↔ coupling.thresholds.high ≤ coupling.frequency :=
  Scale.atMost_iff_le

/-- A coupling that counts is frequent, or it counts without being frequent. -/
theorem isMedium_eq_not_isHigh (counts : coupling.counts = true) :
    coupling.isMedium = !coupling.isHigh := by
  rw [isMedium, counts, Bool.true_and, Bool.eq_iff_iff, Bool.not_eq_true', Bool.eq_false_iff,
    ne_eq, isHigh_iff, Scale.below_iff_lt, not_le]

/-- The more frequent of two couplings has the stronger reason. -/
theorem weight_reason_le (same : coupling.thresholds = other.thresholds)
    (atMost : coupling.frequency ≤ other.frequency) :
    coupling.reason.weight ≤ other.reason.weight := by
  by_cases isHigh : coupling.isHigh = true
  · have otherHigh : other.isHigh = true :=
      isHigh_iff.mpr (same ▸ (isHigh_iff.mp isHigh).trans atMost)
    rw [reason, reason, if_pos isHigh, if_pos otherHigh]
  · rw [reason, if_neg isHigh, reason]
    split <;> decide

/-- The more frequent of two couplings makes at least as sure. -/
theorem confidence_le (same : coupling.thresholds = other.thresholds)
    (nonnegative : 0 ≤ coupling.frequency) (atMost : coupling.frequency ≤ other.frequency) :
    coupling.confidence ≤ other.confidence := by
  have base : (coupling.reason.baseConfidence : ℚ) ≤ other.reason.baseConfidence :=
    Scale.ratio_le_ratio (weight_reason_le same atMost) 100
  have certain := (Scale.isShare_iff.mp (other.reason.isShare_baseConfidence)).1
  rw [confidence, confidence, Scale.times_eq_mul, Scale.times_eq_mul]
  exact mul_le_mul base atMost nonnegative certain

theorem isShare_confidence (isShare : Scale.isShare coupling.frequency = true) :
    Scale.isShare coupling.confidence = true :=
  Scale.isShare_times coupling.reason.isShare_baseConfidence isShare

/-- The match that a coupling speaks for. -/
def spokenFor (coupling : Coupling ℚ) : Match ℚ where
  path := coupling.path
  reason := coupling.reason
  confidence := coupling.confidence
  evidence := coupling.evidence

theorem toMatch_eq_ok (visible : Text.isBlank coupling.path = false)
    (isShare : Scale.isShare coupling.frequency = true) :
    coupling.toMatch = .ok coupling.spokenFor := by
  rw [toMatch, Match.make, visible, if_neg Bool.false_ne_true, if_pos (isShare_confidence isShare),
    spokenFor]

end Coupling

theorem descending_perm (counts : Table Text Nat) : (descending counts).Perm counts :=
  List.mergeSort_perm _ _

/-- Counts in descending order; equal counts stand as they stood. -/
theorem pairwise_descending {counts : Table Text Nat} {holds : Text × Nat → Text × Nat → Prop}
    (pairwise : counts.Pairwise holds) :
    (descending counts).Pairwise fun former latter =>
      latter.2 < former.2 ∨ former.2 = latter.2 ∧ holds former latter := by
  have sorted : (descending counts).Pairwise fun former latter =>
      decide (latter.2 ≤ former.2) = true ∧ (former.2 = latter.2 → holds former latter) :=
    pairwise_mergeSort_level (by simp; omega) (by simp; omega) (fun _ _ same => by simp [same])
      pairwise
  refine sorted.imp fun {former latter} ⟨inOrder, stable⟩ => ?_
  rcases Nat.lt_or_eq_of_le (of_decide_eq_true inOrder) with less | same
  · exact .inl less
  · exact .inr ⟨same.symm, stable same.symm⟩

/-- A part that nothing follows back into is a beginning. -/
theorem filter_append_filter_not {Item : Type} {passes : Item → Bool} {items : List Item}
    (closed : items.Pairwise fun former latter => passes latter = true → passes former = true) :
    items.filter passes ++ items.filter (!passes ·) = items := by
  induction items with
  | nil => rfl
  | cons item items induct =>
      obtain ⟨before, closed⟩ := List.pairwise_cons.mp closed
      by_cases passing : passes item = true
      · simpa [passing] using induct closed
      · have none : ∀ later ∈ items, passes later = false := fun later isLater =>
          Bool.eq_false_iff.mpr (mt (before later isLater) passing)
        have noneKept : items.filter passes = [] := by simpa [List.filter_eq_nil_iff] using none
        have allLeft : items.filter (!passes ·) = items := by simpa using none
        simp [passing, noneKept, allLeft]

/-! ## Analyses -/

namespace CoChange

/-- What an analysis on the exact scale has to say about a target and the files that commits
changed. -/
structure IsTrueTo (thresholds : Thresholds ℚ) (target : Text) (commits : List (List Text))
    (analysis : CoChange ℚ) : Prop where
  /-- It is about the target. -/
  about : analysis.target = target
  /-- Exactly the other files that changed together with the target are counted. -/
  counted : ∀ path, Table.get? path analysis.counts =
    if path ≠ target ∧ 0 < together target path commits then
      some (together target path commits)
    else none
  /-- No file is counted twice. -/
  once : (Table.keys analysis.counts).Nodup
  /-- No other file changed more often than the largest count says. -/
  bounded : ∀ path, path ≠ target → together target path commits ≤ analysis.largest
  /-- The largest count is that of a file, or there is none. -/
  attained : analysis.counts = [] ∧ analysis.largest = 0 ∨
    ∃ path, path ≠ target ∧ together target path commits = analysis.largest
  /-- Exactly the files are listed whose share of the largest count reaches the lower threshold. -/
  listed : ∀ coupling, coupling ∈ analysis.couplings ↔
    ∃ path, path ≠ target ∧ 0 < together target path commits ∧
      thresholds.medium ≤ (together target path commits : ℚ) / analysis.largest ∧
      coupling =
        { path
          count := together target path commits
          frequency := (together target path commits : ℚ) / analysis.largest
          thresholds }
  /-- They stand in descending order of their counts, and with equal counts in the order of first
  appearance in the commits that touched the target. -/
  ordered : analysis.couplings.Pairwise fun former latter =>
    latter.count < former.count ∨ former.count = latter.count ∧
      (touching target commits).idxOf former.path < (touching target commits).idxOf latter.path
  /-- The frequent ones come first, and the rest are those that are not. -/
  divided : analysis.frequent ++ analysis.occasional = analysis.couplings
  /-- None is both. -/
  apart : ∀ coupling ∈ analysis.frequent, coupling ∉ analysis.occasional
  /-- A larger count never makes less sure. -/
  monotone : ∀ coupling ∈ analysis.couplings, ∀ other ∈ analysis.couplings,
    coupling.count ≤ other.count → coupling.confidence ≤ other.confidence
  /-- Every confidence is a share. -/
  shares : ∀ coupling ∈ analysis.couplings, 0 ≤ coupling.confidence ∧ coupling.confidence ≤ 1
  /-- Every coupling gives a match. -/
  matched : analysis.toMatches = .ok (analysis.couplings.map Coupling.spokenFor)
  /-- Nothing is listed only when nothing is counted. -/
  silent : analysis.couplings = [] ↔ analysis.counts = []

variable {thresholds : Thresholds ℚ} {target : Text} {commits : List (List Text)}

/-- The analysis that no blank path keeps from being made. -/
def exact (thresholds : Thresholds ℚ) (target : Text) (commits : List (List Text)) :
    CoChange ℚ where
  target := target
  couplings := ((descending (partnerCounts target commits)).map
    (Coupling.measured thresholds (largestCount (partnerCounts target commits)))).filter
      Coupling.counts
  counts := partnerCounts target commits

theorem ofCommits_eq_ok (visible : ∀ entry ∈ partnerCounts target commits,
      Text.isBlank entry.1 = false) :
    ofCommits thresholds target commits = .ok (exact thresholds target commits) := by
  have made : (descending (partnerCounts target commits)).mapM (fun entry =>
      Coupling.make entry.1 entry.2
        (Scale.ratio entry.2 (largestCount (partnerCounts target commits))) thresholds) =
      .ok ((descending (partnerCounts target commits)).map
        (Coupling.measured thresholds (largestCount (partnerCounts target commits)))) :=
    mapM_eq_ok_map fun entry isEntry => by
      have isCounted := (descending_perm _).mem_iff.mp isEntry
      have isShare := Scale.isShare_ratio (le_largestCount isCounted)
      rw [Coupling.make, visible entry isCounted, if_neg Bool.false_ne_true, if_neg (by simp),
        if_pos isShare, Coupling.measured]
  have listed : Marginalia.couplings thresholds (partnerCounts target commits) =
      .ok (exact thresholds target commits).couplings := congrArg (· >>= _) made
  rw [ofCommits, listed]
  rfl

/-- A listed coupling is one that was counted and that counts. -/
theorem mem_couplings_exact_iff (coupling : Coupling ℚ) :
    coupling ∈ (exact thresholds target commits).couplings ↔
      ∃ entry ∈ partnerCounts target commits,
        thresholds.medium ≤ Scale.ratio entry.2 (exact thresholds target commits).largest ∧
        coupling =
          Coupling.measured thresholds (exact thresholds target commits).largest entry := by
  rw [exact, List.mem_filter, List.mem_map]
  constructor
  · rintro ⟨⟨entry, isEntry, rfl⟩, counts⟩
    exact ⟨entry, (descending_perm _).mem_iff.mp isEntry, Coupling.counts_iff.mp counts, rfl⟩
  · rintro ⟨entry, isEntry, reaches, rfl⟩
    exact ⟨⟨entry, (descending_perm _).mem_iff.mpr isEntry, rfl⟩, Coupling.counts_iff.mpr reaches⟩

theorem isShare_of_mem_couplings {coupling : Coupling ℚ}
    (isListed : coupling ∈ (exact thresholds target commits).couplings) :
    Scale.isShare coupling.frequency = true := by
  obtain ⟨entry, isEntry, -, rfl⟩ := (mem_couplings_exact_iff coupling).mp isListed
  exact Scale.isShare_ratio (le_largestCount isEntry)

theorem pairwise_couplings_exact (thresholds : Thresholds ℚ) (target : Text)
    (commits : List (List Text)) :
    (exact thresholds target commits).couplings.Pairwise fun former latter =>
      latter.count < former.count ∨ former.count = latter.count ∧
        (touching target commits).idxOf former.path <
          (touching target commits).idxOf latter.path := by
  refine List.Pairwise.filter _ (List.pairwise_map.mpr ?_)
  refine (pairwise_descending (pairwise_partnerCounts target commits)).imp fun inOrder => ?_
  exact inOrder.imp Int.ofNat_lt.mpr (And.imp_left (congrArg Int.ofNat))

/-- Listed couplings are as frequent as their counts say. -/
theorem frequency_le {coupling other : Coupling ℚ}
    (isListed : coupling ∈ (exact thresholds target commits).couplings)
    (otherListed : other ∈ (exact thresholds target commits).couplings)
    (atMost : coupling.count ≤ other.count) :
    coupling.thresholds = other.thresholds ∧ coupling.frequency ≤ other.frequency := by
  obtain ⟨entry, -, -, rfl⟩ := (mem_couplings_exact_iff coupling).mp isListed
  obtain ⟨entry', -, -, rfl⟩ := (mem_couplings_exact_iff other).mp otherListed
  exact ⟨rfl, Scale.ratio_le_ratio (Int.ofNat_le.mp atMost) _⟩

theorem occasional_exact (thresholds : Thresholds ℚ) (target : Text)
    (commits : List (List Text)) :
    (exact thresholds target commits).occasional =
      (exact thresholds target commits).couplings.filter (!·.isHigh) :=
  List.filter_congr fun _ isListed =>
    Coupling.isMedium_eq_not_isHigh (List.mem_filter.mp isListed).2

theorem frequent_append_occasional (thresholds : Thresholds ℚ) (target : Text)
    (commits : List (List Text)) :
    (exact thresholds target commits).frequent ++ (exact thresholds target commits).occasional =
      (exact thresholds target commits).couplings := by
  rw [occasional_exact, frequent]
  -- Counts only fall along the list, so nothing frequent stands behind what is not.
  refine filter_append_filter_not ?_
  refine (pairwise_couplings_exact thresholds target commits).imp_of_mem ?_
  intro former latter isFormer isLatter inOrder isHigh
  have atMost : latter.count ≤ former.count := by omega
  obtain ⟨same, atMost⟩ := frequency_le isLatter isFormer atMost
  exact Coupling.isHigh_iff.mpr (same ▸ (Coupling.isHigh_iff.mp isHigh).trans atMost)

/-- Where no threshold exceeds certainty, the most frequent file is listed. -/
theorem couplings_exact_eq_nil_iff (reachable : thresholds.medium ≤ 1)
    (positive : ∀ entry ∈ partnerCounts target commits, 0 < entry.2) :
    (exact thresholds target commits).couplings = [] ↔ partnerCounts target commits = [] := by
  constructor
  · intro nothing
    by_contra something
    obtain ⟨entry, isEntry, isLargest⟩ := exists_mem_eq_largestCount something
    have whole : (Scale.ratio entry.2 (exact thresholds target commits).largest : ℚ) = 1 := by
      have nonzero : (entry.2 : ℚ) ≠ 0 := by exact_mod_cast (positive entry isEntry).ne'
      rw [Scale.ratio_eq_div, largest, exact, ← isLargest, div_self nonzero]
    have isListed := (mem_couplings_exact_iff _).mpr ⟨entry, isEntry, whole ▸ reachable, rfl⟩
    rw [nothing] at isListed
    cases isListed
  · intro nothing
    simp [exact, nothing, descending]

section

variable (distinct : ∀ files ∈ commits, files.Nodup)
  (visible : ∀ files ∈ commits, ∀ path ∈ files, Text.isBlank path = false)

include distinct

theorem visible_of_mem_partnerCounts
    (visible : ∀ files ∈ commits, ∀ path ∈ files, Text.isBlank path = false) :
    ∀ entry ∈ partnerCounts target commits, Text.isBlank entry.1 = false := by
  rintro ⟨path, count⟩ isEntry
  obtain ⟨-, shared, -⟩ := (mem_partnerCounts_iff distinct target path count).mp isEntry
  obtain ⟨files, isCommit, both⟩ := List.countP_pos_iff.mp shared
  rw [Bool.and_eq_true, List.contains_iff_mem, List.contains_iff_mem] at both
  exact visible files isCommit path both.2

theorem together_le_largest (path : Text) (isOther : path ≠ target) :
    together target path commits ≤ largestCount (partnerCounts target commits) := by
  by_cases shared : 0 < together target path commits
  · exact le_largestCount
      ((mem_partnerCounts_iff distinct target path _).mpr ⟨isOther, shared, rfl⟩)
  · omega

include visible

theorem isTrueTo_exact (reachable : thresholds.medium ≤ 1) :
    (exact thresholds target commits).IsTrueTo thresholds target commits where
  about := rfl
  counted := get?_partnerCounts distinct target
  once := nodup_keys_partnerCounts target commits
  bounded := together_le_largest distinct
  attained := by
    by_cases nothing : partnerCounts target commits = []
    · exact .inl ⟨nothing, by simp [largest, exact, nothing, largestCount]⟩
    · obtain ⟨⟨path, count⟩, isEntry, isLargest⟩ := exists_mem_eq_largestCount nothing
      obtain ⟨isOther, -, rfl⟩ := (mem_partnerCounts_iff distinct target path count).mp isEntry
      exact .inr ⟨path, isOther, isLargest⟩
  listed coupling := by
    rw [mem_couplings_exact_iff]
    constructor
    · rintro ⟨⟨path, count⟩, isEntry, reaches, rfl⟩
      obtain ⟨isOther, shared, rfl⟩ := (mem_partnerCounts_iff distinct target path count).mp isEntry
      exact ⟨path, isOther, shared, reaches, rfl⟩
    · rintro ⟨path, isOther, shared, reaches, rfl⟩
      exact ⟨_, (mem_partnerCounts_iff distinct target path _).mpr ⟨isOther, shared, rfl⟩, reaches,
        rfl⟩
  ordered := pairwise_couplings_exact thresholds target commits
  divided := frequent_append_occasional thresholds target commits
  apart coupling isFrequent isOccasional := by
    rw [occasional_exact] at isOccasional
    have isHigh := (List.mem_filter.mp isFrequent).2
    have isLow := (List.mem_filter.mp isOccasional).2
    simp [isHigh] at isLow
  monotone coupling isListed other otherListed atMost := by
    obtain ⟨same, atMost⟩ := frequency_le isListed otherListed atMost
    have nonnegative := (Scale.isShare_iff.mp (isShare_of_mem_couplings isListed)).1
    exact Coupling.confidence_le same nonnegative atMost
  shares coupling isListed :=
    Scale.isShare_iff.mp (Coupling.isShare_confidence (isShare_of_mem_couplings isListed))
  matched := mapM_eq_ok_map fun coupling isListed => by
    obtain ⟨entry, isEntry, -, isMeasured⟩ := (mem_couplings_exact_iff coupling).mp isListed
    have named : Text.isBlank coupling.path = false := by
      rw [isMeasured]
      exact visible_of_mem_partnerCounts distinct visible entry isEntry
    exact Coupling.toMatch_eq_ok named (isShare_of_mem_couplings isListed)
  silent := couplings_exact_eq_nil_iff reachable fun entry isEntry => by
    obtain ⟨-, shared, same⟩ := (mem_partnerCounts_iff distinct target entry.1 entry.2).mp isEntry
    exact same ▸ shared

end

end CoChange

/-! ## Asking the history -/

namespace Strategy

/-- What the history returns is analyzed when the look-back can be dated. -/
theorem outcome_analysis {Call Amount : Type} [Scale Amount] {source : SourceControl Call}
    {settings : HistorySettings} {now since : Moment} {repository target : Text}
    {commits : List Commit} (dated : now.back settings.lookbackDays = .ok since)
    (returned : (source.commits
      { repository, path := target, since, maxResults := settings.maxResults }).outcome =
        .returned commits) (thresholds : Thresholds Amount) :
    (analysis source settings thresholds now repository target).outcome =
      .returned (CoChange.ofCommits thresholds target (commits.map (·.files))) := by
  have asked : settings.question now repository target =
      .ok { repository, path := target, since, maxResults := settings.maxResults } := by
    rw [HistorySettings.question, dated]
    rfl
  change (Work.andThen (Work.ofExcept _ _) _).outcome = _
  rw [asked]
  change (Work.andThen (source.commits _) _).outcome = _
  rw [Work.andThen, returned]
  rfl

/-- When the look-back can be dated and the history returns commits without blank or repeated paths,
their analysis on the exact scale is true to them. -/
theorem isTrueTo_analysis {Call : Type} {source : SourceControl Call} {settings : HistorySettings}
    {thresholds : Thresholds ℚ} {now since : Moment} {repository target : Text}
    {commits : List Commit} (dated : now.back settings.lookbackDays = .ok since)
    (returned : (source.commits
      { repository, path := target, since, maxResults := settings.maxResults }).outcome =
        .returned commits)
    (ascending : 0 ≤ thresholds.medium ∧ thresholds.medium ≤ thresholds.high ∧
      thresholds.high ≤ 1)
    (visible : ∀ commit ∈ commits, ∀ path ∈ commit.files, Text.isBlank path = false)
    (distinct : ∀ commit ∈ commits, commit.files.Nodup) :
    ∃ found, (analysis source settings thresholds now repository target).outcome =
        .returned (.ok found) ∧
      found.IsTrueTo thresholds target (commits.map (·.files)) := by
  have visible : ∀ files ∈ commits.map (·.files), ∀ path ∈ files, Text.isBlank path = false :=
    List.forall_mem_map.mpr visible
  have distinct : ∀ files ∈ commits.map (·.files), files.Nodup := List.forall_mem_map.mpr distinct
  have reachable : thresholds.medium ≤ 1 := ascending.2.1.trans ascending.2.2
  have analyzed : CoChange.ofCommits thresholds target (commits.map (·.files)) =
      .ok (CoChange.exact thresholds target (commits.map (·.files))) :=
    CoChange.ofCommits_eq_ok (CoChange.visible_of_mem_partnerCounts distinct visible)
  refine ⟨CoChange.exact thresholds target (commits.map (·.files)), ?_, ?_⟩
  · exact (outcome_analysis dated returned thresholds).trans (congrArg Outcome.returned analyzed)
  · exact CoChange.isTrueTo_exact distinct visible reachable

/-- A source that answers every question about the history with the same commits. -/
def recorded (commits : List Commit) : SourceControl Empty where
  files := Work.done []
  commits _ := Work.done commits
  content _ := Work.done []

/-- Commits of which the first does not touch the file `t`, but brings up `d` before all others. -/
def entangled : List Commit :=
  [[['d']], [['t'], ['b'], ['a']], [['t'], ['a'], ['c']], [['a'], ['t'], ['d']]].map
    fun files => { id := ['1'], files }

/-- Thresholds of which the lower one is the share of a file that changed in a third of commits. -/
def third : Thresholds ℚ where
  high := 7 / 10
  medium := 1 / 3

/-- A day in summer. -/
def summer : Moment where
  date := { year := 2024, month := 6, day := 1 }

theorem back_summer : summer.back ({} : HistorySettings).lookbackDays =
    .ok { date := { year := 2024, month := 3, day := 3 } } := by
  decide +kernel

theorem outcome_analysis_entangled :
    (analysis (recorded entangled) {} third summer [] ['t']).outcome =
      .returned (.ok (CoChange.exact third ['t'] (entangled.map (·.files)))) := by
  have analyzed : CoChange.ofCommits third ['t'] (entangled.map (·.files)) =
      .ok (CoChange.exact third ['t'] (entangled.map (·.files))) :=
    CoChange.ofCommits_eq_ok (CoChange.visible_of_mem_partnerCounts (by decide) (by decide))
  exact (outcome_analysis back_summer rfl third).trans (congrArg Outcome.returned analyzed)

theorem couplings_exact_entangled :
    (CoChange.exact third ['t'] (entangled.map (·.files))).couplings.map
        (fun coupling => (coupling.path, coupling.count)) =
      [(['a'], 3), (['b'], 1), (['c'], 1), (['d'], 1)] := by
  cbv

theorem isTrueTo_analysis_entangled :
    ∃ found, (analysis (recorded entangled) {} third summer [] ['t']).outcome =
        .returned (.ok found) ∧
      found.IsTrueTo third ['t'] (entangled.map (·.files)) ∧
      found.couplings.map (fun coupling => (coupling.path, coupling.count)) =
        [(['a'], 3), (['b'], 1), (['c'], 1), (['d'], 1)] := by
  have analyzed : ∃ found, (analysis (recorded entangled) {} third summer [] ['t']).outcome =
      .returned (.ok found) ∧ found.IsTrueTo third ['t'] (entangled.map (·.files)) :=
    isTrueTo_analysis back_summer rfl (by norm_num [third]) (by decide) (by decide)
  obtain ⟨found, isFound, isTrue⟩ := analyzed
  have same : found = CoChange.exact third ['t'] (entangled.map (·.files)) :=
    Except.ok.inj (Outcome.returned.inj (isFound.symm.trans outcome_analysis_entangled))
  exact ⟨found, isFound, isTrue, same ▸ couplings_exact_entangled⟩

/-- Of files that changed equally often, the one that appears first in all commits need not be
listed first: a commit that does not touch the target does not count. -/
theorem exists_not_in_order_of_appearance :
    (∀ commit ∈ entangled, ∀ path ∈ commit.files, Text.isBlank path = false) ∧
      (∀ commit ∈ entangled, commit.files.Nodup) ∧
      ∃ found, (analysis (recorded entangled) {} third summer [] ['t']).outcome =
          .returned (.ok found) ∧
        ¬found.couplings.Pairwise fun former latter =>
          latter.count < former.count ∨ former.count = latter.count ∧
            (entangled.flatMap (·.files)).idxOf former.path <
              (entangled.flatMap (·.files)).idxOf latter.path := by
  refine ⟨by decide, by decide, _, outcome_analysis_entangled, fun pairwise => ?_⟩
  have listed := List.pairwise_map
    (f := fun coupling : Coupling ℚ => (coupling.path, coupling.count))
    (R := fun former latter => latter.2 < former.2 ∨ former.2 = latter.2 ∧
      (entangled.flatMap (·.files)).idxOf former.1 <
        (entangled.flatMap (·.files)).idxOf latter.1) |>.mpr pairwise
  rw [couplings_exact_entangled] at listed
  exact absurd listed (by decide)

end Strategy

end Marginalia
