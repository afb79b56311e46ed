import EventaApi.Source.NotificationGrouping

/-!
# The feed's groups

Weeks open on Mondays, and the fifth of January 1970 was one. The bucket of a day is monotone in
it, so items sorted by instant are sorted by bucket too and the groups put behind each other are
the feed, newest first.
-/
namespace EventaApi.Guarantees
open Library Source

/-! ## Weeks -/

/-- The week this Monday opens has this day. -/
def OpensWeekOf (monday day : Int) : Prop :=
  monday % 7 = 4 ∧ monday ≤ day ∧ day < monday + 7

/-- Where an item of a day belongs, seen from today. -/
inductive BelongsIn (today day : Int) : FeedBucket → Prop
  | today (reached : today ≤ day) : BelongsIn today day .today
  | yesterday (before : day + 1 = today) : BelongsIn today day .yesterday
  | earlierThisWeek (monday : Int) (older : day + 1 < today)
      (now : OpensWeekOf monday today) (same : OpensWeekOf monday day) :
      BelongsIn today day .earlierThisWeek
  | lastWeek (monday : Int) (older : day + 1 < today)
      (now : OpensWeekOf monday today) (last : OpensWeekOf (monday - 7) day) :
      BelongsIn today day .lastWeek
  | earlier (monday : Int) (older : day + 1 < today)
      (now : OpensWeekOf monday today) (before : day < monday - 7) :
      BelongsIn today day .earlier

theorem weekOf_eq_of {monday day : Int} (opens : OpensWeekOf monday day) :
    weekOf day = weekOf monday ∧ 7 * weekOf monday = monday + 3 := by
  obtain ⟨weekday, started, ended⟩ := opens
  unfold weekOf
  omega

theorem exists_monday (day : Int) : ∃ monday, OpensWeekOf monday day :=
  ⟨7 * weekOf day - 3, by unfold OpensWeekOf weekOf; omega⟩

theorem bucketOf_of_belongsIn {today day : Int} {bucket : FeedBucket}
    (belongs : BelongsIn today day bucket) : bucketOf day today = bucket := by
  cases belongs with
  | today reached => exact if_pos reached
  | yesterday before =>
    have older : ¬ today ≤ day := by omega
    have next : day = today - 1 := by omega
    simp only [bucketOf, if_neg older, if_pos next]
  | earlierThisWeek monday older now same =>
    have weeks := weekOf_eq_of now
    have weeks' := weekOf_eq_of same
    have earlier : ¬ today ≤ day := by omega
    have next : ¬ day = today - 1 := by omega
    have back : weekOf today - weekOf day = 0 := by omega
    simp only [bucketOf, if_neg earlier, if_neg next, if_pos back]
  | lastWeek monday older now last =>
    have weeks := weekOf_eq_of now
    have weeks' := weekOf_eq_of last
    have earlier : ¬ today ≤ day := by omega
    have next : ¬ day = today - 1 := by omega
    have back : weekOf today - weekOf day = 1 := by omega
    have other : ¬ weekOf today - weekOf day = 0 := by omega
    simp only [bucketOf, if_neg earlier, if_neg next, if_neg other, if_pos back]
  | earlier monday older now before =>
    have weeks := weekOf_eq_of now
    have start : weekOf day < weekOf monday - 1 := by
      unfold weekOf at *
      omega
    have earlier : ¬ today ≤ day := by omega
    have next : ¬ day = today - 1 := by omega
    have back : ¬ weekOf today - weekOf day = 0 := by omega
    have back' : ¬ weekOf today - weekOf day = 1 := by omega
    simp only [bucketOf, if_neg earlier, if_neg next, if_neg back, if_neg back']

theorem exists_belongsIn (today day : Int) : ∃ bucket, BelongsIn today day bucket := by
  obtain ⟨monday, now⟩ := exists_monday today
  obtain ⟨other, its⟩ := exists_monday day
  have weekday := now.1
  have weekday' := its.1
  by_cases reached : today ≤ day
  · exact ⟨_, .today reached⟩
  by_cases before : day + 1 = today
  · exact ⟨_, .yesterday before⟩
  have older : day + 1 < today := by omega
  by_cases same : monday ≤ day
  · exact ⟨_, .earlierThisWeek monday older now ⟨weekday, same, by have := now.2; omega⟩⟩
  by_cases last : monday - 7 ≤ day
  · exact ⟨_, .lastWeek monday older now ⟨by omega, last, by omega⟩⟩
  · exact ⟨_, .earlier monday older now (by omega)⟩

theorem bucketOf_eq_iff {today day : Int} {bucket : FeedBucket} :
    bucketOf day today = bucket ↔ BelongsIn today day bucket := by
  constructor
  · rintro rfl
    obtain ⟨bucket, belongs⟩ := exists_belongsIn today day
    rw [bucketOf_of_belongsIn belongs]
    exact belongs
  · exact bucketOf_of_belongsIn

/-- On a Monday, Sunday is yesterday and Saturday is last week. -/
example : bucketOf 3 4 = .yesterday ∧ bucketOf 2 4 = .lastWeek := by decide

/-! ## The order of the buckets -/

/-- How far down the feed a bucket stands. -/
def depth : FeedBucket → Nat
  | .today => 0
  | .yesterday => 1
  | .earlierThisWeek => 2
  | .lastWeek => 3
  | .earlier => 4

theorem depth_ascending :
    FEED_BUCKETS.Pairwise fun former latter => depth former < depth latter := by decide

theorem mem_FEED_BUCKETS (bucket : FeedBucket) : bucket ∈ FEED_BUCKETS := by
  cases bucket <;> decide

theorem weekOf_mono {earlier later : Int} (before : earlier ≤ later) :
    weekOf earlier ≤ weekOf later := by
  unfold weekOf
  omega

/-- A later day is in no deeper bucket. -/
theorem depth_bucketOf_anti {today earlier later : Int} (before : earlier ≤ later) :
    depth (bucketOf later today) ≤ depth (bucketOf earlier today) := by
  have weeks := weekOf_mono before
  by_cases reached : today ≤ later
  · rw [bucketOf, if_pos reached]
    exact Nat.zero_le _
  · have weeks' : weekOf later ≤ weekOf today := weekOf_mono (by omega)
    unfold bucketOf
    split_ifs <;> simp only [depth] <;> omega

theorem bangkokDay_mono {earlier later : Int} (before : earlier ≤ later) :
    bangkokDay earlier ≤ bangkokDay later := by
  unfold bangkokDay
  exact Int.ediv_le_ediv (by decide) (Int.add_le_add_right before _)

/-! ## The groups -/

variable {α : Type} {time : α → Int}

instance later_total : Std.Total fun former latter : α => time latter ≤ time former where
  total former latter := Int.le_total (time latter) (time former)

instance later_trans : IsTrans α fun former latter => time latter ≤ time former where
  trans _ _ _ first second := Int.le_trans second first

/-- The items of a bucket, newest first. -/
def inBucket (time : α → Int) (items : List α) (now : Int) (bucket : FeedBucket) : List α :=
  (latestFirst time items).filter fun item =>
    bucketOf (bangkokDay (time item)) (bangkokDay now) = bucket

theorem mem_inBucket {items : List α} {now : Int} {bucket : FeedBucket} {item : α} :
    item ∈ inBucket time items now bucket ↔
      item ∈ items ∧ BelongsIn (bangkokDay now) (bangkokDay (time item)) bucket := by
  unfold inBucket latestFirst
  rw [List.mem_filter, List.mem_insertionSort, decide_eq_true_eq, bucketOf_eq_iff]

theorem foldl_push (items pushed : List α) :
    items.foldl (fun found item => some (found.getD [] ++ [item])) (some pushed) =
      some (pushed ++ items) := by
  induction items generalizing pushed with
  | nil => simp
  | cons item rest ih =>
    rw [List.foldl_cons, ih]
    simp

/-- What the loop collects under a bucket. -/
theorem foldl_push_none (items : List α) :
    items.foldl (fun found item => some (found.getD [] ++ [item])) none =
      if items = [] then none else some items := by
  cases items with
  | nil => rfl
  | cons item rest =>
    rw [List.foldl_cons, foldl_push]
    simp

/-- A group for each bucket that has an item. -/
theorem groupByRecency_eq (items : List α) (now : Int) :
    groupByRecency time items now =
      (FEED_BUCKETS.filter fun bucket => inBucket time items now bucket ≠ []).map fun bucket =>
        { bucket, recent := RECENT.contains bucket, items := inBucket time items now bucket } := by
  unfold groupByRecency
  extract_lets today byBucket
  have found (bucket : FeedBucket) : byBucket.get bucket =
      if inBucket time items now bucket = [] then none
      else some (inBucket time items now bucket) := by
    rw [KeyedMap.get_foldl_set (fun item => bucketOf (bangkokDay (time item)) today)
      (fun found item => found.getD [] ++ [item]), KeyedMap.get_nil, foldl_push_none]
    rfl
  have present : FEED_BUCKETS.filter byBucket.has =
      FEED_BUCKETS.filter fun bucket => inBucket time items now bucket ≠ [] := by
    apply List.filter_congr
    intro bucket _
    rw [KeyedMap.has, found]
    by_cases empty : inBucket time items now bucket = []
    · simp [empty]
    · simp [empty]
  have content (bucket : FeedBucket) :
      (byBucket.get bucket).getD [] = inBucket time items now bucket := by
    rw [found]
    by_cases empty : inBucket time items now bucket = []
    · simp [empty]
    · simp [empty]
  simp only [present, content]

theorem mem_groupByRecency {items : List α} {now : Int} {group : FeedGroup α} :
    group ∈ groupByRecency time items now ↔
      inBucket time items now group.bucket ≠ [] ∧
        group.recent = RECENT.contains group.bucket ∧
        group.items = inBucket time items now group.bucket := by
  rw [groupByRecency_eq, List.mem_map]
  constructor
  · rintro ⟨bucket, kept, rfl⟩
    exact ⟨by simpa using (List.mem_filter.mp kept).2, rfl, rfl⟩
  · rintro ⟨filled, open_, content⟩
    refine ⟨group.bucket, ?_, ?_⟩
    · exact List.mem_filter.mpr ⟨mem_FEED_BUCKETS _, by simpa using filled⟩
    · rw [← open_, ← content]

theorem latestFirst_inOrder (items : List α) :
    (latestFirst time items).Pairwise fun former latter => time latter ≤ time former :=
  List.pairwise_insertionSort _ items

/-- The groups put behind each other are the feed. -/
theorem flatMap_groupByRecency (items : List α) (now : Int) :
    (groupByRecency time items now).flatMap (·.items) = latestFirst time items := by
  have whole : FEED_BUCKETS.flatMap (inBucket time items now) = latestFirst time items := by
    apply flatMap_filter_eq depth_ascending
    · apply (latestFirst_inOrder items).imp
      intro former latter before
      exact depth_bucketOf_anti (bangkokDay_mono before)
    · intro item _
      exact mem_FEED_BUCKETS _
  -- A bucket without a group has no item.
  have empties : (FEED_BUCKETS.filter fun bucket => inBucket time items now bucket ≠ []).map
      (inBucket time items now) = (FEED_BUCKETS.map (inBucket time items now)).filter (· ≠ []) := by
    rw [List.filter_map]
    rfl
  calc (groupByRecency time items now).flatMap (·.items)
      = ((FEED_BUCKETS.filter fun bucket => inBucket time items now bucket ≠ []).map
          (inBucket time items now)).flatten := by
        rw [groupByRecency_eq, List.flatMap_map, List.flatMap_def]
    _ = (FEED_BUCKETS.map (inBucket time items now)).flatten := by
        rw [empties, List.flatten_filter_ne_nil]
    _ = latestFirst time items := by
        rw [← List.flatMap_def]
        exact whole

/-- The groups put behind each other are the items newest first, those of one instant as they came;
no group is empty, no bucket is there twice, and an item is in the group of the bucket its Bangkok
day belongs in. -/
structure LosesNothing (time : α → Int) (items : List α) (now : Int)
    (groups : List (FeedGroup α)) : Prop where
  same : (groups.flatMap FeedGroup.items).Perm items
  newestFirst : (groups.flatMap FeedGroup.items).Pairwise fun former latter =>
    time latter ≤ time former
  stable : ∀ instant,
    (groups.flatMap FeedGroup.items).filter (fun item => time item = instant) =
      items.filter fun item => time item = instant
  filled : ∀ group ∈ groups, group.items ≠ []
  apart : (groups.map FeedGroup.bucket).Nodup
  placed : ∀ item ∈ items, ∀ bucket,
    (∃ group ∈ groups, group.bucket = bucket ∧ item ∈ group.items) ↔
      BelongsIn (bangkokDay now) (bangkokDay (time item)) bucket

/-- Grouping loses nothing. -/
theorem groupByRecency_loses_nothing (items : List α) (now : Int) :
    LosesNothing time items now (groupByRecency time items now) := by
  have whole : (groupByRecency time items now).flatMap FeedGroup.items =
      latestFirst time items := flatMap_groupByRecency items now
  constructor
  · rw [whole]
    exact List.perm_insertionSort _ items
  · rw [whole]
    exact latestFirst_inOrder items
  · intro instant
    rw [whole]
    apply filter_insertionSort
    intro former latter first second
    rw [of_decide_eq_true first, of_decide_eq_true second]
  · intro group member
    obtain ⟨filled, _, content⟩ := mem_groupByRecency.mp member
    rw [content]
    exact filled
  · have nodup : FEED_BUCKETS.Nodup := by decide
    show ((groupByRecency time items now).map (·.bucket)).Nodup
    rw [groupByRecency_eq, List.map_map]
    apply List.Nodup.map
    · intro former latter same
      exact same
    · exact nodup.filter _
  · intro item member bucket
    constructor
    · rintro ⟨group, grouped, rfl, inGroup⟩
      obtain ⟨_, _, content⟩ := mem_groupByRecency.mp grouped
      rw [content, mem_inBucket] at inGroup
      exact inGroup.2
    · intro belongs
      have found : item ∈ inBucket time items now bucket := mem_inBucket.mpr ⟨member, belongs⟩
      refine ⟨⟨bucket, RECENT.contains bucket, inBucket time items now bucket⟩, ?_, rfl, found⟩
      exact mem_groupByRecency.mpr ⟨List.ne_nil_of_mem found, rfl, rfl⟩

end EventaApi.Guarantees
