import EventaApi.Guarantees.FeedGroups
import EventaApi.Guarantees.ReportWindows
import EventaApi.Source.RevenueTrend

/-!
# The buckets of the revenue trend

A bucket is named by the day it opens on: the day itself, the Monday of its week, or the first of
its month. In years of four digits the texts of these days are in their order, so a window's
buckets are too, each day falls in one of them, and nothing of the takings is lost.
-/
namespace EventaApi.Guarantees
open Library Source

/-! ## Days of four-digit years -/

def InFourDigits (day : Int) : Prop := 0 ≤ civilYear day ∧ civilYear day ≤ 9999

theorem civilYear_mono {earlier later : Int} (before : earlier ≤ later) :
    civilYear earlier ≤ civilYear later := by
  have months := civilMonthOf_mono before
  unfold civilYear MONTHS_IN_YEAR
  omega

theorem civilDay_le (day : Int) : civilDay day ≤ civilLength (civilYear day) (civilMonth day) := by
  obtain ⟨started, ended⟩ := civilMonthOf_spec day
  unfold civilLength civilDay
  rw [monthIndex_civil]
  omega

theorem civilMonth_bounds (day : Int) : 1 ≤ civilMonth day ∧ civilMonth day ≤ MONTHS_IN_YEAR := by
  unfold civilMonth MONTHS_IN_YEAR
  omega

theorem civilDay_le_monthLength {day : Int} (digits : InFourDigits day) :
    civilDay day ≤ monthLength (civilYear day).toNat (civilMonth day - 1) := by
  have year : ((civilYear day).toNat : Int) = civilYear day := Int.toNat_of_nonneg digits.1
  obtain ⟨month_first, month_last⟩ := civilMonth_bounds day
  rw [← civilLength_eq _ month_first month_last, year]
  exact civilDay_le day

/-- The day as the calendar has it. -/
theorem exists_calendarDay {day : Int} (digits : InFourDigits day) :
    ∃ date : CalendarDay, date.number = day ∧ isoDay day = date.text := by
  have year : ((civilYear day).toNat : Int) = civilYear day := Int.toNat_of_nonneg digits.1
  obtain ⟨month_first, month_last⟩ := civilMonth_bounds day
  have last := civilDay_le_monthLength digits
  have years : (civilYear day).toNat ≤ 9999 := by
    have most := digits.2
    omega
  refine ⟨⟨(civilYear day).toNat, civilMonth day, civilDay day, years, month_first, month_last,
    Nat.succ_le_succ (Nat.zero_le _), last⟩, ?_, ?_⟩
  · unfold CalendarDay.number
    simp only [year]
    exact civilNumber_civil day
  · exact if_pos digits.1

theorem textBefore_isoDay {day other : Int} (digits : InFourDigits day)
    (digits' : InFourDigits other) (before : day < other) :
    TextBefore (isoDay day) (isoDay other) := by
  obtain ⟨date, number, text⟩ := exists_calendarDay digits
  obtain ⟨date', number', text'⟩ := exists_calendarDay digits'
  rw [text, text']
  apply CalendarDay.textBefore_of_isBefore
  rw [← CalendarDay.number_lt_iff, number, number']
  exact before

theorem CalendarDay.parseDay_text (day : CalendarDay) : parseDay day.text = some day.number := by
  have read : 1 ≤ day.month ∧ day.month ≤ MONTHS_IN_YEAR ∧ 1 ≤ day.day ∧ day.day ≤ 31 :=
    ⟨day.month_first, day.month_last, day.first, day.day_le⟩
  simp only [parseDay, day.dayDigits_text, if_pos read]
  rfl

theorem parseDay_isoDay {day : Int} (digits : InFourDigits day) :
    parseDay (isoDay day) = some day := by
  obtain ⟨date, number, text⟩ := exists_calendarDay digits
  rw [text, date.parseDay_text, number]

/-! ## Opening days -/

/-- The day the bucket of a day opens on. -/
def openingDay : TrendGranularity → Int → Int
  | .day, day => day
  | .week, day => day - (day + 3) % 7
  | .month, day => civilMonthStart (civilMonthOf day)

/-- A week opens on a Monday. -/
theorem opensWeekOf_openingDay (day : Int) : OpensWeekOf (openingDay .week day) day := by
  simp only [OpensWeekOf, openingDay]
  omega

theorem civilMonthOf_civilMonthStart (index : Int) :
    civilMonthOf (civilMonthStart index) = index :=
  civilMonthOf_eq le_rfl (civilMonthStart_lt_succ index)

/-- A month opens on its first. -/
theorem openingDay_month (day : Int) : civilMonthOf (openingDay .month day) = civilMonthOf day ∧
    civilDay (openingDay .month day) = 1 := by
  have month := civilMonthOf_civilMonthStart (civilMonthOf day)
  refine ⟨month, ?_⟩
  simp only [openingDay, civilDay, month]
  omega

theorem openingDay_mono (granularity : TrendGranularity) {earlier later : Int}
    (before : earlier ≤ later) : openingDay granularity earlier ≤ openingDay granularity later := by
  cases granularity with
  | day => exact before
  | week =>
    simp only [openingDay]
    omega
  | month => exact civilMonthStart_le_iff.mpr (civilMonthOf_mono before)

theorem inFourDigits_month {day : Int} (digits : InFourDigits day) :
    InFourDigits (openingDay .month day) := by
  unfold InFourDigits civilYear at *
  rw [(openingDay_month day).1]
  exact digits

/-- The week of the first days of year 0 opens before it, and is the only one that does. -/
theorem inFourDigits_week {day : Int} (digits : InFourDigits day) :
    InFourDigits (openingDay .week day) ∨ civilYear (openingDay .week day) < 0 ∧
      civilMonthStart (-23640) < openingDay .week day + 7 := by
  have week := opensWeekOf_openingDay day
  have year : civilYear (openingDay .week day) ≤ civilYear day := civilYear_mono week.2.1
  have start : civilMonthStart (-23640) ≤ day := by
    rw [← le_civilMonthOf_iff]
    have least := digits.1
    unfold civilYear EPOCH_YEAR MONTHS_IN_YEAR at least
    omega
  by_cases within : 0 ≤ civilYear (openingDay .week day)
  · exact Or.inl ⟨within, le_trans year digits.2⟩
  · exact Or.inr ⟨by omega, by have := week.2.2; omega⟩

/-! ## Texts of opening days -/

theorem head_isoDay_of_negative {day : Int} (negative : civilYear day < 0) :
    ∃ rest, isoDay day = '-' :: rest := by
  have before : ¬ 0 ≤ civilYear day := by omega
  unfold isoDay
  simp only [if_neg before]
  exact ⟨_, rfl⟩

theorem head_isoDay_of_digits {day : Int} (digits : InFourDigits day) :
    ∃ first rest, isoDay day = first :: rest ∧ first.isDigit = true := by
  obtain ⟨date, _, text⟩ := exists_calendarDay digits
  have shape := isoDate_eq date.inYears (le_trans date.month_le (by decide))
    (le_trans date.day_le (by decide))
  have size := @length_padStart 4 _ (by decide)
    (show date.year < 10 ^ 4 by have := date.inYears; omega)
  have all := padStart_all_isDigit 4 date.year
  cases year : padStart 4 (Nat.toDigits 10 date.year) with
  | nil =>
    rw [year] at size
    cases size
  | cons first rest =>
    rw [year] at all shape
    rw [List.all_cons, Bool.and_eq_true] at all
    exact ⟨first, _, text.trans shape, all.1⟩

/-- The texts of opening days are in the order of the days. -/
theorem textBefore_openingDay {granularity : TrendGranularity} {day other : Int}
    (digits : InFourDigits day) (digits' : InFourDigits other)
    (before : openingDay granularity day < openingDay granularity other) :
    TextBefore (isoDay (openingDay granularity day)) (isoDay (openingDay granularity other)) := by
  cases granularity with
  | day => exact textBefore_isoDay digits digits' before
  | month => exact textBefore_isoDay (inFourDigits_month digits) (inFourDigits_month digits') before
  | week =>
    have monday := opensWeekOf_openingDay day
    have monday' := opensWeekOf_openingDay other
    have later : openingDay .week day + 7 ≤ openingDay .week other := by
      unfold OpensWeekOf at monday monday'
      omega
    have within' : civilYear (openingDay .week other) ≤ 9999 :=
      le_trans (civilYear_mono monday'.2.1) digits'.2
    rcases inFourDigits_week digits with within | ⟨negative, close⟩
    · have positive : 0 ≤ civilYear (openingDay .week other) :=
        le_trans within.1 (civilYear_mono before.le)
      exact textBefore_isoDay within ⟨positive, within'⟩ before
    · -- The sign of the year before the first stands before any digit.
      have start : -23640 ≤ civilMonthOf (openingDay .week other) := by
        rw [le_civilMonthOf_iff]
        omega
      have positive : 0 ≤ civilYear (openingDay .week other) := by
        unfold civilYear EPOCH_YEAR MONTHS_IN_YEAR
        omega
      obtain ⟨rest, text⟩ := head_isoDay_of_negative negative
      obtain ⟨first, rest', text', digit⟩ := head_isoDay_of_digits ⟨positive, within'⟩
      rw [text, text']
      apply List.Lex.rel
      have bounds : 48 ≤ first.toNat ∧ first.toNat ≤ 57 := Char.isDigit_iff_toNat.mp digit
      have sign : '-'.toNat = 45 := rfl
      omega

theorem take_isoDate {year month day : Nat} (years : year ≤ 9999) (months : month ≤ 99)
    (days : day ≤ 99) :
    (isoDate year month day).take 7 ++ ['-', '0', '1'] = isoDate year month 1 := by
  have yearLength := @length_padStart 4 _ (by decide) (show year < 10 ^ 4 by omega)
  have monthLength := @length_padStart 2 _ (by decide) (show month < 10 ^ 2 by omega)
  have first : padStart 2 (Nat.toDigits 10 1) = ['0', '1'] := by decide
  rw [isoDate_eq years months days, isoDate_eq years months (by decide), first, List.take_left']
  simp [yearLength, monthLength]

/-- The bucket of a day is named by the day it opens on. -/
theorem trendBucketOf_isoDay (granularity : TrendGranularity) {day : Int}
    (digits : InFourDigits day) :
    trendBucketOf granularity (isoDay day) = some (isoDay (openingDay granularity day)) := by
  cases granularity with
  | day => rfl
  | week =>
    have weekday : (getUTCDay day + 6) % 7 = (day + 3) % 7 := by
      unfold getUTCDay
      omega
    simp only [trendBucketOf, mondayOf, parseDay_isoDay digits, Option.map_some, weekday,
      openingDay]
  | month =>
    obtain ⟨month_first, month_last⟩ := civilMonth_bounds day
    have last : civilDay day ≤ 31 :=
      le_trans (civilDay_le_monthLength digits) (CalendarDay.monthLength_le _ _)
    have opens := openingDay_month day
    have year : civilYear (openingDay .month day) = civilYear day := by
      unfold civilYear
      rw [opens.1]
    have month : civilMonth (openingDay .month day) = civilMonth day := by
      unfold civilMonth
      rw [opens.1]
    have years : (civilYear day).toNat ≤ 9999 := by
      have most := digits.2
      omega
    simp only [trendBucketOf, isoDay, year, month, opens.2, if_pos digits.1]
    rw [take_isoDate years (le_trans month_last (by decide)) (le_trans last (by decide))]

/-! ## The days of a window -/

/-- The day begins in the period. -/
def InWindow (period : ReportPeriod) (day : Int) : Prop :=
  period.fromAt ≤ midnight day ∧ midnight day < period.toAt

theorem bangkokDay_midnight (day : Int) : bangkokDay (midnight day) = day := by
  rw [bangkokDay_eq, midnight_eq]
  omega

theorem parsed_midnight {day : Option String} {parsed : Int}
    (read : parseBangkokDay day = .ok parsed) : ∃ number, parsed = midnight number := by
  unfold parseBangkokDay at read
  split at read
  next => cases read
  next year month day _ =>
    unfold parseMidnight at read
    split_ifs at read
    cases read
    exact ⟨civilNumber year month day, rfl⟩

/-- Whatever is asked for, a window opens and closes at midnights. -/
theorem resolved_midnights {request : ReportPeriodRequest} {now : Int} {period : ReportPeriod}
    (resolved : resolveReportPeriod request now = .ok period) :
    ∃ first next, period.fromAt = midnight first ∧ period.toAt = midnight next := by
  unfold resolveReportPeriod at resolved
  obtain ⟨⟨fromAt, toAt⟩, bounds, resolved⟩ := bind_ok resolved
  dsimp only at resolved
  split at resolved
  next => cases resolved
  next =>
    cases resolved
    have closes : ∃ next, toAt = midnight next := by
      unfold boundsOf at bounds
      split at bounds
      · obtain ⟨opened, _, bounds⟩ := bind_ok bounds
        obtain ⟨closed, ending, bounds⟩ := bind_ok bounds
        cases bounds
        obtain ⟨parsed, read, ending⟩ := bind_ok ending
        cases ending
        obtain ⟨number, rfl⟩ := parsed_midnight read
        refine ⟨number + 1, ?_⟩
        unfold midnight
        ring
      · cases bounds
        refine ⟨bangkokDay now + 1, ?_⟩
        unfold startOfBangkokDay midnight bangkokDay
        ring
    obtain ⟨next, rfl⟩ := closes
    refine ⟨next - min (roundDays (midnight next - fromAt)) MAX_SPAN_DAYS, next, ?_, rfl⟩
    show midnight next - _ * (DAY_MS : Int) = _
    unfold midnight
    ring

/-- The days from the one to before the other. -/
def daysBetween (first next : Int) : List Int :=
  (List.range (next - first).toNat).map fun step : Nat => first + step

theorem mem_daysBetween {first next day : Int} :
    day ∈ daysBetween first next ↔ first ≤ day ∧ day < next := by
  unfold daysBetween
  rw [List.mem_map]
  constructor
  · rintro ⟨step, member, rfl⟩
    rw [List.mem_range] at member
    omega
  · rintro ⟨started, ended⟩
    exact ⟨(day - first).toNat, List.mem_range.mpr (by omega), by omega⟩

theorem daysBetween_ascending (first next : Int) :
    (daysBetween first next).Pairwise (· < ·) := by
  unfold daysBetween
  apply List.pairwise_map.mpr
  apply List.pairwise_lt_range.imp
  intro former latter less
  omega

theorem steppedByDay_midnights (first next : Int) :
    steppedByDay (midnight first) (midnight next) = (daysBetween first next).map midnight := by
  have rounds : (midnight next - midnight first + (DAY_MS - 1)) / DAY_MS = next - first := by
    rw [midnight_eq, midnight_eq]
    show (_ + (86400000 - 1)) / 86400000 = _
    omega
  unfold steppedByDay daysBetween
  rw [rounds, List.map_map]
  apply List.map_congr_left
  intro step _
  show midnight first + step * DAY_MS = midnight (first + step)
  unfold midnight
  ring

theorem dayStringOf_midnight (day : Int) : dayStringOf (midnight day) = isoDay day :=
  congrArg isoDay (bangkokDay_midnight day)

/-- The names of a window's buckets, one a day. -/
def bucketNames (granularity : TrendGranularity) (days : List Int) : List (List Char) :=
  days.map fun day => isoDay (openingDay granularity day)

theorem mapM_some {α β : Type} {f : α → Option β} {g : α → β} {items : List α}
    (all : ∀ item ∈ items, f item = some (g item)) : items.mapM f = some (items.map g) := by
  induction items with
  | nil => rfl
  | cons item rest ih =>
    rw [List.mapM_cons, all item List.mem_cons_self,
      ih fun other member => all other (List.mem_cons_of_mem _ member)]
    rfl

theorem emptyBuckets_eq {period : ReportPeriod} {first next : Int}
    (opens : period.fromAt = midnight first) (closes : period.toAt = midnight next)
    (digits : ∀ day ∈ daysBetween first next, InFourDigits day) (granularity : TrendGranularity) :
    emptyBuckets period granularity =
      some ((bucketNames granularity (daysBetween first next)).foldl
        (fun (buckets : KeyedMap (List Char) Int) key => buckets.set key 0) []) := by
  have keys : ((daysBetween first next).map midnight).mapM
      (fun instant => trendBucketOf granularity (dayStringOf instant)) =
        some (bucketNames granularity (daysBetween first next)) := by
    rw [List.mapM_map]
    apply mapM_some
    intro day member
    simp only [Function.comp, dayStringOf_midnight]
    exact trendBucketOf_isoDay granularity (digits day member)
  unfold emptyBuckets
  rw [opens, closes, steppedByDay_midnights, keys]
  rfl

/-! ## What the chart shows -/

/-- The takings of a day, as they are read. -/
def netRow (row : Int × Int) : NetRevenueDay where
  day := isoDay row.1
  netSatang := row.2

/-- The day falls in the point's bucket. -/
def FallsIn (granularity : TrendGranularity) (point : TrendPoint) (day : Int) : Prop :=
  point.atDay = isoDay (openingDay granularity day)

instance (granularity : TrendGranularity) (point : TrendPoint) :
    DecidablePred (FallsIn granularity point) := fun day =>
  inferInstanceAs (Decidable (point.atDay = isoDay (openingDay granularity day)))

/-- Each row under the name of its bucket. -/
def named (granularity : TrendGranularity) (rows : List (Int × Int)) : List (List Char × Int) :=
  rows.map fun row => (isoDay (openingDay granularity row.1), row.2)

/-- The buckets of a window's days, filled. -/
def filledBuckets (granularity : TrendGranularity) (days : List Int) (rows : List (Int × Int)) :
    KeyedMap (List Char) Int :=
  (named granularity rows).foldl (KeyedMap.addTo Prod.fst Prod.snd)
    ((bucketNames granularity days).foldl
      (fun (buckets : KeyedMap (List Char) Int) key => buckets.set key 0) [])

def pointOf (bucket : List Char × Int) : TrendPoint where
  atDay := bucket.1
  netSatang := bucket.2

variable {granularity : TrendGranularity} {days : List Int} {rows : List (Int × Int)}

theorem not_textBefore_self (text : List Char) : ¬ TextBefore text text := by
  intro before
  induction text with
  | nil => cases before
  | cons char rest ih =>
    cases before with
    | cons later => exact ih later
    | rel less => exact lt_irrefl _ less

theorem bucketNames_inOrder (ascending : days.Pairwise (· < ·))
    (digits : ∀ day ∈ days, InFourDigits day) :
    (bucketNames granularity days).Pairwise fun name later =>
      name = later ∨ TextBefore name later := by
  unfold bucketNames
  apply List.pairwise_map.mpr
  apply ascending.imp_of_mem
  intro day later member member' before
  rcases (openingDay_mono granularity before.le).lt_or_eq with less | same
  · exact Or.inr (textBefore_openingDay (digits day member) (digits later member') less)
  · exact Or.inl (congrArg isoDay same)

theorem get_filledBuckets (name : List Char) :
    (filledBuckets granularity days rows).get name =
      if name ∈ bucketNames granularity days then
        some (((named granularity rows).filter fun row => row.1 = name).map Prod.snd).sum
      else none := by
  unfold filledBuckets
  rw [KeyedMap.get_foldl_addTo, KeyedMap.get_foldl_set_const]
  by_cases known : name ∈ bucketNames granularity days
  · simp [known]
  · simp [known]

theorem keys_filledBuckets (other : List (Int × Int)) :
    (filledBuckets granularity days rows).keys = (filledBuckets granularity days other).keys := by
  unfold filledBuckets
  rw [KeyedMap.keys_foldl_addTo, KeyedMap.keys_foldl_addTo]

theorem keys_filledBuckets_inOrder (ascending : days.Pairwise (· < ·))
    (digits : ∀ day ∈ days, InFourDigits day) :
    (filledBuckets granularity days rows).keys.Pairwise TextBefore := by
  unfold filledBuckets
  rw [KeyedMap.keys_foldl_addTo]
  apply KeyedMap.pairwise_keys_foldl_set
  · exact List.Pairwise.nil
  · intro key member
    cases member
  · exact bucketNames_inOrder ascending digits

theorem nodup_keys_filledBuckets (ascending : days.Pairwise (· < ·))
    (digits : ∀ day ∈ days, InFourDigits day) :
    (filledBuckets granularity days rows).keys.Nodup := by
  apply (keys_filledBuckets_inOrder ascending digits).imp
  rintro key _ before rfl
  exact not_textBefore_self key before

/-- The order of the takings makes no difference. -/
theorem filledBuckets_perm (ascending : days.Pairwise (· < ·))
    (digits : ∀ day ∈ days, InFourDigits day) {other : List (Int × Int)} (same : other.Perm rows) :
    filledBuckets granularity days other = filledBuckets granularity days rows := by
  apply KeyedMap.ext_of_keys (nodup_keys_filledBuckets ascending digits) (keys_filledBuckets rows)
  intro key _
  have sums := ((((same.map fun row => (isoDay (openingDay granularity row.1), row.2)).filter
    fun row => row.1 = key).map Prod.snd).sum_eq)
  rw [get_filledBuckets, get_filledBuckets]
  unfold named
  rw [sums]

theorem sum_filledBuckets (within : ∀ row ∈ rows, row.1 ∈ days) :
    ((filledBuckets granularity days rows).map Prod.snd).sum = (rows.map Prod.snd).sum := by
  have names : (named granularity rows).map Prod.snd = rows.map Prod.snd := by
    unfold named
    rw [List.map_map]
    rfl
  unfold filledBuckets
  rw [KeyedMap.sum_foldl_addTo, names]
  · -- The buckets are at zero before anything is added.
    have zeros : (((bucketNames granularity days).foldl
        (fun (buckets : KeyedMap (List Char) Int) key => buckets.set key 0) []).map
          Prod.snd).sum = 0 := by
      apply List.sum_eq_zero
      intro value member
      obtain ⟨bucket, among, rfl⟩ := List.mem_map.mp member
      rcases KeyedMap.mem_foldl_set_const among with old | zero
      · cases old
      · exact zero
    rw [zeros, Int.zero_add]
  · intro row member
    obtain ⟨row, among, rfl⟩ := List.mem_map.mp member
    have known : isoDay (openingDay granularity row.1) ∈ bucketNames granularity days :=
      List.mem_map.mpr ⟨row.1, within row among, rfl⟩
    rw [KeyedMap.mem_keys_iff, KeyedMap.get_foldl_set_const, if_pos known]
    exact ⟨0, rfl⟩

/-- What a chart of a window shows of these takings. -/
structure Conserves (granularity : TrendGranularity) (period : ReportPeriod)
    (rows : List (Int × Int)) (points : List TrendPoint) : Prop where
  ascending : points.Pairwise fun point later => TextBefore point.atDay later.atDay
  each : ∀ day, InWindow period day → ∃! point, point ∈ points ∧ FallsIn granularity point day
  covers : ∀ point ∈ points, ∃ day, InWindow period day ∧ FallsIn granularity point day
  figures : ∀ point ∈ points, point.netSatang =
    ((rows.filter fun row => FallsIn granularity point row.1).map Prod.snd).sum
  total : (points.map (·.netSatang)).sum = (rows.map Prod.snd).sum

theorem mem_points {ascending : days.Pairwise (· < ·)} (digits : ∀ day ∈ days, InFourDigits day)
    {point : TrendPoint} : point ∈ (filledBuckets granularity days rows).map pointOf ↔
      (∃ day ∈ days, FallsIn granularity point day) ∧ point.netSatang =
        ((rows.filter fun row => FallsIn granularity point row.1).map Prod.snd).sum := by
  have sums : ((named granularity rows).filter fun row => row.1 = point.atDay).map Prod.snd =
      (rows.filter fun row => FallsIn granularity point row.1).map Prod.snd := by
    unfold named
    rw [List.filter_map, List.map_map]
    congr 1
    apply List.filter_congr
    intro row _
    exact decide_eq_decide.mpr eq_comm
  have listed : point ∈ (filledBuckets granularity days rows).map pointOf ↔
      (point.atDay, point.netSatang) ∈ filledBuckets granularity days rows := by
    rw [List.mem_map]
    constructor
    · rintro ⟨bucket, member, rfl⟩
      exact member
    · intro member
      exact ⟨_, member, rfl⟩
  have known : point.atDay ∈ bucketNames granularity days ↔
      ∃ day ∈ days, FallsIn granularity point day := by
    unfold bucketNames FallsIn
    rw [List.mem_map]
    simp only [eq_comm]
  rw [listed, KeyedMap.mem_iff_get (nodup_keys_filledBuckets ascending digits), get_filledBuckets,
    sums]
  by_cases falls : point.atDay ∈ bucketNames granularity days
  · rw [if_pos falls, Option.some.injEq]
    exact ⟨fun same => ⟨known.mp falls, same.symm⟩, fun same => same.2.symm⟩
  · rw [if_neg falls]
    exact ⟨fun none => (by cases none), fun same => absurd (known.mpr same.1) falls⟩

theorem bucketRevenue_eq {period : ReportPeriod} {first next : Int}
    (opens : period.fromAt = midnight first) (closes : period.toAt = midnight next)
    (digits : ∀ day ∈ daysBetween first next, InFourDigits day)
    (within : ∀ row ∈ rows, row.1 ∈ daysBetween first next) :
    bucketRevenue (rows.map netRow) period granularity =
      some ((filledBuckets granularity (daysBetween first next) rows).map pointOf) := by
  have entries : (rows.map netRow).mapM (fun row =>
      (trendBucketOf granularity row.day).map fun key => (key, row.netSatang)) =
        some (named granularity rows) := by
    rw [List.mapM_map]
    apply mapM_some
    intro row member
    show (trendBucketOf granularity (isoDay row.1)).map _ = _
    rw [trendBucketOf_isoDay granularity (digits row.1 (within row member))]
    rfl
  unfold bucketRevenue
  rw [emptyBuckets_eq opens closes digits, entries]
  rfl

/-- In years of four digits a chart conserves money: its points ascend, each day of the window
falls in one of them and each of them covers a day, its figure is the sum of its days' takings,
the points sum to what was taken, and the order of the takings makes no difference. -/
theorem bucketRevenue_conserves {request : ReportPeriodRequest} {now : Int} {period : ReportPeriod}
    (resolved : resolveReportPeriod request now = .ok period)
    (digits : ∀ day, InWindow period day → InFourDigits day) (granularity : TrendGranularity)
    (rows : List (Int × Int)) (within : ∀ row ∈ rows, InWindow period row.1) :
    ∃ points, bucketRevenue (rows.map netRow) period granularity = some points ∧
      Conserves granularity period rows points ∧
      ∀ other : List (Int × Int), other.Perm rows →
        bucketRevenue (other.map netRow) period granularity = some points := by
  obtain ⟨first, next, opens, closes⟩ := resolved_midnights resolved
  have window (day : Int) : InWindow period day ↔ day ∈ daysBetween first next := by
    unfold InWindow
    rw [opens, closes, midnight_le_iff, lt_midnight_iff, bangkokDay_midnight, mem_daysBetween]
  have ascending := daysBetween_ascending first next
  have digits : ∀ day ∈ daysBetween first next, InFourDigits day := fun day member =>
    digits day ((window day).mpr member)
  have within : ∀ row ∈ rows, row.1 ∈ daysBetween first next := fun row member =>
    (window row.1).mp (within row member)
  have listed {point : TrendPoint} := @mem_points granularity _ rows ascending digits point
  refine ⟨_, bucketRevenue_eq opens closes digits within, ⟨?_, ?_, ?_, ?_, ?_⟩, ?_⟩
  · have keys : (filledBuckets granularity (daysBetween first next) rows).keys.Pairwise
        TextBefore := keys_filledBuckets_inOrder ascending digits
    apply List.pairwise_map.mpr
    exact List.pairwise_map.mp keys
  · intro day inside
    have member := (window day).mp inside
    refine ⟨⟨isoDay (openingDay granularity day), ((rows.filter fun row =>
      FallsIn granularity ⟨isoDay (openingDay granularity day), 0⟩ row.1).map Prod.snd).sum⟩,
      ⟨?_, rfl⟩, ?_⟩
    · exact listed.mpr ⟨⟨day, member, rfl⟩, rfl⟩
    · rintro ⟨atDay, netSatang⟩ ⟨member, falls⟩
      have figure := (listed.mp member).2
      cases falls
      rw [TrendPoint.mk.injEq]
      exact ⟨rfl, figure⟩
  · intro point member
    obtain ⟨⟨day, among, falls⟩, _⟩ := listed.mp member
    exact ⟨day, (window day).mpr among, falls⟩
  · intro point member
    exact (listed.mp member).2
  · rw [List.map_map]
    exact sum_filledBuckets within
  · intro other same
    rw [bucketRevenue_eq opens closes digits fun row member => within row (same.mem_iff.mp member),
      filledBuckets_perm ascending digits same]

/-- The last week of 1969 and the first day of 1970. -/
def newYearWeek : ReportPeriod where
  fromAt := midnight (-6)
  toAt := midnight 1
  previousFrom := midnight (-13)
  previousTo := midnight (-6)
  days := 7
  trimmed := false

theorem newYearWeek_resolved :
    resolveReportPeriod { range := some .week } 0 = .ok newYearWeek := by rfl

theorem newYearWeek_days {day : Int} (inside : InWindow newYearWeek day) : -6 ≤ day ∧ day < 1 := by
  obtain ⟨started, ended⟩ := inside
  rw [show newYearWeek.fromAt = midnight (-6) from rfl, midnight_le_iff,
    bangkokDay_midnight] at started
  rw [show newYearWeek.toAt = midnight 1 from rfl, lt_midnight_iff, bangkokDay_midnight] at ended
  exact ⟨started, ended⟩

theorem newYearWeek_conserves :
    ∃ points, bucketRevenue ([(0, 100), (-1, -50), (0, 7)].map netRow) newYearWeek .week =
        some points ∧
      Conserves .week newYearWeek [(0, 100), (-1, -50), (0, 7)] points ∧
      ∀ other : List (Int × Int), other.Perm [(0, 100), (-1, -50), (0, 7)] →
        bucketRevenue (other.map netRow) newYearWeek .week = some points := by
  have first : civilYear (-6) = 1969 := by decide +kernel
  have last : civilYear 1 = 1970 := by decide +kernel
  apply bucketRevenue_conserves newYearWeek_resolved
  · intro day inside
    obtain ⟨started, ended⟩ := newYearWeek_days inside
    have least := civilYear_mono started
    have most := civilYear_mono ended.le
    exact ⟨by omega, by omega⟩
  · have inside : InWindow newYearWeek 0 ∧ InWindow newYearWeek (-1) := by
      unfold InWindow
      decide
    intro row member
    simp only [List.mem_cons, List.not_mem_nil, or_false] at member
    rcases member with rfl | rfl | rfl
    · exact inside.1
    · exact inside.2
    · exact inside.1

/-- The week of the first of January 10000, whose text has a sign before six digits. -/
theorem week_of_year_10000 :
    ¬ ∀ (request : ReportPeriodRequest) (now : Int) (period : ReportPeriod),
      resolveReportPeriod request now = .ok period →
      ∀ (granularity : TrendGranularity) (rows : List (Int × Int)),
        (∀ row ∈ rows, InWindow period row.1) →
        ∃ points, bucketRevenue (rows.map netRow) period granularity = some points ∧
          Conserves granularity period rows points ∧
          ∀ other : List (Int × Int), other.Perm rows →
            bucketRevenue (other.map netRow) period granularity = some points := by
  intro all
  have resolved : resolveReportPeriod { range := some .week } (2932897 * 86400000) =
      .ok (capped (midnight 2932891) (midnight 2932898)) := by rfl
  obtain ⟨points, shown, conserves, _⟩ := all _ _ _ resolved .day [] (by simp)
  have days : (bucketRevenue [] (capped (midnight 2932891) (midnight 2932898)) .day).map
      (List.drop 5) = some [⟨['9', '9', '9', '9', '-', '1', '2', '-', '3', '1'], 0⟩,
        ⟨['+', '0', '1', '0', '0', '0', '0', '-', '0', '1'], 0⟩] := by decide +kernel
  rw [List.map_nil] at shown
  rw [shown, Option.map_some, Option.some.injEq] at days
  have ascending := conserves.ascending.sublist (List.drop_sublist 5 points)
  rw [days] at ascending
  have before := (List.pairwise_cons.mp ascending).1 _ List.mem_cons_self
  cases before with
  | rel less => exact absurd less (by decide)

end EventaApi.Guarantees
