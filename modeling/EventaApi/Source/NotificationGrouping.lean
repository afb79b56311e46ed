import EventaApi.Library.Grouping
import EventaApi.Source.CalendarFile

/-!
# The notification feed, grouped by recency

Instants are milliseconds from the first of January 1970, and days are counted from it, both
negative before. Any item with an instant can be grouped.
-/
namespace EventaApi.Source
open Library

/-! ## Bangkok days -/

/-- Bangkok is seven hours ahead, all year. -/
def BANGKOK_OFFSET_MS : Nat := 7 * 60 * 60 * 1000

/-- The Bangkok calendar-day number of an instant. -/
def bangkokDay (instant : Int) : Int := (instant + BANGKOK_OFFSET_MS) / DAY_MS

/-! ## Buckets -/

inductive FeedBucket where
  | today | yesterday | earlierThisWeek | lastWeek | earlier
  deriving DecidableEq, Repr

def FEED_BUCKETS : List FeedBucket :=
  [.today, .yesterday, .earlierThisWeek, .lastWeek, .earlier]

/-- The buckets that render expanded. -/
def RECENT : List FeedBucket := [.today, .yesterday, .earlierThisWeek]

structure FeedGroup (α : Type) where
  bucket : FeedBucket
  /-- Open by default. -/
  recent : Bool
  items : List α
  deriving DecidableEq, Repr

/-- The Monday-opening week a day belongs to, counted from the epoch. -/
def weekOf (day : Int) : Int := (day + 3) / 7

/-- Which bucket a day falls in. Today and yesterday come before the weeks. -/
def bucketOf (day today : Int) : FeedBucket :=
  if today ≤ day then .today
  else if day = today - 1 then .yesterday
  else if weekOf today - weekOf day = 0 then .earlierThisWeek
  else if weekOf today - weekOf day = 1 then .lastWeek
  else .earlier

variable {α : Type} (time : α → Int)

def latestFirst (items : List α) : List α :=
  items.insertionSort fun former latter => time latter ≤ time former

def groupByRecency (items : List α) (now : Int) : List (FeedGroup α) :=
  let today := bangkokDay now
  let byBucket : KeyedMap FeedBucket (List α) := (latestFirst time items).foldl
    (fun byBucket item =>
      let bucket := bucketOf (bangkokDay (time item)) today
      byBucket.set bucket ((byBucket.get bucket).getD [] ++ [item])) []
  (FEED_BUCKETS.filter byBucket.has).map fun bucket =>
    { bucket, recent := RECENT.contains bucket, items := (byBucket.get bucket).getD [] }

end EventaApi.Source
