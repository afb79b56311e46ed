import EventaApi.Library.ContentLines
import EventaApi.Library.Utf16
import EventaApi.Source.TaxPeriods

/-!
# The calendar entry of an event

`toCalendar` writes sixteen lines, with the event's texts escaped, and folds each of them. The
folding counts and cuts a string's own units, which are those of UTF-16.
-/
namespace EventaApi.Source
open Library

/-! ## Folding -/

def FOLD_AT : Nat := 75

def SPACE : Nat := 32

/-- The chunks that were pushed, and the rest. -/
structure Folding where
  chunks : List (List Nat)
  rest : List Nat

/-- The body of the loop. -/
def foldOnce (state : Folding) : Folding where
  chunks := state.chunks ++ [state.rest.take FOLD_AT]
  rest := SPACE :: state.rest.drop FOLD_AT

/-- The loop, for so many rounds at most. -/
def foldLoop : Nat → Folding → Folding
  | 0, state => state
  | rounds + 1, state =>
    if FOLD_AT < state.rest.length then foldLoop rounds (foldOnce state) else state

/-- Each round leaves the rest shorter, so a line's length in rounds is enough. -/
def folded (line : List Nat) : Folding := foldLoop line.length { chunks := [], rest := line }

/-- Fold a long line. -/
def fold (line : List Nat) : List Nat :=
  joinLines ((folded line).chunks ++ [(folded line).rest])

/-! ## Escaping -/

/-- `replace` of every occurrence of a character. -/
def replaceAll (target : Char) (replacement text : List Char) : List Char :=
  text.flatMap fun char => if char = target then replacement else [char]

/-- Escape the characters that are structure. -/
def escape (value : List Char) : List Char :=
  replaceAll '\n' ['\\', 'n'] (replaceAll ',' ['\\', ','] (replaceAll ';' ['\\', ';']
    (replaceAll '\\' ['\\', '\\'] value)))

/-! ## Dates -/

def DAY_MS : Nat := 86400000

/-- `toISOString`. -/
def toISOString (date : Instant) : List Char :=
  let day := date / DAY_MS
  let year := yearOf day
  let digits := Nat.toDigits 10 year
  let written := if year ≤ 9999 then padStart 4 digits else '+' :: padStart 6 digits
  let pair (value : Nat) : List Char := padStart 2 (Nat.toDigits 10 value)
  written ++ '-' :: pair (monthOfYear day) ++ '-' :: pair (day - monthStart (monthOf day) + 1) ++
    'T' :: pair (date % DAY_MS / 3600000) ++ ':' :: pair (date % 3600000 / 60000) ++
    ':' :: pair (date % 60000 / 1000) ++ '.' :: padStart 3 (Nat.toDigits 10 (date % 1000)) ++ ['Z']

/-- Without the separators, and up to the fraction of a second. -/
def stamp (date : Instant) : List Char :=
  ((toISOString date).filter fun char => char ≠ '-' ∧ char ≠ ':').takeWhile (· ≠ '.') ++ ['Z']

/-! ## The entry -/

/-- A text of one line: a host, an id, an address. -/
abbrev LineText := { text : String // '\n' ∉ text.toList }

structure PublicEvent where
  id : LineText
  name : String
  description : Option String
  startAt : Instant
  endAt : Option Instant
  isOnline : Bool
  venueName : Option String
  venueAddress : Option String
  city : Option String

structure PublicPage where
  event : PublicEvent
  shareUrl : LineText

def HOUR_MS : Nat := 60 * 60 * 1000

/-- Where an event is; its parts that are there, and not empty. -/
def calendarLocation (event : PublicEvent) : List Char :=
  if event.isOnline then "Online event".toList
  else [',', ' '].intercalate
    (([event.venueName, event.venueAddress, event.city].reduceOption.filter (· ≠ "")).map
      String.toList)

/-- The lines, before they are folded. -/
def calendarLines (page : PublicPage) (host : LineText) (now : Instant) : List (List Char) :=
  let event := page.event
  [ "BEGIN:VCALENDAR".toList,
    "VERSION:2.0".toList,
    "PRODID:".toList ++ "-//Eventa//".toList ++ host.val.toList ++ "//EN".toList,
    "CALSCALE:GREGORIAN".toList,
    "METHOD:PUBLISH".toList,
    "BEGIN:VEVENT".toList,
    "UID:".toList ++ event.id.val.toList ++ '@' :: host.val.toList,
    "DTSTAMP:".toList ++ stamp now,
    "DTSTART:".toList ++ stamp event.startAt,
    "DTEND:".toList ++ stamp (event.endAt.getD (event.startAt + HOUR_MS)),
    "SUMMARY:".toList ++ escape event.name.toList,
    "DESCRIPTION:".toList ++ escape (event.description.getD "").toList,
    "LOCATION:".toList ++ escape (calendarLocation event),
    "URL:".toList ++ page.shareUrl.val.toList,
    "END:VEVENT".toList,
    "END:VCALENDAR".toList ]

def toCalendar (page : PublicPage) (host : LineText) (now : Instant) : List Nat :=
  joinLines ((calendarLines page host now).map fun line => fold (utf16 line))

end EventaApi.Source
