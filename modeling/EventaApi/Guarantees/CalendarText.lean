import EventaApi.Source.CalendarFile

/-!
# What a calendar file says

Unfolding and unescaping give back an event's texts, and no text can begin a line: a line feed
is escaped before anything is folded. The fold counts UTF-16 units where the format counts
octets, so a line is short enough exactly where everything before its last fold is ASCII.
-/
namespace EventaApi.Guarantees
open Library Source

/-! ## The loop -/

theorem shorter_rest {rounds : Nat} {rest : List Nat} (long : FOLD_AT < rest.length)
    (enough : rest.length ≤ rounds + 1 + FOLD_AT) :
    (SPACE :: rest.drop FOLD_AT).length ≤ rounds + FOLD_AT := by
  rw [List.length_cons, List.length_drop]
  unfold FOLD_AT at enough long ⊢
  omega

/-- What the loop makes of a rest, in so many rounds. -/
def piecesWithin : Nat → List Nat → List (List Nat)
  | 0, rest => [rest]
  | rounds + 1, rest =>
    if FOLD_AT < rest.length then
      rest.take FOLD_AT :: piecesWithin rounds (SPACE :: rest.drop FOLD_AT)
    else [rest]

theorem foldLoop_pieces (rounds : Nat) (chunks : List (List Nat)) (rest : List Nat) :
    (foldLoop rounds { chunks, rest }).chunks ++ [(foldLoop rounds { chunks, rest }).rest] =
      chunks ++ piecesWithin rounds rest := by
  induction rounds generalizing chunks rest with
  | zero => rfl
  | succ rounds ih =>
    unfold foldLoop piecesWithin
    split
    · rw [foldOnce, ih, List.append_assoc, List.singleton_append]
    · rfl

/-- The loop ends: with as many rounds as units the rest is short. -/
theorem foldLoop_short (rounds : Nat) (chunks : List (List Nat)) {rest : List Nat}
    (enough : rest.length ≤ rounds + FOLD_AT) :
    (foldLoop rounds { chunks, rest }).rest.length ≤ FOLD_AT := by
  induction rounds generalizing chunks rest with
  | zero =>
    rw [Nat.zero_add] at enough
    exact enough
  | succ rounds ih =>
    unfold foldLoop
    split
    next long =>
      exact ih _ (shorter_rest long enough)
    next short => exact Nat.le_of_not_lt short

/-- The physical lines of a line. -/
def pieces (line : List Nat) : List (List Nat) := piecesWithin line.length line

theorem fold_eq (line : List Nat) : fold line = joinLines (pieces line) := by
  unfold fold folded pieces
  rw [foldLoop_pieces, List.nil_append]

theorem piecesWithin_ne_nil (rounds : Nat) (rest : List Nat) : piecesWithin rounds rest ≠ [] := by
  cases rounds with
  | zero => exact List.cons_ne_nil _ _
  | succ rounds =>
    unfold piecesWithin
    split <;> exact List.cons_ne_nil _ _

/-- The first piece is the line's own beginning, and each later one starts with a space. -/
theorem piecesWithin_shape (rounds : Nat) {rest : List Nat}
    (enough : rest.length ≤ rounds + FOLD_AT) :
    ∃ later, piecesWithin rounds rest = rest.take FOLD_AT :: later ∧
      ∀ piece ∈ later, piece.head? = some SPACE := by
  induction rounds generalizing rest with
  | zero =>
    rw [Nat.zero_add] at enough
    exact ⟨[], by rw [piecesWithin, List.take_of_length_le enough], by simp⟩
  | succ rounds ih =>
    unfold piecesWithin
    split
    next long =>
      obtain ⟨later, shape, marked⟩ := ih (shorter_rest long enough)
      refine ⟨_, rfl, ?_⟩
      rw [shape]
      intro piece member
      rcases List.mem_cons.mp member with rfl | after
      · rfl
      · exact marked piece after
    next short =>
      exact ⟨[], by rw [List.take_of_length_le (Nat.le_of_not_lt short)], by simp⟩

theorem piecesWithin_plain (rounds : Nat) {rest : List Nat} (plain : LF ∉ rest) :
    ∀ piece ∈ piecesWithin rounds rest, LF ∉ piece := by
  induction rounds generalizing rest with
  | zero =>
    intro piece member
    rw [piecesWithin, List.mem_singleton] at member
    exact member ▸ plain
  | succ rounds ih =>
    unfold piecesWithin
    split
    · intro piece member
      rcases List.mem_cons.mp member with rfl | later
      · exact fun feed => plain (List.mem_of_mem_take feed)
      · refine ih ?_ piece later
        rw [List.mem_cons, not_or]
        exact ⟨by decide, fun feed => plain (List.mem_of_mem_drop feed)⟩
    · intro piece member
      rw [List.mem_singleton] at member
      exact member ▸ plain

theorem joinLines_pieces (rounds : Nat) (unit : Nat) (rest : List Nat) :
    ∃ after, joinLines (piecesWithin rounds (unit :: rest)) = unit :: after := by
  cases rounds with
  | zero => exact ⟨rest, joinLines_single⟩
  | succ rounds =>
    unfold piecesWithin
    split
    · rw [joinLines_cons (piecesWithin_ne_nil _ _)]
      exact ⟨_, rfl⟩
    · exact ⟨rest, joinLines_single⟩

/-- Unfolded, the pieces are the line again. -/
theorem removeFolds_pieces (rounds : Nat) {rest behind : List Nat} (plain : LF ∉ rest)
    (ended : behind = [] ∨ ∃ after, behind = CR :: LF :: after) :
    removeFolds (joinLines (piecesWithin rounds rest) ++ behind) = rest ++ removeFolds behind := by
  have stays {line : List Nat} (clean : LF ∉ line) :
      removeFolds (line ++ behind) = line ++ removeFolds behind := by
    rcases ended with rfl | ⟨after, rfl⟩
    · rw [List.append_nil, removeFolds_plain clean, removeFolds_plain List.not_mem_nil,
        List.append_nil]
    · exact removeFolds_append clean
  induction rounds generalizing rest with
  | zero =>
    rw [piecesWithin, joinLines_single]
    exact stays plain
  | succ rounds ih =>
    unfold piecesWithin
    split
    next long =>
      have clean : LF ∉ rest.take FOLD_AT := fun feed => plain (List.mem_of_mem_take feed)
      have after : LF ∉ SPACE :: rest.drop FOLD_AT := by
        rw [List.mem_cons, not_or]
        exact ⟨by decide, fun feed => plain (List.mem_of_mem_drop feed)⟩
      have tail := ih after
      obtain ⟨others, starts⟩ := joinLines_pieces rounds SPACE (rest.drop FOLD_AT)
      rw [starts, List.cons_append, removeFolds_cons (fun both => absurd both.1 (by decide)),
        List.cons_append, List.cons.injEq] at tail
      rw [joinLines_cons (piecesWithin_ne_nil _ _), starts, List.append_assoc, List.cons_append,
        List.cons_append, List.cons_append, removeFolds_append clean, removeFolds_fold (by decide),
        tail.2, ← List.append_assoc, List.take_append_drop]
    next short =>
      rw [joinLines_single]
      exact stays plain

/-! ## The whole file -/

/-- A line that may be folded among others: it starts with something that marks no fold. -/
structure Foldable (line : List Nat) : Prop where
  plain : LF ∉ line
  starts : ∃ first rest, line = first :: rest ∧ isFoldMark first = false

theorem toCalendar_eq (page : PublicPage) (host : LineText) (now : Instant) :
    toCalendar page host now =
      joinLines ((calendarLines page host now).flatMap fun line => pieces (utf16 line)) := by
  unfold toCalendar
  simp only [fold_eq]
  exact joinLines_flatMap fun line => piecesWithin_ne_nil _ _

theorem pieces_ne_nil (line : List Nat) : pieces line ≠ [] := piecesWithin_ne_nil _ _

theorem flatMap_pieces_ne_nil {lines : List (List Nat)} (some : lines ≠ []) :
    lines.flatMap pieces ≠ [] := by
  obtain ⟨line, others, rfl⟩ := List.exists_cons_of_ne_nil some
  rw [List.flatMap_cons]
  exact List.append_ne_nil_of_left_ne_nil (pieces_ne_nil line) _

/-- Joined pieces begin as the first line does. -/
theorem joinLines_flatMap_pieces (first : Nat) (rest : List Nat) (lines : List (List Nat)) :
    ∃ after, joinLines (((first :: rest) :: lines).flatMap pieces) = first :: after := by
  obtain ⟨after, opens⟩ := joinLines_pieces (first :: rest).length first rest
  have begins : joinLines (pieces (first :: rest)) = first :: after := opens
  rw [List.flatMap_cons]
  by_cases done : lines.flatMap pieces = []
  · rw [done, List.append_nil]
    exact ⟨after, begins⟩
  · rw [joinLines_append (pieces_ne_nil _) done, begins]
    exact ⟨_, rfl⟩

theorem removeFolds_flatMap {lines : List (List Nat)} (foldable : ∀ line ∈ lines, Foldable line) :
    removeFolds (joinLines (lines.flatMap pieces)) = joinLines lines := by
  induction lines with
  | nil => rfl
  | cons line others ih =>
    have plain := (foldable line List.mem_cons_self).plain
    have later : ∀ line ∈ others, Foldable line :=
      fun line member => foldable line (List.mem_cons_of_mem _ member)
    have unfolds {behind : List Nat} (ended : behind = [] ∨ ∃ after, behind = CR :: LF :: after) :
        removeFolds (joinLines (pieces line) ++ behind) = line ++ removeFolds behind :=
      removeFolds_pieces line.length plain ended
    rw [List.flatMap_cons]
    cases others with
    | nil =>
      have alone := unfolds (Or.inl rfl)
      rw [List.append_nil, removeFolds_plain List.not_mem_nil, List.append_nil] at alone
      rw [List.flatMap_nil, List.append_nil, joinLines_single]
      exact alone
    | cons next tail =>
      -- The next line does not look like a continuation, so the break before it stays.
      obtain ⟨first, rest, rfl, black⟩ := (later next List.mem_cons_self).starts
      obtain ⟨after, opens⟩ := joinLines_flatMap_pieces first rest tail
      rw [joinLines_append (pieces_ne_nil _) (flatMap_pieces_ne_nil (List.cons_ne_nil _ _)),
        unfolds (Or.inr ⟨_, rfl⟩), opens, removeFolds_break black, ← opens, ih later,
        joinLines_cons (List.cons_ne_nil _ _)]

/-! ## Escaping -/

/-- What a reader makes of a text value. -/
def unescape : List Char → List Char
  | '\\' :: char :: rest => (if char = 'n' ∨ char = 'N' then '\n' else char) :: unescape rest
  | char :: rest => char :: unescape rest
  | [] => []

/-- What becomes of one character. -/
def escapeChar (char : Char) : List Char :=
  if char = '\\' then ['\\', '\\']
  else if char = ';' then ['\\', ';']
  else if char = ',' then ['\\', ',']
  else if char = '\n' then ['\\', 'n']
  else [char]

/-- No replacement finds what an earlier one wrote. -/
theorem escape_eq (value : List Char) : escape value = value.flatMap escapeChar := by
  unfold escape replaceAll
  rw [List.flatMap_assoc, List.flatMap_assoc, List.flatMap_assoc]
  congr 1
  funext char
  unfold escapeChar
  by_cases slash : char = '\\'
  · simp [slash]
  · by_cases semicolon : char = ';'
    · simp [semicolon]
    · by_cases comma : char = ','
      · simp [comma]
      · by_cases feed : char = '\n'
        · simp [feed]
        · simp [slash, semicolon, comma, feed]

theorem unescape_cons {char : Char} (plain : char ≠ '\\') (rest : List Char) :
    unescape (char :: rest) = char :: unescape rest := by
  rw [unescape]
  intro other tail same
  exact absurd same plain

theorem unescape_escapeChar (char : Char) (rest : List Char) :
    unescape (escapeChar char ++ rest) = char :: unescape rest := by
  unfold escapeChar
  split_ifs with slash semicolon comma feed
  · rw [slash]; rfl
  · rw [semicolon]; rfl
  · rw [comma]; rfl
  · rw [feed]; rfl
  · exact unescape_cons slash rest

theorem unescape_escape (value : List Char) : unescape (escape value) = value := by
  rw [escape_eq]
  induction value with
  | nil => rfl
  | cons char rest ih => rw [List.flatMap_cons, unescape_escapeChar, ih]

theorem feed_not_escaped (value : List Char) : '\n' ∉ escape value := by
  rw [escape_eq, List.mem_flatMap]
  rintro ⟨char, _, member⟩
  unfold escapeChar at member
  split_ifs at member with slash semicolon comma feed
  all_goals first
    | exact absurd member (by decide)
    | exact feed (List.mem_singleton.mp member).symm

/-! ## Octets -/

/-- Everything before the last fold is ASCII, and what follows it takes no more octets than a
line has room for, the space in front of it counted. -/
def FoldsCleanly (line : List Nat) : Prop :=
  octets line ≤ FOLD_AT ∨
    ∃ head tail folds, line = head ++ tail ∧ head.length = FOLD_AT + (FOLD_AT - 1) * folds ∧
      (∀ unit ∈ head, isAscii unit) ∧ octets tail ≤ FOLD_AT - 1

theorem foldsCleanly_short {line : List Nat} (short : line.length ≤ FOLD_AT) :
    FoldsCleanly line ↔ octets line ≤ FOLD_AT := by
  constructor
  · rintro (fits | ⟨head, tail, folds, rfl, size, ascii, _⟩)
    · exact fits
    · rw [List.length_append] at short
      have nothing : tail = [] := List.eq_nil_of_length_eq_zero (by omega)
      rw [nothing, List.append_nil, octets_ascii ascii]
      omega
  · exact Or.inl

/-- A full piece fits only when it is ASCII. -/
theorem octets_take_iff {line : List Nat} (long : FOLD_AT < line.length) :
    octets (line.take FOLD_AT) ≤ FOLD_AT ↔ ∀ unit ∈ line.take FOLD_AT, isAscii unit := by
  have size : (line.take FOLD_AT).length = FOLD_AT := by
    rw [List.length_take]
    omega
  constructor
  · intro fits
    apply ascii_of_octets
    rw [size]
    exact fits
  · intro ascii
    rw [octets_ascii ascii, size]

theorem octets_space (rest : List Nat) : octets (SPACE :: rest) = 1 + octets rest :=
  octets_cons_ascii (by decide) rest

theorem foldsCleanly_long {line : List Nat} (long : FOLD_AT < line.length) :
    FoldsCleanly line ↔
      (∀ unit ∈ line.take FOLD_AT, isAscii unit) ∧ FoldsCleanly (SPACE :: line.drop FOLD_AT) := by
  constructor
  · rintro (fits | ⟨head, tail, folds, rfl, size, ascii, fits⟩)
    · have least := length_le_octets line
      omega
    · have reach : FOLD_AT ≤ head.length := by omega
      rw [List.take_append_of_le_length reach, List.drop_append_of_le_length reach]
      refine ⟨fun unit member => ascii unit (List.mem_of_mem_take member), ?_⟩
      cases folds with
      | zero =>
        left
        have none : head.drop FOLD_AT = [] := List.drop_eq_nil_of_le (by omega)
        rw [none, List.nil_append, octets_space]
        unfold FOLD_AT at fits ⊢
        omega
      | succ folds =>
        right
        refine ⟨SPACE :: head.drop FOLD_AT, tail, folds, rfl, ?_, ?_, fits⟩
        · rw [List.length_cons, List.length_drop, size]
          unfold FOLD_AT
          omega
        · intro unit member
          rcases List.mem_cons.mp member with rfl | later
          · decide
          · exact ascii unit (List.mem_of_mem_drop later)
  · rintro ⟨ascii, fits | ⟨head, tail, folds, same, size, ascii', fits⟩⟩
    · right
      refine ⟨line.take FOLD_AT, line.drop FOLD_AT, 0, (List.take_append_drop _ _).symm, ?_, ascii,
        ?_⟩
      · rw [List.length_take]
        omega
      · rw [octets_space] at fits
        unfold FOLD_AT at fits ⊢
        omega
    · right
      cases head with
      | nil =>
        unfold FOLD_AT at size
        rw [List.length_nil] at size
        omega
      | cons unit head =>
        rw [List.cons_append, List.cons.injEq] at same
        refine ⟨line.take FOLD_AT ++ head, tail, folds + 1, ?_, ?_, ?_, fits⟩
        · rw [List.append_assoc, ← same.2, List.take_append_drop]
        · rw [List.length_append, List.length_take]
          rw [List.length_cons] at size
          unfold FOLD_AT at size long ⊢
          omega
        · intro other member
          rcases List.mem_append.mp member with before | after
          · exact ascii other before
          · exact ascii' other (List.mem_cons_of_mem _ after)

theorem foldsCleanly_ascii (rounds : Nat) {line : List Nat}
    (enough : line.length ≤ rounds + FOLD_AT) (ascii : ∀ unit ∈ line, isAscii unit) :
    FoldsCleanly line := by
  induction rounds generalizing line with
  | zero =>
    rw [Nat.zero_add] at enough
    rw [foldsCleanly_short enough, octets_ascii ascii]
    exact enough
  | succ rounds ih =>
    by_cases long : FOLD_AT < line.length
    · rw [foldsCleanly_long long]
      refine ⟨fun unit member => ascii unit (List.mem_of_mem_take member), ?_⟩
      apply ih (shorter_rest long enough)
      intro unit member
      rcases List.mem_cons.mp member with rfl | later
      · decide
      · exact ascii unit (List.mem_of_mem_drop later)
    · rw [foldsCleanly_short (Nat.le_of_not_lt long), octets_ascii ascii]
      exact Nat.le_of_not_lt long

/-- No piece is too long exactly where the line folds cleanly. -/
theorem octets_pieces_iff (rounds : Nat) {rest : List Nat}
    (enough : rest.length ≤ rounds + FOLD_AT) :
    (∀ piece ∈ piecesWithin rounds rest, octets piece ≤ FOLD_AT) ↔ FoldsCleanly rest := by
  induction rounds generalizing rest with
  | zero =>
    rw [Nat.zero_add] at enough
    rw [foldsCleanly_short enough]
    simp [piecesWithin]
  | succ rounds ih =>
    unfold piecesWithin
    split
    next long =>
      rw [foldsCleanly_long long, ← octets_take_iff long, ← ih (shorter_rest long enough)]
      exact List.forall_mem_cons
    next short =>
      rw [foldsCleanly_short (Nat.le_of_not_lt short)]
      simp

/-- Pieces that are short enough are whole characters. -/
theorem pieces_whole (rounds : Nat) {text : List Char}
    (enough : (utf16 text).length ≤ rounds + FOLD_AT)
    (fits : ∀ piece ∈ piecesWithin rounds (utf16 text), octets piece ≤ FOLD_AT) :
    ∀ piece ∈ piecesWithin rounds (utf16 text), ∃ part, piece = utf16 part := by
  induction rounds generalizing text with
  | zero =>
    intro piece member
    exact ⟨text, List.mem_singleton.mp member⟩
  | succ rounds ih =>
    unfold piecesWithin at fits ⊢
    split
    next long =>
      rw [if_pos long] at fits
      obtain ⟨first, later⟩ := List.forall_mem_cons.mp fits
      have ascii := (octets_take_iff long).mp first
      obtain ⟨left, right, before, behind⟩ :=
        utf16_drop_ascii ascii (List.take_append_drop FOLD_AT (utf16 text)).symm
      have spaced : SPACE :: (utf16 text).drop FOLD_AT = utf16 (' ' :: right) := by
        rw [behind]
        rfl
      have shorter := shorter_rest long enough
      rw [spaced] at later shorter ⊢
      intro piece member
      rcases List.mem_cons.mp member with rfl | after
      · exact ⟨left, before⟩
      · exact ih shorter later piece after
    next short =>
      intro piece member
      exact ⟨text, List.mem_singleton.mp member⟩

/-! ## The entry -/

/-- What the lines of an entry begin with, in their order. -/
def CALENDAR_LINES : List String :=
  ["BEGIN:VCALENDAR", "VERSION:2.0", "PRODID:", "CALSCALE:GREGORIAN", "METHOD:PUBLISH",
    "BEGIN:VEVENT", "UID:", "DTSTAMP:", "DTSTART:", "DTEND:", "SUMMARY:", "DESCRIPTION:",
    "LOCATION:", "URL:", "END:VEVENT", "END:VCALENDAR"]

section Entry
variable (page : PublicPage) (host : LineText) (now : Instant)

theorem calendarLines_begin :
    List.Forall₂ (fun name line => name.toList <+: line) CALENDAR_LINES
      (calendarLines page host now) := by
  unfold CALENDAR_LINES calendarLines
  simp only [List.append_assoc]
  repeat' apply List.Forall₂.cons
  all_goals first
    | exact List.prefix_rfl
    | exact List.prefix_append _ _
    | exact List.Forall₂.nil

theorem digit_of_padded {width number : Nat} :
    ∀ char ∈ padStart width (Nat.toDigits 10 number), char.isDigit = true := by
  intro char member
  rw [padStart, List.mem_append] at member
  rcases member with zero | digit
  · rw [List.eq_of_mem_replicate zero]
    decide
  · exact Nat.isDigit_of_mem_toDigits (by decide) (by decide) digit

/-- A stamp is of digits and a few letters and signs. -/
theorem stamp_ascii (date : Instant) :
    ∀ char ∈ stamp date, 32 < char.toNat ∧ char.toNat < 0x80 := by
  have digit {char : Char} (is : char.isDigit = true) : 32 < char.toNat ∧ char.toNat < 0x80 := by
    simp only [Char.isDigit, Bool.and_eq_true, decide_eq_true_eq, UInt32.le_iff_toNat_le] at is
    unfold Char.toNat
    exact ⟨Nat.lt_of_lt_of_le (by decide) is.1, Nat.lt_of_le_of_lt is.2 (by decide)⟩
  have padded {width number : Nat} {char : Char}
      (member : char ∈ padStart width (Nat.toDigits 10 number)) :
      32 < char.toNat ∧ char.toNat < 0x80 := digit (digit_of_padded char member)
  have iso : ∀ char ∈ toISOString date, 32 < char.toNat ∧ char.toNat < 0x80 := by
    have written : ∀ char ∈ (if yearOf (date / DAY_MS) ≤ 9999
        then padStart 4 (Nat.toDigits 10 (yearOf (date / DAY_MS)))
        else '+' :: padStart 6 (Nat.toDigits 10 (yearOf (date / DAY_MS)))),
        32 < char.toNat ∧ char.toNat < 0x80 := by
      split
      · exact fun char => padded
      · exact List.forall_mem_cons.mpr ⟨by decide, fun char => padded⟩
    unfold toISOString
    simp only [List.forall_mem_append, List.forall_mem_cons]
    refine ⟨⟨⟨⟨⟨⟨⟨written, ?_⟩, ?_⟩, ?_⟩, ?_⟩, ?_⟩, ?_⟩, ?_⟩
    all_goals first
      | exact ⟨by decide, fun char => padded⟩
      | exact ⟨by decide, fun char member => absurd member List.not_mem_nil⟩
  unfold stamp
  intro char member
  rw [List.mem_append] at member
  rcases member with written | last
  · exact iso char (List.mem_of_mem_filter ((List.takeWhile_sublist _).subset written))
  · rw [List.mem_singleton.mp last]
    decide

theorem feed_not_stamped (date : Instant) : '\n' ∉ stamp date :=
  fun member => absurd (stamp_ascii date _ member).1 (by decide)

/-- Nothing an event says begins a line. -/
theorem calendarLines_plain : ∀ line ∈ calendarLines page host now, '\n' ∉ line := by
  have host_plain := host.property
  have id_plain := page.event.id.property
  have url_plain := page.shareUrl.property
  simp [calendarLines, host_plain, id_plain, url_plain, feed_not_stamped, feed_not_escaped]

/-- Each line begins with an ASCII letter. -/
theorem calendarLines_letter : ∀ line ∈ calendarLines page host now,
    ∃ first rest, line = first :: rest ∧ first.toNat < 0x80 ∧ isFoldMark first.toNat = false := by
  intro line member
  obtain ⟨index, inRange, rfl⟩ := List.getElem_of_mem member
  have begins := calendarLines_begin page host now
  have size := begins.length_eq
  obtain ⟨rest, whole⟩ := begins.get (size ▸ inRange) inRange
  have letters : ∀ name ∈ CALENDAR_LINES, ∃ first tail, name.toList = first :: tail ∧
      first.toNat < 0x80 ∧ isFoldMark first.toNat = false := by
    simp [CALENDAR_LINES, isFoldMark]
  obtain ⟨first, tail, shape, ascii, black⟩ := letters _ (List.getElem_mem (size ▸ inRange))
  refine ⟨first, tail ++ rest, whole.symm.trans ?_, ascii, black⟩
  exact congrArg (· ++ rest) shape

theorem calendarLines_foldable :
    ∀ line ∈ (calendarLines page host now).map utf16, Foldable line := by
  intro line member
  obtain ⟨text, written, rfl⟩ := List.mem_map.mp member
  constructor
  · intro feed
    have stays : '\n' ∈ text := mem_utf16_ascii (by decide) feed
    exact calendarLines_plain page host now text written stays
  · obtain ⟨first, rest, rfl, ascii, black⟩ := calendarLines_letter page host now text written
    exact ⟨first.toNat, utf16 rest, utf16_cons_ascii ascii rest, black⟩

theorem toCalendar_pieces : toCalendar page host now =
    joinLines (((calendarLines page host now).map utf16).flatMap pieces) := by
  rw [toCalendar_eq, List.flatMap_map]

theorem calendarLines_ne_nil : (calendarLines page host now).map utf16 ≠ [] := by
  simp [calendarLines]

/-- The physical lines are the pieces. -/
theorem splitLines_toCalendar : splitLines (toCalendar page host now) =
    ((calendarLines page host now).map utf16).flatMap pieces := by
  rw [toCalendar_pieces]
  apply splitLines_joinLines (flatMap_pieces_ne_nil (calendarLines_ne_nil page host now))
  intro piece member
  obtain ⟨line, written, inside⟩ := List.mem_flatMap.mp member
  exact piecesWithin_plain _ (calendarLines_foldable page host now line written).plain piece inside

/-- Unfolded and read, the lines are those that were written. -/
theorem lines_read :
    (splitLines (removeFolds (toCalendar page host now))).map scalars =
      calendarLines page host now := by
  have foldable := calendarLines_foldable page host now
  rw [toCalendar_pieces, removeFolds_flatMap foldable,
    splitLines_joinLines (calendarLines_ne_nil page host now) fun line member =>
      (foldable line member).plain, List.map_map]
  refine (List.map_congr_left fun line _ => ?_).trans (List.map_id _)
  exact scalars_utf16 line

end Entry

/-! ## The lines with a text of the page -/

/-- What the host, the id, the texts, the place and the address are written as. -/
def pageLines (page : PublicPage) (host : LineText) : List (List Char) :=
  [ "PRODID:".toList ++ "-//Eventa//".toList ++ host.val.toList ++ "//EN".toList,
    "UID:".toList ++ page.event.id.val.toList ++ '@' :: host.val.toList,
    "SUMMARY:".toList ++ escape page.event.name.toList,
    "DESCRIPTION:".toList ++ escape (page.event.description.getD "").toList,
    "LOCATION:".toList ++ escape (calendarLocation page.event),
    "URL:".toList ++ page.shareUrl.val.toList ]

theorem ascii_utf16 {text : List Char} (ascii : ∀ char ∈ text, char.toNat < 0x80) :
    ∀ unit ∈ utf16 text, isAscii unit := by
  intro unit member
  obtain ⟨char, stored, inside⟩ := List.mem_flatMap.mp member
  have small := ascii char stored
  rw [charUnits, if_pos (by omega), List.mem_singleton] at inside
  exact inside ▸ small

/-- Folding does no harm to the lines that are fixed, nor to the stamps. -/
theorem calendarLines_fold (page : PublicPage) (host : LineText) (now : Instant) :
    (∀ line ∈ calendarLines page host now, FoldsCleanly (utf16 line)) ↔
      ∀ line ∈ pageLines page host, FoldsCleanly (utf16 line) := by
  have plain {line : List Char} (ascii : ∀ char ∈ line, char.toNat < 0x80) :
      FoldsCleanly (utf16 line) :=
    foldsCleanly_ascii _ (Nat.le_add_right _ _) (ascii_utf16 ascii)
  -- What is fixed is compared with 0x80 by a Boolean: it evaluates, a bounded ∀ may not.
  have ascii {text : String} (known : text.toList.all (fun char => char.toNat < 0x80) = true) :
      ∀ char ∈ text.toList, char.toNat < 0x80 :=
    fun char member => of_decide_eq_true (List.all_eq_true.mp known char member)
  have stamped (name : String)
      (known : name.toList.all (fun char => char.toNat < 0x80) = true) (date : Instant) :
      FoldsCleanly (utf16 (name.toList ++ stamp date)) :=
    plain (List.forall_mem_append.mpr
      ⟨ascii known, fun char member => (stamp_ascii date char member).2⟩)
  unfold calendarLines pageLines
  simp only [List.forall_mem_cons]
  constructor
  · rintro ⟨-, -, maker, -, -, -, uid, -, -, -, summary, description, place, url, -⟩
    exact ⟨maker, uid, summary, description, place, url, List.forall_mem_nil _⟩
  · rintro ⟨maker, uid, summary, description, place, url, -⟩
    refine ⟨plain (ascii ?_), plain (ascii ?_), maker, plain (ascii ?_), plain (ascii ?_),
      plain (ascii ?_), uid, stamped _ ?_ _, stamped _ ?_ _, stamped _ ?_ _, summary, description,
      place, url, plain (ascii ?_), plain (ascii ?_), List.forall_mem_nil _⟩
    all_goals decide

/-! ## Reading it -/

/-- The value of a text property, as a reader takes it from a file. -/
def readProperty (name : String) (file : List Nat) : Option (List Char) :=
  (((splitLines (removeFolds file)).map scalars).find? fun line =>
    (name.toList ++ [':']).isPrefixOf line).map fun line =>
      unescape (line.drop (name.toList.length + 1))

/-- A line that continues the one before it. -/
def continues (line : List Nat) : Bool := line.head?.any isFoldMark

/-- The file holds what the event says, in whole characters and lines that are short enough;
each line is one that was written or a continuation; and folding any line ends. -/
structure SaysTheEvent (page : PublicPage) (host : LineText) (now : Instant) : Prop where
  summary : readProperty "SUMMARY" (toCalendar page host now) = some page.event.name.toList
  description : readProperty "DESCRIPTION" (toCalendar page host now) =
    some (page.event.description.getD "").toList
  place : readProperty "LOCATION" (toCalendar page host now) = some (calendarLocation page.event)
  short : ∀ line ∈ splitLines (toCalendar page host now), octets line ≤ FOLD_AT
  whole : ∀ line ∈ splitLines (toCalendar page host now), ∃ text, line = utf16 text
  written : List.Forall₂ (fun name line => utf16 name.toList <+: line) CALENDAR_LINES
    ((splitLines (toCalendar page host now)).filter (!continues ·))
  ends : ∀ line : List Nat, (folded line).rest.length ≤ FOLD_AT

section Says
variable (page : PublicPage) (host : LineText) (now : Instant)

theorem short_iff :
    (∀ line ∈ splitLines (toCalendar page host now), octets line ≤ FOLD_AT) ↔
      ∀ line ∈ calendarLines page host now, FoldsCleanly (utf16 line) := by
  have each (line : List Nat) : (∀ piece ∈ pieces line, octets piece ≤ FOLD_AT) ↔
      FoldsCleanly line :=
    octets_pieces_iff line.length (Nat.le_add_right _ _)
  rw [splitLines_toCalendar]
  constructor
  · intro fits line member
    rw [← each]
    intro piece inside
    exact fits piece (List.mem_flatMap.mpr ⟨_, List.mem_map_of_mem member, inside⟩)
  · intro clean piece member
    obtain ⟨line, written, inside⟩ := List.mem_flatMap.mp member
    obtain ⟨text, stored, rfl⟩ := List.mem_map.mp written
    exact (each _).mpr (clean text stored) piece inside

/-- Without the continuations the pieces are the beginnings of the lines. -/
theorem begun_pieces {lines : List (List Nat)} (foldable : ∀ line ∈ lines, Foldable line) :
    (lines.flatMap pieces).filter (!continues ·) =
      lines.map (List.take FOLD_AT) := by
  induction lines with
  | nil => rfl
  | cons line others ih =>
    obtain ⟨first, rest, rfl, black⟩ := (foldable line List.mem_cons_self).starts
    obtain ⟨later, shape, marked⟩ :=
      piecesWithin_shape (first :: rest).length (Nat.le_add_right (first :: rest).length FOLD_AT)
    have continued : later.filter (!continues ·) = [] := by
      rw [List.filter_eq_nil_iff]
      intro piece member
      rw [continues, marked piece member]
      decide
    have begun : continues ((first :: rest).take FOLD_AT) = false := black
    rw [List.flatMap_cons, List.map_cons, List.filter_append, pieces, shape, List.filter_cons,
      begun, continued, ih fun other member => foldable other (List.mem_cons_of_mem _ member)]
    rfl

theorem written_lines :
    List.Forall₂ (fun name line => utf16 name.toList <+: line) CALENDAR_LINES
      ((splitLines (toCalendar page host now)).filter (!continues ·)) := by
  rw [splitLines_toCalendar, begun_pieces (calendarLines_foldable page host now), List.map_map,
    List.forall₂_map_right_iff]
  have short : ∀ name ∈ CALENDAR_LINES, (utf16 name.toList).length ≤ FOLD_AT := by decide
  have begins := calendarLines_begin page host now
  rw [List.forall₂_iff_get] at begins ⊢
  refine ⟨begins.1, fun index left right => ?_⟩
  obtain ⟨rest, whole⟩ := begins.2 index left right
  rw [Function.comp_apply, ← whole, utf16_append, List.prefix_take_iff]
  exact ⟨List.prefix_append _ _, short _ (List.get_mem CALENDAR_LINES ⟨index, left⟩)⟩

/-- A property is read from the first line of its name. -/
theorem readProperty_of {name : String} {value : List Char} (before after : List (List Char))
    (cut : calendarLines page host now = before ++ (name.toList ++ ':' :: escape value) :: after)
    (others : ∀ line ∈ before, (name.toList ++ [':']).isPrefixOf line = false) :
    readProperty name (toCalendar page host now) = some value := by
  have own : (name.toList ++ [':']).isPrefixOf (name.toList ++ ':' :: escape value) = true :=
    List.isPrefixOf_iff_prefix.mpr ⟨escape value, by simp⟩
  have passed : before.find? (fun line => (name.toList ++ [':']).isPrefixOf line) = none :=
    List.find?_eq_none.mpr fun line there => Bool.eq_false_iff.mp (others line there)
  unfold readProperty
  rw [lines_read, cut, List.find?_append, passed, Option.none_or, List.find?_cons_of_pos own,
    Option.map_some, List.drop_append, List.drop_eq_nil_of_le (Nat.le_succ _),
    Nat.add_sub_cancel_left, List.nil_append, List.drop_one, List.tail_cons, unescape_escape]

theorem readProperty_summary :
    readProperty "SUMMARY" (toCalendar page host now) = some page.event.name.toList := by
  refine readProperty_of page host now ((calendarLines page host now).take 10)
    ((calendarLines page host now).drop 11) ?_ ?_
  · simp only [calendarLines, List.take_succ_cons, List.take_zero, List.drop_succ_cons,
      List.drop_zero, String.reduceToList, List.cons_append, List.nil_append]
  · simp only [calendarLines, List.take_succ_cons, List.take_zero, List.forall_mem_cons]
    simp only [String.reduceToList, List.cons_append, List.nil_append, List.isPrefixOf,
      Char.reduceBEq, Bool.and_true, Bool.and_false, Bool.false_and, List.not_mem_nil,
      IsEmpty.forall_iff, implies_true, and_self]

theorem readProperty_description : readProperty "DESCRIPTION" (toCalendar page host now) =
    some (page.event.description.getD "").toList := by
  refine readProperty_of page host now ((calendarLines page host now).take 11)
    ((calendarLines page host now).drop 12) ?_ ?_
  · simp only [calendarLines, List.take_succ_cons, List.take_zero, List.drop_succ_cons,
      List.drop_zero, String.reduceToList, List.cons_append, List.nil_append]
  · simp only [calendarLines, List.take_succ_cons, List.take_zero, List.forall_mem_cons]
    simp only [String.reduceToList, List.cons_append, List.nil_append, List.isPrefixOf,
      Char.reduceBEq, Bool.and_true, Bool.and_false, Bool.false_and, List.not_mem_nil,
      IsEmpty.forall_iff, implies_true, and_self]

theorem readProperty_location : readProperty "LOCATION" (toCalendar page host now) =
    some (calendarLocation page.event) := by
  refine readProperty_of page host now ((calendarLines page host now).take 12)
    ((calendarLines page host now).drop 13) ?_ ?_
  · simp only [calendarLines, List.take_succ_cons, List.take_zero, List.drop_succ_cons,
      List.drop_zero, String.reduceToList, List.cons_append, List.nil_append]
  · simp only [calendarLines, List.take_succ_cons, List.take_zero, List.forall_mem_cons]
    simp only [String.reduceToList, List.cons_append, List.nil_append, List.isPrefixOf,
      Char.reduceBEq, Bool.and_true, Bool.and_false, Bool.false_and, List.not_mem_nil,
      IsEmpty.forall_iff, implies_true, and_self]

theorem lines_whole
    (fits : ∀ line ∈ splitLines (toCalendar page host now), octets line ≤ FOLD_AT) :
    ∀ line ∈ splitLines (toCalendar page host now), ∃ text, line = utf16 text := by
  rw [splitLines_toCalendar] at fits ⊢
  intro piece member
  obtain ⟨line, written, inside⟩ := List.mem_flatMap.mp member
  obtain ⟨text, stored, rfl⟩ := List.mem_map.mp written
  refine pieces_whole _ (Nat.le_add_right _ _) (fun other among => ?_) piece inside
  exact fits other (List.mem_flatMap.mpr ⟨_, written, among⟩)

/-- A calendar file says what the event says exactly where each line with a text of the page
folds cleanly. -/
theorem saysTheEvent_iff : SaysTheEvent page host now ↔
    ∀ line ∈ pageLines page host, FoldsCleanly (utf16 line) := by
  rw [← calendarLines_fold page host now, ← short_iff]
  constructor
  · exact SaysTheEvent.short
  · intro fits
    exact
      { summary := readProperty_summary page host now
        description := readProperty_description page host now
        place := readProperty_location page host now
        short := fits
        whole := lines_whole page host now fits
        written := written_lines page host now
        ends := fun line => foldLoop_short _ _ (Nat.le_add_right _ _) }

end Says

/-- An event with a name in Thai. -/
def thaiConcert : PublicPage where
  event :=
    { id := ⟨"e1", by decide⟩
      name := "คอนเสิร์ตการกุศลครั้งที่หนึ่ง"
      description := none
      startAt := 0
      endAt := none
      isOnline := true
      venueName := none
      venueAddress := none
      city := none }
  shareUrl := ⟨"https://eventa.example/e1", by decide⟩

theorem thai_name_too_long : ¬ SaysTheEvent thaiConcert ⟨"eventa.example", by decide⟩ 0 := by
  intro says_it
  have long : ∃ line ∈ splitLines (toCalendar thaiConcert ⟨"eventa.example", by decide⟩ 0),
      FOLD_AT < octets line := by decide +kernel
  obtain ⟨line, member, large⟩ := long
  exact absurd (says_it.short line member) (Nat.not_le_of_gt large)

end EventaApi.Guarantees
