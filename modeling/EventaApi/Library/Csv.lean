import Mathlib.Data.List.Forall2

/-!
# Records of quoted fields

Fields as RFC 4180 has them, behind each other with commas between them, and each record ended by
a line feed. A field that has a comma, a quote or a line break in it is quoted, any other may be;
inside quotes a quote is written twice. Whichever way each field is written, a reader gives the
fields back.
-/
namespace EventaApi.Library

/-! ## Reading -/

/-- What only a quoted field may hold. -/
def isStructural (char : Char) : Bool := ['"', ',', '\n', '\r'].contains char

/-- Where in a field a reader is. -/
inductive FieldMode where
  | start | plain | quoted | closed
  deriving DecidableEq, Repr

/-- The records before, the fields of this one before, and this field so far. -/
structure CsvReader where
  records : List (List (List Char)) := []
  fields : List (List Char) := []
  field : List Char := []
  mode : FieldMode := .start
  deriving DecidableEq, Repr

namespace CsvReader

def push (reader : CsvReader) (char : Char) (mode : FieldMode) : CsvReader :=
  { reader with field := reader.field ++ [char], mode }

def endField (reader : CsvReader) : CsvReader :=
  { reader with fields := reader.fields ++ [reader.field], field := [], mode := .start }

def endRecord (reader : CsvReader) : CsvReader where
  records := reader.records ++ [reader.fields ++ [reader.field]]

/-- Outside quotes. A field that was closed has nothing more. -/
def unquoted (reader : CsvReader) (char : Char) : Option CsvReader :=
  if char = ',' then some reader.endField
  else if char = '\n' then some reader.endRecord
  else if reader.mode = .closed ∨ isStructural char then none
  else some (reader.push char .plain)

def step (reader : CsvReader) (char : Char) : Option CsvReader :=
  match reader.mode with
  | .start => if char = '"' then some { reader with mode := .quoted } else reader.unquoted char
  | .plain => reader.unquoted char
  | .quoted =>
    if char = '"' then some { reader with mode := .closed } else some (reader.push char .quoted)
  | .closed => if char = '"' then some (reader.push '"' .quoted) else reader.unquoted char

def read (reader : CsvReader) (text : List Char) : Option CsvReader := text.foldlM step reader

@[simp] theorem read_nil (reader : CsvReader) : reader.read [] = some reader := rfl

@[simp] theorem read_cons (reader : CsvReader) (char : Char) (rest : List Char) :
    reader.read (char :: rest) = (reader.step char).bind fun next => next.read rest := rfl

theorem read_append (reader : CsvReader) (text rest : List Char) :
    reader.read (text ++ rest) = (reader.read text).bind fun next => next.read rest :=
  List.foldlM_append ..

end CsvReader

/-- The records of a text, if its last one is ended. -/
def parseCsv (text : List Char) : Option (List (List (List Char))) :=
  match CsvReader.read {} text with
  | none => none
  | some reader => if reader.mode = .start ∧ reader.fields = [] then some reader.records else none

/-! ## Writing -/

/-- Every quote twice. -/
def doubled (field : List Char) : List Char :=
  field.flatMap fun char => if char = '"' then ['"', '"'] else [char]

/-- The ways a field may be written. -/
inductive Writes (field : List Char) : List Char → Prop
  | plain (clean : ∀ char ∈ field, isStructural char = false) : Writes field field
  | quoted : Writes field ('"' :: doubled field ++ ['"'])

/-- The fields of a record with commas between them, and its end. -/
def joinFields (texts : List (List Char)) : List Char := [','].intercalate texts ++ ['\n']

theorem joinFields_single (text : List Char) : joinFields [text] = text ++ ['\n'] := by
  simp [joinFields, List.intercalate]

theorem joinFields_cons (text : List Char) {texts : List (List Char)} (more : texts ≠ []) :
    joinFields (text :: texts) = text ++ ',' :: joinFields texts := by
  obtain ⟨next, others, rfl⟩ := List.exists_cons_of_ne_nil more
  simp [joinFields, List.intercalate]

/-! ## Reading what was written -/

variable {field text : List Char}

/-- The reader is between two fields, having read these. -/
def between (records : List (List (List Char))) (fields : List (List Char)) : CsvReader :=
  { records, fields }

theorem read_plain (records : List (List (List Char))) (fields : List (List Char))
    (before : List Char) {mode : FieldMode} (started : mode = .start ∨ mode = .plain)
    (clean : ∀ char ∈ field, isStructural char = false) :
    ∃ mode', (mode' = .start ∨ mode' = .plain) ∧
      CsvReader.read { records, fields, field := before, mode } field =
        some { records, fields, field := before ++ field, mode := mode' } := by
  induction field generalizing before mode with
  | nil => exact ⟨mode, started, by simp⟩
  | cons char rest ih =>
    have plain := clean char List.mem_cons_self
    have apart : char ≠ '"' ∧ char ≠ ',' ∧ char ≠ '\n' ∧ char ≠ '\r' := by
      simpa [isStructural] using plain
    obtain ⟨quote, comma, feed, _⟩ := apart
    obtain ⟨mode', ended, read⟩ := ih (before ++ [char]) (Or.inr rfl)
      fun other member => clean other (List.mem_cons_of_mem _ member)
    refine ⟨mode', ended, ?_⟩
    have stepped : CsvReader.step { records, fields, field := before, mode } char =
        some { records, fields, field := before ++ [char], mode := .plain } := by
      rcases started with rfl | rfl
      · simp [CsvReader.step, CsvReader.unquoted, CsvReader.push, quote, comma, feed, plain]
      · simp [CsvReader.step, CsvReader.unquoted, CsvReader.push, comma, feed, plain]
    rw [CsvReader.read_cons, stepped, Option.bind_some, read]
    simp

theorem read_doubled (records : List (List (List Char))) (fields : List (List Char))
    (before field : List Char) :
    CsvReader.read { records, fields, field := before, mode := .quoted } (doubled field) =
      some { records, fields, field := before ++ field, mode := .quoted } := by
  induction field generalizing before with
  | nil => simp [doubled]
  | cons char rest ih =>
    have shape : doubled (char :: rest) =
        (if char = '"' then ['"', '"'] else [char]) ++ doubled rest := rfl
    rw [shape, CsvReader.read_append]
    by_cases quote : char = '"'
    · subst quote
      simp [CsvReader.step, CsvReader.push, ih]
    · simp [CsvReader.step, CsvReader.push, quote, ih]

/-- However a field is written, what is read is the field, and it can be ended there. -/
theorem read_written (records : List (List (List Char))) (fields : List (List Char))
    (writes : Writes field text) :
    ∃ mode, mode ≠ .quoted ∧
      (between records fields).read text = some { records, fields, field, mode } := by
  cases writes with
  | plain clean =>
    obtain ⟨mode, ended, read⟩ := read_plain records fields [] (Or.inl rfl) clean
    refine ⟨mode, ?_, read⟩
    rcases ended with rfl | rfl
    · decide
    · decide
  | quoted =>
    refine ⟨.closed, by decide, ?_⟩
    have opened : (between records fields).step '"' =
        some { records, fields, field := [], mode := .quoted } := rfl
    rw [List.cons_append, CsvReader.read_cons, opened, Option.bind_some, CsvReader.read_append,
      read_doubled]
    rfl

theorem step_comma {reader : CsvReader} (ended : reader.mode ≠ .quoted) :
    reader.step ',' = some reader.endField := by
  unfold CsvReader.step
  split
  · rfl
  · rfl
  next quoted => exact absurd quoted ended
  · rfl

theorem step_feed {reader : CsvReader} (ended : reader.mode ≠ .quoted) :
    reader.step '\n' = some reader.endRecord := by
  unfold CsvReader.step
  split
  · rfl
  · rfl
  next quoted => exact absurd quoted ended
  · rfl

/-- A record is read field by field. -/
theorem read_joinFields (records : List (List (List Char))) (before : List (List Char))
    {fields texts : List (List Char)} (writes : List.Forall₂ Writes fields texts)
    (some : fields ≠ []) :
    (between records before).read (joinFields texts) =
      .some (between (records ++ [before ++ fields]) []) := by
  induction writes generalizing before with
  | nil => exact absurd rfl some
  | @cons field text fields texts first rest ih =>
    obtain ⟨mode, ended, read⟩ := read_written records before first
    cases rest with
    | nil =>
      rw [joinFields_single, CsvReader.read_append, read, Option.bind_some, CsvReader.read_cons,
        step_feed ended]
      rfl
    | cons next others =>
      have closed : CsvReader.endField { records, fields := before, field, mode } =
          between records (before ++ [field]) := rfl
      rw [joinFields_cons _ (List.cons_ne_nil _ _), CsvReader.read_append, read, Option.bind_some,
        CsvReader.read_cons, step_comma ended, Option.bind_some, closed,
        ih _ (List.cons_ne_nil _ _)]
      simp

/-- A text of written records is read as these records. -/
theorem parseCsv_written {records lines : List (List (List Char))}
    (writes : List.Forall₂ (List.Forall₂ Writes) records lines)
    (some : ∀ fields ∈ records, fields ≠ []) :
    parseCsv (lines.flatMap joinFields) = .some records := by
  have all : ∀ before, (between before []).read (lines.flatMap joinFields) =
      .some (between (before ++ records) []) := by
    induction writes with
    | nil => intro before; simp
    | cons first _ ih =>
      intro before
      rw [List.flatMap_cons, CsvReader.read_append,
        read_joinFields _ _ first (some _ List.mem_cons_self), Option.bind_some,
        ih fun fields member => some fields (List.mem_cons_of_mem _ member)]
      simp
  have whole := all []
  unfold parseCsv
  rw [show ({} : CsvReader) = between [] [] from rfl, whole]
  simp [between]

end EventaApi.Library
