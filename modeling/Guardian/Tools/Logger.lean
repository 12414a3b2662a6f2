import Guardian.Model.Metrics
import Guardian.Text.Decimal
import Guardian.Text.Lines

/-! # The logger

`write` puts one record on the console and, when a file is open, into the file. A message may hold any
bytes; its lines are cut out of it by offsets, and each of them is written between the prefix and the
suffix of the record.
-/

namespace Guardian.Tools

open Ipc (Bytes)
open Model (ascii)
open Text (decimal linesOf unlines)

inductive LogLevel where
  | debug
  | info
  | warning
  | error
  | critical
deriving DecidableEq, Repr

def levelName : LogLevel → Bytes
  | .debug => ascii "DEBUG"
  | .info => ascii "INFO"
  | .warning => ascii "WARN"
  | .error => ascii "ERROR"
  | .critical => ascii "CRITICAL"

/-- The level, the component and the message that the logger is called with. -/
abbrev Record := LogLevel × Bytes × Bytes

/-- The broken-down local time; months and days count from one. -/
structure LocalTime where
  year : ℕ
  month : ℕ
  day : ℕ
  hour : ℕ
  minute : ℕ
  second : ℕ

/-- What a record reads from its surroundings; the clock counts milliseconds. -/
structure Moment where
  localTime : LocalTime
  sinceEpoch : Int64
  threadId : ℕ

/-- A number in a field of a width, filled with zeros. -/
def padded (width : ℕ) (number : ℤ) : Bytes := (decimal number).leftpad width 48

def timestamp (moment : Moment) : Bytes :=
  let time := moment.localTime
  decimal time.year ++ ascii "-" ++ padded 2 time.month ++ ascii "-" ++ padded 2 time.day ++ ascii " " ++
    padded 2 time.hour ++ ascii ":" ++ padded 2 time.minute ++ ascii ":" ++ padded 2 time.second ++ ascii "." ++
    padded 3 (moment.sinceEpoch % 1000).toInt

/-- The last position of one of the characters; `none` stands for `npos`. -/
def findLastOf (text chars : Bytes) : Option ℕ :=
  ((text.zipIdx.filter fun entry => chars.contains entry.1).getLast?).map Prod.snd

def sourceFilename (sourceFile : Option Bytes) : Bytes :=
  match sourceFile with
  | none => []
  | some path =>
      match findLastOf path (ascii "/\\") with
      | none => path
      | some separator => path.drop (separator + 1)

def newline : UInt8 := 10

/-- The first position of a character from an offset on; `none` stands for `npos`. -/
def find (text : Bytes) (char : UInt8) (offset : ℕ) : Option ℕ :=
  ((text.drop offset).idxOf? char).map (offset + ·)

/-- A part of a text; an offset behind its end is an exception. -/
def substr (text : Bytes) (offset count : ℕ) : Option Bytes :=
  if offset ≤ text.length then some ((text.drop offset).take count) else none

/-- What was written to the two consoles and to the open file. -/
structure Logger where
  clog : Bytes := []
  cerr : Bytes := []
  logFile : Option Bytes := none
deriving DecidableEq

/-- Where a record comes from. -/
structure Site where
  component : Bytes
  /-- A null pointer is `none`. -/
  sourceFile : Option Bytes
  sourceLine : ℕ

def linePrefix (level : LogLevel) (moment : Moment) (site : Site) : Bytes :=
  timestamp moment ++ ascii " [" ++ levelName level ++ ascii "]" ++ ascii " [thread " ++ decimal moment.threadId ++
    ascii "]" ++ ascii " [" ++ site.component ++ ascii "] "

def lineSuffix (site : Site) : Bytes :=
  ascii " (" ++ sourceFilename site.sourceFile ++ ascii ":" ++ decimal site.sourceLine ++ ascii ")"

namespace Logger

/-- Output for the console of a level and for the open file. -/
def put (level : LogLevel) (output : Bytes) (logger : Logger) : Logger :=
  let logger :=
    if level = .error ∨ level = .critical then { logger with cerr := logger.cerr ++ output }
    else { logger with clog := logger.clog ++ output }
  { logger with logFile := logger.logFile.map (· ++ output) }

theorem le_of_find {text : Bytes} {char : UInt8} {offset position : ℕ}
    (found : find text char offset = some position) : offset ≤ position := by
  obtain ⟨index, _, rfl⟩ := Option.map_eq_some_iff.mp found
  exact Nat.le_add_right ..

/-- The loop from an offset on; an exception leaves what has been written. -/
def writeLines (level : LogLevel) (before after message : Bytes) (offset : ℕ) (logger : Logger) :
    Except Logger Logger :=
  let position := find message newline offset
  let count := position.elim (message.length - offset) (· - offset)
  match substr message offset count with
  | none => .error logger
  | some line =>
      let logger := logger.put level (before ++ line ++ after ++ [newline])
      match found : position with
      | none => .ok logger
      | some position =>
          if position + 1 < message.length then writeLines level before after message (position + 1) logger
          else .ok logger
termination_by message.length - offset
decreasing_by
  have later := le_of_find found
  omega

/-- An exception is caught and dropped. -/
def write (level : LogLevel) (moment : Moment) (site : Site) (message : Bytes) (logger : Logger) : Logger :=
  match writeLines level (linePrefix level moment site) (lineSuffix site) message 0 logger with
  | .ok logger => logger
  | .error logger => logger

/-! ## One record -/

theorem put_put (level : LogLevel) (first second : Bytes) (logger : Logger) :
    (logger.put level first).put level second = logger.put level (first ++ second) := by
  rw [put, put, put]
  split <;> cases logger.logFile <;> simp only [Option.map_none, Option.map_some, List.append_assoc]

/-- Where an output goes. -/
theorem put_fields (level : LogLevel) (output : Bytes) (logger : Logger) :
    (logger.put level output).clog =
        logger.clog ++ (if level = .error ∨ level = .critical then [] else output) ∧
      (logger.put level output).cerr =
        logger.cerr ++ (if level = .error ∨ level = .critical then output else []) ∧
      (logger.put level output).logFile = logger.logFile.map (· ++ output) := by
  rw [put]
  split <;> simp

theorem substr_append (front text : Bytes) (count : ℕ) :
    substr (front ++ text) front.length count = some (text.take count) := by
  rw [substr, if_pos (by simp), List.drop_left]

theorem find_eq_none {front text : Bytes} {char : UInt8} (absent : char ∉ text) :
    find (front ++ text) char front.length = none := by
  rw [find, List.drop_left, List.idxOf?_eq_none_iff.mpr absent, Option.map_none]

theorem idxOf?_append_cons {line : Bytes} {char : UInt8} (absent : char ∉ line) (rest : Bytes) :
    (line ++ char :: rest).idxOf? char = some line.length := by
  induction line with
  | nil => rw [List.nil_append, List.idxOf?_cons, if_pos (beq_self_eq_true _), List.length_nil]
  | cons head tail ih =>
    rw [List.mem_cons, not_or] at absent
    rw [List.cons_append, List.idxOf?_cons, if_neg (by simpa using Ne.symm absent.1), ih absent.2]
    rfl

theorem find_eq_some {front line rest : Bytes} {char : UInt8} (absent : char ∉ line) :
    find (front ++ (line ++ char :: rest)) char front.length = some (front.length + line.length) := by
  rw [find, List.drop_left, idxOf?_append_cons absent, Option.map_some]

/-- A line of a record. -/
def framed (before after line : Bytes) : Bytes := before ++ line ++ after

section

variable (level : LogLevel) (before after message : Bytes) (offset : ℕ) (logger : Logger)

theorem writeLines_of_find_none {line : Bytes} (last : find message newline offset = none)
    (cut : substr message offset (message.length - offset) = some line) :
    writeLines level before after message offset logger =
      .ok (logger.put level (framed before after line ++ [newline])) := by
  rw [writeLines]
  simp only [last, Option.elim_none, cut]
  split
  · rfl
  · next found =>
    rw [last] at found
    cases found

theorem writeLines_of_find_some {line : Bytes} {position : ℕ} (found : find message newline offset = some position)
    (cut : substr message offset (position - offset) = some line) :
    writeLines level before after message offset logger =
      let logger := logger.put level (framed before after line ++ [newline])
      if position + 1 < message.length then writeLines level before after message (position + 1) logger
      else .ok logger := by
  rw [writeLines]
  simp only [found, Option.elim_some, cut]
  split
  · next last =>
    rw [last] at found
    cases found
  · next other =>
    rw [found] at other
    cases other
    rfl

end

/-- From any offset on, the loop ends and writes the lines of what is left of the message. -/
theorem writeLines_eq (level : LogLevel) (before after front text : Bytes) (logger : Logger) :
    writeLines level before after (front ++ text) front.length logger =
      .ok (logger.put level (unlines newline ((linesOf newline text).map (framed before after)))) := by
  induction size : text.length using Nat.strongRecOn generalizing front text logger with
  | ind size ih =>
    by_cases present : newline ∈ text
    · obtain ⟨line, rest, rfl, absent⟩ := List.eq_append_cons_of_mem present
      have cut : substr (front ++ (line ++ newline :: rest)) front.length (front.length + line.length - front.length) =
          some line := by
        rw [substr_append, Nat.add_sub_cancel_left, List.take_left]
      rw [writeLines_of_find_some level before after _ _ logger (find_eq_some absent) cut,
        Text.linesOf_append_cons absent, List.map_cons, Text.unlines_cons]
      cases rest with
      | nil =>
        rw [if_neg (by simp; omega), if_pos rfl]
        rfl
      | cons head tail =>
        -- the text behind the newline is shorter, and is found behind a longer front
        have later := ih (head :: tail).length (by simp at size ⊢; omega) (front ++ line ++ [newline]) (head :: tail)
          (logger.put level (framed before after line ++ [newline])) rfl
        have whole : front ++ line ++ [newline] ++ head :: tail = front ++ (line ++ newline :: head :: tail) := by simp
        have behind : (front ++ line ++ [newline]).length = front.length + line.length + 1 := by
          simp only [List.length_append, List.length_singleton]
        rw [whole, behind, put_put] at later
        rw [if_pos (by simp; omega), later, if_neg (by simp), List.append_assoc, List.singleton_append]
    · have cut : substr (front ++ text) front.length ((front ++ text).length - front.length) = some text := by
        rw [substr_append, List.length_append, Nat.add_sub_cancel_left, List.take_length]
      rw [writeLines_of_find_none level before after _ _ logger (find_eq_none present) cut,
        Text.linesOf_of_not_mem present, List.map_singleton, Text.unlines_cons]
      rfl

/-- A record writes one line for every line of its message, and no exception is thrown. -/
theorem writeLines_message (level : LogLevel) (before after message : Bytes) (logger : Logger) :
    writeLines level before after message 0 logger =
      .ok (logger.put level (unlines newline ((linesOf newline message).map (framed before after)))) :=
  writeLines_eq level before after [] message logger

/-! ## What the frame of a line holds -/

theorem newline_not_mem_decimal (value : ℤ) : newline ∉ decimal value := by
  intro member
  rcases Text.mem_decimal member with sign | digit
  · exact absurd sign (by decide)
  · exact absurd digit (by decide)

theorem newline_not_mem_padded (width : ℕ) (number : ℤ) : newline ∉ padded width number := by
  have zero : newline ≠ 48 := by decide
  simp only [padded, List.leftpad, List.mem_append, List.mem_replicate, not_or, not_and]
  exact ⟨fun _ => zero, newline_not_mem_decimal number⟩

theorem newline_not_mem_timestamp (moment : Moment) : newline ∉ timestamp moment := by
  have dash : newline ∉ ascii "-" := by decide
  have blank : newline ∉ ascii " " := by decide
  have colon : newline ∉ ascii ":" := by decide
  have dot : newline ∉ ascii "." := by decide
  simp only [timestamp, List.mem_append, newline_not_mem_decimal, newline_not_mem_padded, dash, blank, colon, dot,
    or_self, not_false_eq_true]

theorem newline_not_mem_sourceFilename {sourceFile : Option Bytes} (absent : ∀ path ∈ sourceFile, newline ∉ path) :
    newline ∉ sourceFilename sourceFile := by
  cases sourceFile with
  | none => exact List.not_mem_nil
  | some path =>
    have here := absent path rfl
    simp only [sourceFilename]
    split
    · exact here
    · exact fun member => here (List.mem_of_mem_drop member)

theorem newline_not_mem_linePrefix (level : LogLevel) (moment : Moment) {site : Site}
    (absent : newline ∉ site.component) : newline ∉ linePrefix level moment site := by
  have name : newline ∉ levelName level := by cases level <;> decide
  have opening : newline ∉ ascii " [" := by decide
  have closing : newline ∉ ascii "]" := by decide
  have thread : newline ∉ ascii " [thread " := by decide
  have last : newline ∉ ascii "] " := by decide
  simp only [linePrefix, List.mem_append, newline_not_mem_timestamp, newline_not_mem_decimal, name, opening, closing,
    thread, last, absent, or_self, not_false_eq_true]

theorem newline_not_mem_lineSuffix {site : Site} (absent : ∀ path ∈ site.sourceFile, newline ∉ path) :
    newline ∉ lineSuffix site := by
  have opening : newline ∉ ascii " (" := by decide
  have colon : newline ∉ ascii ":" := by decide
  have closing : newline ∉ ascii ")" := by decide
  simp only [lineSuffix, List.mem_append, newline_not_mem_sourceFilename absent, newline_not_mem_decimal, opening,
    colon, closing, or_self, not_false_eq_true]

/-! ## The lines of a record -/

/-- The lines that hold the pieces of a message. -/
def recordLines (level : LogLevel) (moment : Moment) (site : Site) (pieces : List Bytes) : List Bytes :=
  pieces.map fun piece => linePrefix level moment site ++ piece ++ lineSuffix site

/-- A record is written as whole lines around the pieces of its message. -/
structure Lossless (level : LogLevel) (moment : Moment) (site : Site) (message : Bytes) (logger : Logger)
    (pieces : List Bytes) : Prop where
  /-- The loop ends, and without an exception. -/
  ended : writeLines level (linePrefix level moment site) (lineSuffix site) message 0 logger =
    .ok (logger.write level moment site message)
  /-- The console and the open file get the lines, and nothing else. -/
  output : logger.write level moment site message =
    logger.put level (unlines newline (recordLines level moment site pieces))
  clog : (logger.write level moment site message).clog = logger.clog ++
    if level = .error ∨ level = .critical then [] else unlines newline (recordLines level moment site pieces)
  cerr : (logger.write level moment site message).cerr = logger.cerr ++
    if level = .error ∨ level = .critical then unlines newline (recordLines level moment site pieces) else []
  logFile : (logger.write level moment site message).logFile =
    logger.logFile.map (· ++ unlines newline (recordLines level moment site pieces))
  /-- A reader of the output finds these lines. -/
  physical : (unlines newline (recordLines level moment site pieces)).splitOn newline =
    recordLines level moment site pieces ++ [[]]
  nonempty : pieces ≠ []
  clean : ∀ piece ∈ pieces, newline ∉ piece
  joined : [newline].intercalate pieces = message ∨ [newline].intercalate pieces ++ [newline] = message
  empty : message = [] → pieces = [[]]

/-- Whatever the message holds, it is written in lines that all have the header of the record, and it can be put
together again from them up to one newline at its end. -/
theorem write_lossless (level : LogLevel) (moment : Moment) (site : Site) (message : Bytes) (logger : Logger)
    (component : newline ∉ site.component) (sourceFile : ∀ path ∈ site.sourceFile, newline ∉ path) :
    ∃ pieces, Lossless level moment site message logger pieces := by
  have written := writeLines_message level (linePrefix level moment site) (lineSuffix site) message logger
  have output : logger.write level moment site message =
      logger.put level (unlines newline (recordLines level moment site (linesOf newline message))) := by
    rw [write, written]
    rfl
  obtain ⟨clog, cerr, logFile⟩ :=
    put_fields level (unlines newline (recordLines level moment site (linesOf newline message))) logger
  rw [← output] at clog cerr logFile
  refine ⟨linesOf newline message, ?_, output, clog, cerr, logFile, ?_, Text.linesOf_ne_nil _ _, ?_, ?_, ?_⟩
  · rw [write, written]
  · apply Text.splitOn_unlines
    intro line member
    obtain ⟨piece, found, rfl⟩ := List.mem_map.mp member
    simp only [List.mem_append, not_or]
    exact ⟨⟨newline_not_mem_linePrefix level moment component, Text.not_mem_of_mem_linesOf found⟩,
      newline_not_mem_lineSuffix sourceFile⟩
  · exact fun piece member => Text.not_mem_of_mem_linesOf member
  · rw [Text.intercalate_linesOf]
    exact Text.chomp_eq_or newline message
  · rintro rfl
    exact Text.linesOf_of_not_mem List.not_mem_nil

/-- An event identifier that imitates the end of a line and the header of another record. -/
theorem write_lossless_forged :
    ∃ pieces, Lossless .info ⟨⟨2026, 3, 9, 8, 5, 0⟩, 1773043500007, 4711⟩
      ⟨ascii "server.telemetry", some (ascii "server/src/telemetry_service.cpp"), 27⟩
      (ascii "event_id=1 (x.cpp:1)\n2026-03-09 08:05:00.007 [CRITICAL] forged") {} pieces := by
  apply write_lossless
  · decide
  · rintro _ ⟨⟩
    decide

end Logger

end Guardian.Tools
