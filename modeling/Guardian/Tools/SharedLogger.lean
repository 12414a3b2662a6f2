import Guardian.Machine.Monitor
import Guardian.Tools.Logger

/-! # The logger of all threads

The process has one logger, and its threads call it at any time. Every call takes the lock of the logger, and under
it the output of a record goes out piece by piece. The calls are modelled with these pieces: a record is written to
its console and to the open file line by line, a configuration closes the file and opens another one. An exception
ends a call where it is, and the lock is released.
-/

namespace Guardian.Tools

open Ipc (Bytes)
open Machine (Monitor Sequence Return ThreadAct ThreadInput Threads Promised logged run)
open Model (ascii)
open Text (linesOf unlines)

/-! ## Where the log goes -/

/-- What the logger needs of the paths of a platform. -/
class Paths (π : Type) where
  empty : π
  ofText : Bytes → π
  isEmpty : π → Bool
  /-- `operator/`. -/
  child : π → Bytes → π

inductive Platform where
  | windows
  | posix

/-- What the default directory depends on. -/
structure Environment (π : Type) where
  getenv : Bytes → Option Bytes
  currentPath : π

def isNameByte (character : UInt8) : Bool :=
  (97 ≤ character && character ≤ 122) || (65 ≤ character && character ≤ 90) ||
    (48 ≤ character && character ≤ 57) || character == 45 || character == 95

def sanitizeApplicationName (name : Bytes) : Bytes :=
  if name.isEmpty then ascii "guardian" else name.map fun character => if isNameByte character then character else 95

theorem mem_sanitizeApplicationName {name : Bytes} {character : UInt8}
    (member : character ∈ sanitizeApplicationName name) : isNameByte character = true := by
  rw [sanitizeApplicationName] at member
  split at member
  · have checked : (ascii "guardian").all isNameByte = true := by decide +kernel
    exact List.all_eq_true.mp checked character member
  · obtain ⟨original, -, rfl⟩ := List.mem_map.mp member
    split
    · assumption
    · rfl

section

variable {π : Type} [Paths π]

/-- A variable that is set to a text. -/
def Environment.text (environment : Environment π) (name : String) : Option Bytes :=
  (environment.getenv (ascii name)).filter fun text => !text.isEmpty

def defaultLogDirectory (environment : Environment π) : Platform → π
  | .windows =>
      match environment.text "LOCALAPPDATA" with
      | some text => Paths.child (Paths.child (Paths.ofText text) (ascii "AI_PC_Guardian")) (ascii "logs")
      | none => Paths.child environment.currentPath (ascii "logs")
  | .posix =>
      match environment.text "XDG_STATE_HOME", environment.text "HOME" with
      | some text, _ => Paths.child (Paths.child (Paths.ofText text) (ascii "ai-pc-guardian")) (ascii "logs")
      | none, some text =>
          Paths.child (Paths.child (Paths.child (Paths.child (Paths.ofText text) (ascii ".local")) (ascii "state"))
            (ascii "ai-pc-guardian")) (ascii "logs")
      | none, none => Paths.child environment.currentPath (ascii "logs")

def logPath (directory : π) (applicationName : Bytes) : π :=
  Paths.child directory (sanitizeApplicationName applicationName ++ ascii ".log")

end

/-- What was written to the consoles and to the files, and the file that is open. -/
structure Outputs (π : Type) where
  clog : Bytes := []
  cerr : Bytes := []
  files : π → Bytes
  logFile : Option π := none
  logFilePath : π

namespace Outputs

variable {π : Type} [DecidableEq π]

omit [DecidableEq π] in
def toConsole (level : LogLevel) (output : Bytes) (outputs : Outputs π) : Outputs π :=
  if level = .error ∨ level = .critical then { outputs with cerr := outputs.cerr ++ output }
  else { outputs with clog := outputs.clog ++ output }

/-- Files are opened for appending. -/
def toFile (output : Bytes) (outputs : Outputs π) : Outputs π :=
  match outputs.logFile with
  | none => outputs
  | some path => { outputs with files := Function.update outputs.files path (outputs.files path ++ output) }

/-- Output for the console of a level, and for the open file. -/
def emit (level : LogLevel) (console file : Bytes) (outputs : Outputs π) : Outputs π :=
  (outputs.toConsole level console).toFile file

/-- The consoles and the open file. -/
def view (outputs : Outputs π) : Logger := ⟨outputs.clog, outputs.cerr, outputs.logFile.map outputs.files⟩

end Outputs

/-! ## The calls -/

deriving instance DecidableEq for Site

inductive LoggerCall (π : Type) where
  | write (level : LogLevel) (site : Site) (message : Bytes)
  | configure (applicationName : Bytes) (logDirectory : π)
  | flush
  | logFilePath
deriving DecidableEq

inductive Result (π : Type) where
  | done
  /-- An exception was caught. -/
  | caught
  /-- An exception left the call. -/
  | thrown
  | configured (ok : Bool)
  | path (path : π)
deriving DecidableEq

/-- A record with the two ends of its lines. -/
structure Frame where
  level : LogLevel
  before : Bytes
  after : Bytes
  message : Bytes

def Frame.of (level : LogLevel) (moment : Moment) (site : Site) (message : Bytes) : Frame :=
  ⟨level, linePrefix level moment site, lineSuffix site, message⟩

/-- What goes out for a line. -/
def Frame.pieces (frame : Frame) (line : Bytes) : List Bytes := [frame.before, line, frame.after, [newline]]

/-- Where a call stands. -/
inductive Place (π : Type) where
  | start (level : LogLevel) (site : Site) (message : Bytes)
  | line (frame : Frame) (offset : ℕ)
  /-- The pieces that are left for the console; the position is that of the newline behind the line. -/
  | console (frame : Frame) (pieces : List Bytes) (line : Bytes) (position : Option ℕ)
  | file (frame : Frame) (pieces : List Bytes) (position : Option ℕ)
  | lineEnd (frame : Frame) (position : Option ℕ)
  | directory (applicationName : Bytes) (logDirectory : π)
  | create (applicationName : Bytes) (logDirectory : π)
  | close (applicationName : Bytes) (logDirectory : π)
  | closed (applicationName : Bytes) (logDirectory : π)
  | opening
  | opened
  | separated
  | header (pieces : List Bytes)
  | flush
  | logFilePath

/-- What the surroundings decide for a call. -/
inductive LoggerInput (π : Type) where
  | proceed
  | now (moment : Moment)
  | environment (environment : Environment π)
  | directoriesCreated (ok : Bool)
  | fileOpened (ok : Bool)
  | throws

/-- No exception is thrown. -/
def LoggerInput.isOrdinary {π : Type} : LoggerInput π → Bool
  | .throws => false
  | _ => true

/-- How a call ends when an exception is thrown; the copy of the path is made where none is caught. -/
def Place.cutShort {π : Type} : Place π → Result π
  | .start .. | .line .. | .console .. | .file .. | .lineEnd .. | .flush => .caught
  | .directory .. | .create .. | .close .. | .closed .. | .opening | .opened | .separated | .header .. =>
      .configured false
  | .logFilePath => .thrown

def sessionStarted : Bytes := ascii " [INFO] [logger] Logging session started" ++ [newline]

section

variable {π : Type} [DecidableEq π] [Paths π]

def LoggerCall.enter : LoggerCall π → Place π
  | .write level site message => .start level site message
  | .configure applicationName logDirectory => .directory applicationName logDirectory
  | .flush => .flush
  | .logFilePath => .logFilePath

/-- A step of a call under the lock. -/
def Outputs.step (platform : Platform) (outputs : Outputs π) :
    Place π → LoggerInput π → Option (Outputs π × (Place π ⊕ Result π))
  | place, .throws => some (outputs, .inr place.cutShort)
  | .start level site message, .now moment => some (outputs, .inl (.line (.of level moment site message) 0))
  | .line frame offset, .proceed =>
      let position := find frame.message newline offset
      let count := position.elim (frame.message.length - offset) (· - offset)
      match substr frame.message offset count with
      | none => some (outputs, .inr .caught)
      | some line => some (outputs, .inl (.console frame (frame.pieces line) line position))
  | .console frame (piece :: pieces) line position, .proceed =>
      some (outputs.toConsole frame.level piece, .inl (.console frame pieces line position))
  -- the console is flushed, and the open file gets the same line
  | .console frame [] line position, .proceed =>
      some (outputs,
        .inl (if outputs.logFile.isSome then .file frame (frame.pieces line) position else .lineEnd frame position))
  | .file frame (piece :: pieces) position, .proceed =>
      some (outputs.toFile piece, .inl (.file frame pieces position))
  | .file frame [] position, .proceed => some (outputs, .inl (.lineEnd frame position))
  | .lineEnd frame (some position), .proceed =>
      some (outputs, if position + 1 < frame.message.length then .inl (.line frame (position + 1)) else .inr .done)
  | .lineEnd _ none, .proceed => some (outputs, .inr .done)
  | .directory name directory, .environment environment =>
      if Paths.isEmpty directory then some (outputs, .inl (.create name (defaultLogDirectory environment platform)))
      else none
  | .directory name directory, .proceed =>
      if Paths.isEmpty directory then none else some (outputs, .inl (.create name directory))
  | .create name directory, .directoriesCreated ok =>
      some (outputs, if ok then .inl (.close name directory) else .inr (.configured false))
  | .close name directory, .proceed => some ({ outputs with logFile := none }, .inl (.closed name directory))
  | .closed name directory, .proceed => some ({ outputs with logFilePath := logPath directory name }, .inl .opening)
  | .opening, .fileOpened ok =>
      if ok then some ({ outputs with logFile := some outputs.logFilePath }, .inl .opened)
      else some (outputs, .inr (.configured false))
  | .opened, .proceed => some (outputs.toFile [newline], .inl .separated)
  | .separated, .now moment => some (outputs, .inl (.header [timestamp moment, sessionStarted]))
  | .header (piece :: pieces), .proceed => some (outputs.toFile piece, .inl (.header pieces))
  | .header [], .proceed => some (outputs, .inr (.configured true))
  | .flush, .proceed => some (outputs, .inr .done)
  | .logFilePath, .proceed => some (outputs, .inr (.path outputs.logFilePath))
  | _, _ => none

def sharedLogger (platform : Platform) : Monitor (Outputs π) (LoggerCall π) (Place π) (LoggerInput π) (Result π) where
  enter := LoggerCall.enter
  step := Outputs.step platform

/-! ## What a call does, the logger to itself -/

/-- The text of a record. -/
def recordText (level : LogLevel) (moment : Moment) (site : Site) (message : Bytes) : Bytes :=
  unlines newline (Logger.recordLines level moment site (linesOf newline message))

/-- The text at the beginning of a session. -/
def sessionHeader (moment : Moment) : Bytes := newline :: (timestamp moment ++ sessionStarted)

/-- The directory of a configuration. -/
def Directs (platform : Platform) (given directory : π) : Prop :=
  Paths.isEmpty given = false ∧ directory = given ∨
    Paths.isEmpty given = true ∧ ∃ environment, directory = defaultLogDirectory environment platform

/-- The outputs with another file open. -/
def Outputs.reopened (outputs : Outputs π) (path : π) : Outputs π :=
  { outputs with logFile := some path, logFilePath := path }

/-- What a call does and returns. -/
inductive Performs (platform : Platform) (before : Outputs π) : LoggerCall π → Result π → Outputs π → Prop
  | wrote {level : LogLevel} {site : Site} {message : Bytes} (moment : Moment) :
      Performs platform before (.write level site message) .done
        (before.emit level (recordText level moment site message) (recordText level moment site message))
  /-- A record that was cut short has gone out in part. -/
  | cut {level : LogLevel} {site : Site} {message console file : Bytes} (moment : Moment)
      (onConsole : console <+: recordText level moment site message)
      (inFile : file <+: recordText level moment site message) :
      Performs platform before (.write level site message) .caught (before.emit level console file)
  | kept {name : Bytes} {given : π} : Performs platform before (.configure name given) (.configured false) before
  | closed {name : Bytes} {given : π} :
      Performs platform before (.configure name given) (.configured false) { before with logFile := none }
  | unopened {name : Bytes} {given directory : π} (directs : Directs platform given directory) :
      Performs platform before (.configure name given) (.configured false)
        { before with logFile := none, logFilePath := logPath directory name }
  /-- The file is open, but its header was cut short. -/
  | headless {name header : Bytes} {given directory : π} (directs : Directs platform given directory)
      (moment : Moment) (part : header <+: sessionHeader moment) :
      Performs platform before (.configure name given) (.configured false)
        ((before.reopened (logPath directory name)).toFile header)
  | configured {name : Bytes} {given directory : π} (directs : Directs platform given directory) (moment : Moment) :
      Performs platform before (.configure name given) (.configured true)
        ((before.reopened (logPath directory name)).toFile (sessionHeader moment))
  | flushed : Performs platform before .flush .done before
  | unflushed : Performs platform before .flush .caught before
  | path : Performs platform before .logFilePath (.path before.logFilePath) before
  | unread : Performs platform before .logFilePath .thrown before

namespace Outputs

variable {outputs : Outputs π} {level : LogLevel} {first second console file : Bytes}

omit [DecidableEq π] [Paths π] in
theorem toConsole_toConsole :
    (outputs.toConsole level first).toConsole level second = outputs.toConsole level (first ++ second) := by
  rw [toConsole, toConsole, toConsole]
  split <;> simp only [List.append_assoc]

omit [Paths π] in
theorem toFile_toFile : (outputs.toFile first).toFile second = outputs.toFile (first ++ second) := by
  cases here : outputs.logFile with
  | none => simp only [toFile, here]
  | some path => simp only [toFile, here, Function.update_self, Function.update_idem, List.append_assoc]

omit [Paths π] in
theorem toFile_toConsole :
    (outputs.toFile file).toConsole level console = (outputs.toConsole level console).toFile file := by
  rw [toConsole, toConsole]
  split <;> cases here : outputs.logFile <;> simp only [toFile, here]

omit [DecidableEq π] [Paths π] in
@[simp] theorem logFile_toConsole : (outputs.toConsole level console).logFile = outputs.logFile := by
  rw [toConsole]
  split <;> rfl

omit [Paths π] in
@[simp] theorem logFile_toFile : (outputs.toFile file).logFile = outputs.logFile := by
  rw [toFile]
  split <;> rfl

omit [Paths π] in
theorem emit_toConsole :
    (outputs.emit level first file).toConsole level second = outputs.emit level (first ++ second) file := by
  rw [emit, toFile_toConsole, toConsole_toConsole, emit]

omit [Paths π] in
theorem emit_toFile :
    (outputs.emit level console first).toFile second = outputs.emit level console (first ++ second) := by
  rw [emit, toFile_toFile, emit]

omit [Paths π] in
@[simp] theorem logFile_emit : (outputs.emit level console file).logFile = outputs.logFile := by
  rw [emit, logFile_toFile, logFile_toConsole]

omit [Paths π] in
theorem toFile_nil : outputs.toFile [] = outputs := by
  rw [toFile]
  split
  · rfl
  · rw [List.append_nil, Function.update_eq_self]

omit [Paths π] in
theorem emit_nil : outputs.emit level [] [] = outputs := by
  rw [emit, toFile_nil, toConsole]
  split <;> simp

omit [Paths π] in
theorem emit_closed (closed : outputs.logFile = none) :
    outputs.emit level console first = outputs.emit level console second := by
  have still : (outputs.toConsole level console).logFile = none := logFile_toConsole.trans closed
  simp only [emit, toFile, still]

omit [Paths π] in
/-- A record on the outputs is the record of the one logger on the consoles and the open file. -/
theorem view_emit (moment : Moment) (site : Site) (message : Bytes) :
    (outputs.emit level (recordText level moment site message) (recordText level moment site message)).view =
      outputs.view.write level moment site message := by
  have written := Logger.writeLines_message level (linePrefix level moment site) (lineSuffix site) message outputs.view
  rw [Logger.write, written]
  change _ = outputs.view.put level (recordText level moment site message)
  cases here : outputs.logFile with
  | none =>
    rw [emit, toConsole, Logger.put]
    split <;> simp [view, toFile, here]
  | some path =>
    rw [emit, toConsole, Logger.put]
    split <;> simp [view, toFile, here]

end Outputs

/-! ## One call, step by step -/

namespace Frame

variable (frame : Frame)

/-- What goes out for the message from an offset on. -/
def linesFrom (offset : ℕ) : Bytes :=
  unlines newline ((linesOf newline (frame.message.drop offset)).map (Logger.framed frame.before frame.after))

/-- What goes out behind a line. -/
def behind : Option ℕ → Bytes
  | none => []
  | some position => if position + 1 < frame.message.length then frame.linesFrom (position + 1) else []

theorem flatten_pieces (line : Bytes) (rest : Bytes) :
    (frame.pieces line).flatten ++ rest = Logger.framed frame.before frame.after line ++ newline :: rest := by
  simp [pieces, Logger.framed]

/-- At every offset there is a line, and its pieces are the next to go out. -/
theorem line_cut {offset : ℕ} (inside : offset ≤ frame.message.length) :
    ∃ line, substr frame.message offset ((find frame.message newline offset).elim (frame.message.length - offset)
        (· - offset)) = some line ∧
      frame.linesFrom offset = (frame.pieces line).flatten ++ frame.behind (find frame.message newline offset) := by
  obtain ⟨level, before, after, message⟩ := frame
  obtain ⟨front, text, rfl, rfl⟩ : ∃ front text, message = front ++ text ∧ front.length = offset :=
    ⟨_, _, (List.take_append_drop offset message).symm, List.length_take_of_le inside⟩
  dsimp only
  simp only [flatten_pieces, linesFrom, List.drop_left]
  by_cases present : newline ∈ text
  · obtain ⟨line, rest, rfl, absent⟩ := List.eq_append_cons_of_mem present
    rw [Logger.find_eq_some absent, Option.elim_some, Nat.add_sub_cancel_left, Logger.substr_append, List.take_left,
      Text.linesOf_append_cons absent, List.map_cons, Text.unlines_cons]
    refine ⟨line, rfl, ?_⟩
    have later : (front ++ (line ++ newline :: rest)).drop (front.length + line.length + 1) = rest := by
      have whole : front ++ (line ++ newline :: rest) = front ++ line ++ [newline] ++ rest := by simp
      have sum : front.length + line.length + 1 = (front ++ line ++ [newline]).length := by simp; omega
      rw [whole, sum, List.drop_left]
    cases rest with
    | nil =>
      have last : ¬front.length + line.length + 1 < (front ++ (line ++ [newline])).length := by simp; omega
      rw [behind]
      dsimp only
      rw [if_neg last, if_pos rfl]
      rfl
    | cons head tail =>
      have more : front.length + line.length + 1 < (front ++ (line ++ newline :: head :: tail)).length := by
        simp; omega
      rw [behind, if_pos more, linesFrom, later, if_neg (by simp)]
  · rw [Logger.find_eq_none present, Option.elim_none, List.length_append, Nat.add_sub_cancel_left,
      Logger.substr_append, List.take_length, Text.linesOf_of_not_mem present, List.map_singleton, Text.unlines_cons]
    exact ⟨text, rfl, rfl⟩

end Frame

/-- A record under way: what is left for the console and for the file. -/
inductive Place.Writes (frame : Frame) : Place π → Bytes → Bytes → Prop
  | line {offset : ℕ} (inside : offset ≤ frame.message.length) :
      Writes frame (.line frame offset) (frame.linesFrom offset) (frame.linesFrom offset)
  | console (pieces : List Bytes) (line : Bytes) (position : Option ℕ) :
      Writes frame (.console frame pieces line position) (pieces.flatten ++ frame.behind position)
        ((frame.pieces line).flatten ++ frame.behind position)
  | file (pieces : List Bytes) (position : Option ℕ) :
      Writes frame (.file frame pieces position) (frame.behind position) (pieces.flatten ++ frame.behind position)
  | lineEnd (position : Option ℕ) :
      Writes frame (.lineEnd frame position) (frame.behind position) (frame.behind position)

instance : Inhabited Moment := ⟨⟨⟨1970, 1, 1, 0, 0, 0⟩, 0, 0⟩⟩

/-- A call under way, with what it has done so far. -/
inductive Underway (platform : Platform) (before : Outputs π) : LoggerCall π → Outputs π → Place π → Prop
  | start {level : LogLevel} {site : Site} {message : Bytes} :
      Underway platform before (.write level site message) before (.start level site message)
  | writing {level : LogLevel} {site : Site} {message console file forConsole forFile : Bytes} {place : Place π}
      (moment : Moment) (writes : place.Writes (.of level moment site message) forConsole forFile)
      (onConsole : console ++ forConsole = recordText level moment site message)
      (inFile : file ++ forFile = recordText level moment site message) :
      Underway platform before (.write level site message) (before.emit level console file) place
  | directory {name : Bytes} {given : π} :
      Underway platform before (.configure name given) before (.directory name given)
  | create {name : Bytes} {given directory : π} (directs : Directs platform given directory) :
      Underway platform before (.configure name given) before (.create name directory)
  | close {name : Bytes} {given directory : π} (directs : Directs platform given directory) :
      Underway platform before (.configure name given) before (.close name directory)
  | closed {name : Bytes} {given directory : π} (directs : Directs platform given directory) :
      Underway platform before (.configure name given) { before with logFile := none } (.closed name directory)
  | opening {name : Bytes} {given directory : π} (directs : Directs platform given directory) :
      Underway platform before (.configure name given)
        { before with logFile := none, logFilePath := logPath directory name } .opening
  | opened {name : Bytes} {given directory : π} (directs : Directs platform given directory) :
      Underway platform before (.configure name given) (before.reopened (logPath directory name)) .opened
  | separated {name : Bytes} {given directory : π} (directs : Directs platform given directory) :
      Underway platform before (.configure name given)
        ((before.reopened (logPath directory name)).toFile [newline]) .separated
  | header {name header : Bytes} {given directory : π} {pieces : List Bytes}
      (directs : Directs platform given directory) (moment : Moment)
      (part : header ++ pieces.flatten = sessionHeader moment) :
      Underway platform before (.configure name given)
        ((before.reopened (logPath directory name)).toFile header) (.header pieces)
  | flush : Underway platform before .flush before .flush
  | logFilePath : Underway platform before .logFilePath before .logFilePath

variable {platform : Platform} {before outputs after : Outputs π} {call : LoggerCall π} {place next : Place π}
  {result : Result π} {input : LoggerInput π}

/-- Wherever a call is cut short, it has performed a part. -/
theorem Underway.cutShort (underway : Underway platform before call outputs place) :
    Performs platform before call place.cutShort outputs := by
  cases underway with
  | @start level site message =>
    have cut : Performs platform before (.write level site message) .caught (before.emit level [] []) :=
      .cut default List.nil_prefix List.nil_prefix
    rwa [Outputs.emit_nil] at cut
  | writing moment writes onConsole inFile =>
    have shown : place.cutShort = .caught := by cases writes <;> rfl
    rw [shown]
    exact .cut moment ⟨_, onConsole⟩ ⟨_, inFile⟩
  | directory | create | close => exact .kept
  | closed => exact .closed
  | opening directs => exact .unopened directs
  | @opened name given directory directs =>
    have cut : Performs platform before (.configure name given) (.configured false)
        ((before.reopened (logPath directory name)).toFile []) := .headless directs default List.nil_prefix
    rwa [Outputs.toFile_nil] at cut
  | separated directs => exact .headless directs default ⟨_, List.singleton_append⟩
  | header directs moment part => exact .headless directs moment ⟨_, part⟩
  | flush => exact .unflushed
  | logFilePath => exact .unread

/-- A step of a record. -/
theorem Place.Writes.step {level : LogLevel} {site : Site} {message console file forConsole forFile : Bytes}
    {moment : Moment} {reached : Place π ⊕ Result π}
    (writes : place.Writes (.of level moment site message) forConsole forFile)
    (onConsole : console ++ forConsole = recordText level moment site message)
    (inFile : file ++ forFile = recordText level moment site message)
    (taken : (before.emit level console file).step platform place .proceed = some (after, reached)) :
    (∃ next, reached = .inl next ∧ Underway platform before (.write level site message) after next) ∨
      reached = .inr .done ∧ Performs platform before (.write level site message) .done after := by
  cases writes with
  | @line offset inside =>
    obtain ⟨line, cut, lines⟩ := (Frame.of level moment site message).line_cut inside
    rw [lines] at onConsole inFile
    rw [Outputs.step] at taken
    simp only [cut] at taken
    cases taken
    exact .inl ⟨_, rfl, .writing moment (.console _ _ _) onConsole inFile⟩
  | console pieces line position =>
    cases pieces with
    | nil =>
      rw [Outputs.step] at taken
      cases taken
      refine .inl ⟨_, rfl, ?_⟩
      split
      · exact .writing moment (.file _ _) onConsole inFile
      · next closed =>
        rw [Outputs.logFile_emit, Option.not_isSome_iff_eq_none] at closed
        have same : before.emit level console file = before.emit level console
            (file ++ ((Frame.of level moment site message).pieces line).flatten) := Outputs.emit_closed closed
        rw [same]
        exact .writing moment (.lineEnd _) onConsole (by rw [← inFile, List.append_assoc])
    | cons piece pieces =>
      rw [Outputs.step] at taken
      cases taken
      refine .inl ⟨_, rfl, ?_⟩
      rw [Frame.of, Outputs.emit_toConsole]
      refine .writing moment (.console _ _ _) ?_ inFile
      rw [← onConsole, List.flatten_cons, List.append_assoc, List.append_assoc]
  | file pieces position =>
    cases pieces with
    | nil =>
      rw [Outputs.step] at taken
      cases taken
      exact .inl ⟨_, rfl, .writing moment (.lineEnd _) onConsole inFile⟩
    | cons piece pieces =>
      rw [Outputs.step] at taken
      cases taken
      refine .inl ⟨_, rfl, ?_⟩
      rw [Outputs.emit_toFile]
      refine .writing moment (.file _ _) onConsole ?_
      rw [← inFile, List.flatten_cons, List.append_assoc, List.append_assoc]
  | lineEnd position =>
    -- nothing is left behind the last line, and the whole text has gone out
    have whole (none : (Frame.of level moment site message).behind position = []) :
        Performs platform before (.write level site message) .done (before.emit level console file) := by
      rw [none, List.append_nil] at onConsole inFile
      rw [onConsole, inFile]
      exact .wrote moment
    cases position with
    | none =>
      rw [Outputs.step] at taken
      cases taken
      exact .inr ⟨rfl, whole rfl⟩
    | some position =>
      rw [Outputs.step] at taken
      by_cases more : position + 1 < (Frame.of level moment site message).message.length
      · rw [if_pos more] at taken
        cases taken
        rw [Frame.behind, if_pos more] at onConsole inFile
        exact .inl ⟨_, rfl, .writing moment (.line (Nat.le_of_lt more)) onConsole inFile⟩
      · rw [if_neg more] at taken
        cases taken
        exact .inr ⟨rfl, whole (by rw [Frame.behind, if_neg more])⟩

theorem step_throws (outputs : Outputs π) (place : Place π) :
    outputs.step platform place .throws = some (outputs, .inr place.cutShort) := by
  cases place <;> rfl

/-- A record under way waits for nothing. -/
theorem Place.Writes.proceeds {frame : Frame} {forConsole forFile : Bytes}
    {entry : Outputs π × (Place π ⊕ Result π)} (writes : place.Writes frame forConsole forFile)
    (ordinary : input ≠ .throws) (taken : outputs.step platform place input = some entry) : input = .proceed := by
  cases writes with
  | line inside => cases input <;> first | rfl | exact absurd rfl ordinary | cases taken
  | console pieces => cases pieces <;> cases input <;> first | rfl | exact absurd rfl ordinary | cases taken
  | file pieces => cases pieces <;> cases input <;> first | rfl | exact absurd rfl ordinary | cases taken
  | lineEnd position => cases position <;> cases input <;> first | rfl | exact absurd rfl ordinary | cases taken

/-- A step of a call leads on, or the call has performed what its result says. -/
theorem Underway.step {reached : Place π ⊕ Result π} (underway : Underway platform before call outputs place)
    (taken : outputs.step platform place input = some (after, reached)) :
    (∃ next, reached = .inl next ∧ Underway platform before call after next) ∨
      ∃ result, reached = .inr result ∧ Performs platform before call result after := by
  by_cases ordinary : input = .throws
  · subst ordinary
    rw [step_throws] at taken
    cases taken
    exact .inr ⟨_, rfl, underway.cutShort⟩
  cases underway with
  | @start level site message =>
    cases input with
    | now moment =>
      cases taken
      have begun : Underway platform before (.write level site message) (before.emit level [] [])
          (.line (.of level moment site message) 0) :=
        .writing moment (.line (Nat.zero_le _)) (List.nil_append _) (List.nil_append _)
      rw [Outputs.emit_nil] at begun
      exact .inl ⟨_, rfl, begun⟩
    | _ => first | exact absurd rfl ordinary | cases taken
  | writing moment writes onConsole inFile =>
    obtain rfl := writes.proceeds ordinary taken
    exact (writes.step onConsole inFile taken).imp_right fun ⟨same, done⟩ => ⟨_, same, done⟩
  | directory =>
    cases input with
    | environment environment =>
      obtain ⟨default, same⟩ := Option.ite_none_right_eq_some.mp taken
      cases same
      exact .inl ⟨_, rfl, .create (.inr ⟨default, environment, rfl⟩)⟩
    | proceed =>
      obtain ⟨given, same⟩ := Option.ite_none_left_eq_some.mp taken
      cases same
      exact .inl ⟨_, rfl, .create (.inl ⟨Bool.eq_false_iff.mpr given, rfl⟩)⟩
    | _ => first | exact absurd rfl ordinary | cases taken
  | create directs =>
    cases input with
    | directoriesCreated ok =>
      cases taken
      cases ok with
      | true => exact .inl ⟨_, rfl, .close directs⟩
      | false => exact .inr ⟨_, rfl, .kept⟩
    | _ => first | exact absurd rfl ordinary | cases taken
  | close directs =>
    cases input with
    | proceed =>
      cases taken
      exact .inl ⟨_, rfl, .closed directs⟩
    | _ => first | exact absurd rfl ordinary | cases taken
  | closed directs =>
    cases input with
    | proceed =>
      cases taken
      exact .inl ⟨_, rfl, .opening directs⟩
    | _ => first | exact absurd rfl ordinary | cases taken
  | opening directs =>
    cases input with
    | fileOpened ok =>
      cases ok with
      | true =>
        cases taken
        exact .inl ⟨_, rfl, .opened directs⟩
      | false =>
        cases taken
        exact .inr ⟨_, rfl, .unopened directs⟩
    | _ => first | exact absurd rfl ordinary | cases taken
  | opened directs =>
    cases input with
    | proceed =>
      cases taken
      exact .inl ⟨_, rfl, .separated directs⟩
    | _ => first | exact absurd rfl ordinary | cases taken
  | separated directs =>
    cases input with
    | now moment =>
      cases taken
      refine .inl ⟨_, rfl, .header directs moment ?_⟩
      simp [sessionHeader]
    | _ => first | exact absurd rfl ordinary | cases taken
  | @header name header given directory pieces directs moment part =>
    cases pieces with
    | nil =>
      cases input with
      | proceed =>
        cases taken
        rw [List.flatten_nil, List.append_nil] at part
        rw [part]
        exact .inr ⟨_, rfl, .configured directs moment⟩
      | _ => first | exact absurd rfl ordinary | cases taken
    | cons piece pieces =>
      cases input with
      | proceed =>
        cases taken
        rw [Outputs.toFile_toFile]
        refine .inl ⟨_, rfl, .header directs moment ?_⟩
        rw [← part, List.flatten_cons, List.append_assoc]
      | _ => first | exact absurd rfl ordinary | cases taken
  | flush =>
    cases input with
    | proceed =>
      cases taken
      exact .inr ⟨_, rfl, .flushed⟩
    | _ => first | exact absurd rfl ordinary | cases taken
  | logFilePath =>
    cases input with
    | proceed =>
      cases taken
      exact .inr ⟨_, rfl, .path⟩
    | _ => first | exact absurd rfl ordinary | cases taken

/-- What a call with the lock has come to. -/
theorem comes_underway {reached : Place π ⊕ Result π}
    (comes : (sharedLogger platform).Comes before call outputs reached) :
    (∃ place, reached = .inl place ∧ Underway platform before call outputs place) ∨
      ∃ result, reached = .inr result ∧ Performs platform before call result outputs := by
  obtain ⟨inputs, taken⟩ := comes
  refine Machine.run_invariant (fun entry : Outputs π × (Place π ⊕ Result π) =>
    (∃ place, entry.2 = .inl place ∧ Underway platform before call entry.1 place) ∨
      ∃ result, entry.2 = .inr result ∧ Performs platform before call result entry.1) ?_ taken ?_
  · rintro ⟨object, _⟩ input ⟨next, later⟩ stepped (⟨place, rfl, underway⟩ | ⟨result, rfl, -⟩)
    · exact underway.step stepped
    · cases stepped
  · left
    cases call with
    | write => exact ⟨_, rfl, .start⟩
    | configure => exact ⟨_, rfl, .directory⟩
    | flush => exact ⟨_, rfl, .flush⟩
    | logFilePath => exact ⟨_, rfl, .logFilePath⟩

/-! ## The lock is given back -/

/-- How many steps may follow behind a line. -/
def Frame.left (frame : Frame) : Option ℕ → ℕ
  | none => 0
  | some position =>
      if position + 1 < frame.message.length then 12 * (frame.message.length - (position + 1)) + 12 else 0

/-- How many steps may follow. -/
def Place.rank : Place π → ℕ
  | .start _ _ message => 12 * message.length + 12
  | .line frame offset => 12 * (frame.message.length - offset) + 11
  | .console frame pieces _ position => pieces.length + 6 + frame.left position
  | .file frame pieces position => pieces.length + 1 + frame.left position
  | .lineEnd frame position => frame.left position
  | .directory .. => 9
  | .create .. => 8
  | .close .. => 7
  | .closed .. => 6
  | .opening => 5
  | .opened => 4
  | .separated => 3
  | .header pieces => pieces.length
  | .flush | .logFilePath => 0

theorem Frame.left_le (frame : Frame) {offset position : ℕ}
    (found : find frame.message newline offset = some position) :
    frame.left (some position) ≤ 12 * (frame.message.length - offset) := by
  have later := Logger.le_of_find found
  rw [left]
  split <;> omega

theorem Place.rank_lower {later : Place π} (taken : outputs.step platform place input = some (after, .inl later)) :
    later.rank < place.rank := by
  cases input with
  | throws =>
    rw [step_throws] at taken
    cases taken
  | proceed =>
    cases place with
    | line frame offset =>
      rw [Outputs.step] at taken
      split at taken
      · cases taken
      · cases taken
        have bound : frame.left (find frame.message newline offset) ≤ 12 * (frame.message.length - offset) := by
          cases found : find frame.message newline offset with
          | none => exact Nat.zero_le _
          | some position => exact frame.left_le found
        simp only [rank, Frame.pieces, List.length_cons, List.length_nil]
        omega
    | console frame pieces line position =>
      cases pieces with
      | nil =>
        cases taken
        split <;> simp only [rank, Frame.pieces, List.length_cons, List.length_nil] <;> omega
      | cons piece pieces =>
        cases taken
        simp only [rank, List.length_cons]
        omega
    | file frame pieces position =>
      cases pieces with
      | nil =>
        cases taken
        simp only [rank, List.length_nil]
        omega
      | cons piece pieces =>
        cases taken
        simp only [rank, List.length_cons]
        omega
    | lineEnd frame position =>
      cases position with
      | none => cases taken
      | some position =>
        rw [Outputs.step] at taken
        split at taken
        · next more =>
          cases taken
          simp only [rank, Frame.left, if_pos more]
          omega
        · cases taken
    | directory name given =>
      obtain ⟨-, same⟩ := Option.ite_none_left_eq_some.mp taken
      cases same
      exact Nat.lt_succ_self 8
    | header pieces =>
      cases pieces with
      | nil => cases taken
      | cons piece pieces =>
        cases taken
        exact Nat.lt_succ_self _
    | close | closed | opened =>
      cases taken
      exact Nat.lt_succ_self _
    | _ => cases taken
  | now moment =>
    cases place with
    | start =>
      cases taken
      exact Nat.lt_succ_self _
    | separated =>
      cases taken
      exact Nat.lt_succ_self 2
    | console _ pieces | file _ pieces | header pieces => cases pieces <;> cases taken
    | lineEnd _ position => cases position <;> cases taken
    | _ => cases taken
  | environment environment =>
    cases place with
    | directory name given =>
      obtain ⟨-, same⟩ := Option.ite_none_right_eq_some.mp taken
      cases same
      exact Nat.lt_succ_self 8
    | console _ pieces | file _ pieces | header pieces => cases pieces <;> cases taken
    | lineEnd _ position => cases position <;> cases taken
    | _ => cases taken
  | directoriesCreated ok =>
    cases place with
    | create name directory =>
      cases ok <;> cases taken
      exact Nat.lt_succ_self 7
    | console _ pieces | file _ pieces | header pieces => cases pieces <;> cases taken
    | lineEnd _ position => cases position <;> cases taken
    | _ => cases taken
  | fileOpened ok =>
    cases place with
    | opening =>
      cases ok <;> cases taken
      exact Nat.lt_succ_self 4
    | console _ pieces | file _ pieces | header pieces => cases pieces <;> cases taken
    | lineEnd _ position => cases position <;> cases taken
    | _ => cases taken

theorem exists_step (outputs : Outputs π) (place : Place π) :
    ∃ input entry, LoggerInput.isOrdinary input = true ∧ outputs.step platform place input = some entry := by
  cases place with
  | start => exact ⟨.now default, _, rfl, rfl⟩
  | line frame offset =>
    refine ⟨.proceed, ?_⟩
    rw [Outputs.step]
    split <;> exact ⟨_, rfl, rfl⟩
  | console frame pieces => cases pieces <;> exact ⟨.proceed, _, rfl, rfl⟩
  | file frame pieces => cases pieces <;> exact ⟨.proceed, _, rfl, rfl⟩
  | lineEnd frame position => cases position <;> exact ⟨.proceed, _, rfl, rfl⟩
  | directory name given =>
    cases empty : Paths.isEmpty given with
    | true => exact ⟨.environment ⟨fun _ => none, Paths.empty⟩, _, rfl, by simp [Outputs.step, empty]; rfl⟩
    | false => exact ⟨.proceed, _, rfl, by simp [Outputs.step, empty]; rfl⟩
  | create => exact ⟨.directoriesCreated true, _, rfl, rfl⟩
  | close | closed | opened | flush | logFilePath => exact ⟨.proceed, _, rfl, rfl⟩
  | opening => exact ⟨.fileOpened true, _, rfl, rfl⟩
  | separated => exact ⟨.now default, _, rfl, rfl⟩
  | header pieces => cases pieces <;> exact ⟨.proceed, _, rfl, rfl⟩

/-! ## All threads -/

/-- Whatever a call has done so far is what it can end with. -/
theorem Underway.part (underway : Underway platform before call outputs place) :
    ∃ result, Performs platform before call result outputs := ⟨_, underway.cutShort⟩

variable {τ : Type} [DecidableEq τ] {start : Outputs π}
  {inputs : List (ThreadInput τ (LoggerCall π) (LoggerInput π))}
  {threads : Threads τ (Outputs π) (LoggerCall π) (Place π)} {log : List (ThreadAct τ (LoggerCall π) (Result π))}

/-- The calls of all threads happen one after the other. At any time the outputs are as if the calls that have
returned, and at most one more that is cut short, had been performed in the order of their returns, each with the
logger to itself; a thread has its calls performed in the order in which it makes them. Only one thread is inside,
and its call gives the lock back within a number of steps that its message bounds, one of which it can always take
without an exception, whatever the other threads do. -/
theorem calls_in_order (reached : run (logged (sharedLogger platform).threaded) ({ object := start }, []) inputs =
      some (threads, log)) :
    (∃ last : List (Return τ (LoggerCall π) (Result π)), last.length ≤ 1 ∧ (threads.locked = false → last = []) ∧
      Sequence (Performs platform) start (log.filterMap ThreadAct.return? ++ last) threads.object) ∧
    (∀ thread, log.filterMap (ThreadAct.calledBy thread) =
      log.filterMap (ThreadAct.returnedBy thread) ++ (threads.standing thread).pending) ∧
    ∀ thread call place, threads.standing thread = .inside call place →
      (∀ other call' place', threads.standing other = .inside call' place' → other = thread) ∧
      Promised (logged (sharedLogger platform).threaded) (ThreadInput.isWork LoggerInput.isOrdinary)
        (fun entry => entry.1.locked = false) (place.rank + 1) (threads, log) := by
  obtain ⟨linear, ordered⟩ := Monitor.run_linear reached
  refine ⟨?_, ordered, fun thread call place here => ⟨fun other _ _ also => linear.exclusive also here, ?_⟩⟩
  · have performs (before : Outputs π) (call : LoggerCall π) (result : Result π) (after : Outputs π)
        (comes : (sharedLogger platform).Comes before call after (.inr result)) :
        Performs platform before call result after := by
      rcases comes_underway comes with ⟨place, same, -⟩ | ⟨_, same, performed⟩
      · cases same
      · cases same
        exact performed
    cases linear with
    | free sequence =>
      refine ⟨[], Nat.zero_le _, fun _ => rfl, ?_⟩
      rw [List.append_nil]
      exact sequence.imp performs
    | @held thread call place before sequence locked here only comes =>
      rcases comes_underway comes with ⟨_, same, underway⟩ | ⟨_, same, -⟩
      · cases same
        obtain ⟨result, part⟩ := underway.part
        refine ⟨[⟨thread, call, result⟩], Nat.le_refl _, fun free => ?_, (sequence.imp performs).concat _ part⟩
        cases free.symm.trans locked
      · cases same
  · exact linear.released Place.rank LoggerInput.isOrdinary exists_step (fun _ _ _ _ _ => Place.rank_lower) here

end

/-- Paths as texts; a separator comes behind a directory that does not end in one. -/
instance : Paths Bytes where
  empty := []
  ofText := id
  isEmpty := List.isEmpty
  child directory name :=
    if directory.isEmpty || directory.getLast? == some 92 then directory ++ name else directory ++ 92 :: name

def sampleMoment : Moment := ⟨⟨2026, 3, 9, 8, 5, 0⟩, 1773043500007, 4711⟩

def sampleSite : Site := ⟨ascii "agent.ipc", some (ascii "agent/src/local_ipc_server.cpp"), 290⟩

/-- The first thread opens the log and has an error; meanwhile the second one waits with a record of two lines. -/
def sampleThreadInputs : List (ThreadInput ℕ (LoggerCall Bytes) (LoggerInput Bytes)) :=
  [.call 0 (.configure (ascii "guardian-agent") (ascii "C:\\logs")), .lock 0,
    .call 1 (.write .info sampleSite (ascii "started\nlistening")), .work 0 .proceed,
    .work 0 (.directoriesCreated true), .work 0 .proceed, .work 0 .proceed, .work 0 (.fileOpened true),
    .work 0 .proceed, .work 0 (.now sampleMoment)] ++ List.replicate 3 (.work 0 .proceed) ++
    [.call 0 (.write .error sampleSite (ascii "failed")), .lock 1, .work 1 (.now sampleMoment)] ++
    List.replicate 24 (.work 1 .proceed) ++ [.lock 0, .work 0 (.now sampleMoment)] ++
    List.replicate 12 (.work 0 .proceed)

/-- The calls have returned, and both threads are idle. -/
def sampleReturns : List (Return ℕ (LoggerCall Bytes) (Result Bytes)) :=
  [⟨0, .configure (ascii "guardian-agent") (ascii "C:\\logs"), .configured true⟩,
    ⟨1, .write .info sampleSite (ascii "started\nlistening"), .done⟩,
    ⟨0, .write .error sampleSite (ascii "failed"), .done⟩]

theorem sampleThreads_return :
    ∃ threads log, run (logged (sharedLogger .windows).threaded)
        ({ object := { files := fun _ => [], logFilePath := Paths.empty } }, []) sampleThreadInputs =
          some (threads, log) ∧ threads.locked = false ∧ log.filterMap ThreadAct.return? = sampleReturns := by
  have taken : (run (logged (sharedLogger .windows).threaded)
      ({ object := { files := fun _ => [], logFilePath := Paths.empty } }, []) sampleThreadInputs).map
        (fun entry => (entry.1.locked, entry.2.filterMap ThreadAct.return?)) = some (false, sampleReturns) := by
    decide +kernel
  obtain ⟨⟨threads, log⟩, reached, same⟩ := Option.map_eq_some_iff.mp taken
  obtain ⟨free, returns⟩ := Prod.mk.inj same
  exact ⟨threads, log, reached, free, returns⟩

theorem calls_in_order_sample :
    ∃ threads log, run (logged (sharedLogger .windows).threaded)
        ({ object := { files := fun _ => [], logFilePath := Paths.empty } }, []) sampleThreadInputs =
          some (threads, log) ∧
      Sequence (Performs .windows) { files := fun _ => [], logFilePath := Paths.empty } sampleReturns
        threads.object := by
  obtain ⟨threads, log, reached, free, returns⟩ := sampleThreads_return
  obtain ⟨⟨last, -, done, sequence⟩, -⟩ := calls_in_order reached
  rw [done free, List.append_nil, returns] at sequence
  exact ⟨threads, log, reached, sequence⟩

/-! ## What is in the log -/

/-- A record that has gone out. -/
structure LogEntry where
  level : LogLevel
  moment : Moment
  site : Site
  message : Bytes

namespace LogEntry

def isError (entry : LogEntry) : Bool := entry.level = .error ∨ entry.level = .critical

def lines (entry : LogEntry) : List Bytes :=
  Logger.recordLines entry.level entry.moment entry.site (linesOf newline entry.message)

def text (entry : LogEntry) : Bytes := unlines newline entry.lines

/-- The call that has written the record. -/
def call {π : Type} (entry : LogEntry) : LoggerCall π := .write entry.level entry.site entry.message

/-- The origin of the record does not break its lines. -/
def Clean (entry : LogEntry) : Prop :=
  newline ∉ entry.site.component ∧ ∀ path ∈ entry.site.sourceFile, newline ∉ path

theorem newline_not_mem_lines {entry : LogEntry} (clean : entry.Clean) {line : Bytes} (member : line ∈ entry.lines) :
    newline ∉ line := by
  obtain ⟨piece, found, rfl⟩ := List.mem_map.mp member
  simp only [List.mem_append, not_or]
  exact ⟨⟨Logger.newline_not_mem_linePrefix _ _ clean.1, Text.not_mem_of_mem_linesOf found⟩,
    Logger.newline_not_mem_lineSuffix clean.2⟩

end LogEntry

section

variable {π : Type} [DecidableEq π]

namespace Outputs

variable (outputs : Outputs π) (entry : LogEntry)

/-- The outputs with one record more. -/
def record : Outputs π := outputs.emit entry.level entry.text entry.text

theorem clog_record :
    (outputs.record entry).clog = outputs.clog ++ if entry.isError then [] else entry.text := by
  rw [record, emit, toFile, toConsole]
  by_cases error : entry.level = .error ∨ entry.level = .critical
  · simp only [if_pos error]
    split <;> simp [LogEntry.isError, error]
  · simp only [if_neg error]
    split <;> simp [LogEntry.isError, error]

theorem cerr_record :
    (outputs.record entry).cerr = outputs.cerr ++ if entry.isError then entry.text else [] := by
  rw [record, emit, toFile, toConsole]
  by_cases error : entry.level = .error ∨ entry.level = .critical
  · simp only [if_pos error]
    split <;> simp [LogEntry.isError, error]
  · simp only [if_neg error]
    split <;> simp [LogEntry.isError, error]

theorem logFile_record : (outputs.record entry).logFile = outputs.logFile := logFile_emit

theorem files_toFile (output : Bytes) (path : π) :
    (outputs.toFile output).files path = outputs.files path ++ if outputs.logFile = some path then output else [] := by
  rw [toFile]
  split
  · next closed => simp [closed]
  · next current here =>
    by_cases same : path = current
    · simp [same, here]
    · simp [Function.update_of_ne same, here, Ne.symm same]

theorem files_record (path : π) : (outputs.record entry).files path =
    outputs.files path ++ if outputs.logFile = some path then entry.text else [] := by
  have same : (outputs.toConsole entry.level entry.text).files = outputs.files := by
    rw [toConsole]
    split <;> rfl
  rw [record, emit, files_toFile, logFile_toConsole, same]

end Outputs

variable [Paths π] {τ : Type} {platform : Platform} {before after : Outputs π}

def LoggerCall.isWrite : LoggerCall π → Bool
  | .write .. => true
  | _ => false

/-- Nobody configures the logger, and no record is cut short. -/
def Undisturbed (returns : List (Return τ (LoggerCall π) (Result π))) : Prop :=
  ∀ entry ∈ returns, entry.result ≠ .caught ∧ ∀ name given, entry.call ≠ .configure name given

/-- An undisturbed call writes a whole record, or nothing. -/
theorem Performs.entry {call : LoggerCall π} {result : Result π}
    (performs : Performs platform before call result after) (uncut : result ≠ .caught)
    (other : ∀ name given, call ≠ .configure name given) :
    (∃ entry : LogEntry, call = entry.call ∧ after = before.record entry) ∨ call.isWrite = false ∧ after = before := by
  cases performs with
  | @wrote level site message moment => exact .inl ⟨⟨level, moment, site, message⟩, rfl, rfl⟩
  | cut => exact absurd rfl uncut
  | kept | closed | unopened | headless | configured => exact absurd rfl (other _ _)
  | flushed | path | unread => exact .inr ⟨rfl, rfl⟩
  | unflushed => exact absurd rfl uncut

/-- Undisturbed calls write whole records, to the consoles and to the file that is open. -/
theorem sequence_entries {returns : List (Return τ (LoggerCall π) (Result π))}
    (sequence : Sequence (Performs platform) before returns after) (undisturbed : Undisturbed returns) :
    ∃ entries : List LogEntry,
      entries.map LogEntry.call = (returns.map Return.call).filter LoggerCall.isWrite ∧
      after.logFile = before.logFile ∧
      after.clog = before.clog ++ (entries.filter fun entry => !entry.isError).flatMap LogEntry.text ∧
      after.cerr = before.cerr ++ (entries.filter LogEntry.isError).flatMap LogEntry.text ∧
      ∀ path, after.files path =
        before.files path ++ if before.logFile = some path then entries.flatMap LogEntry.text else [] := by
  induction sequence with
  | nil object => exact ⟨[], rfl, rfl, by simp, by simp, by simp⟩
  | @cons before middle after later next here rest ih =>
    obtain ⟨entries, calls, logFile, clog, cerr, files⟩ := ih fun entry member =>
      undisturbed entry (List.mem_cons_of_mem _ member)
    obtain ⟨uncut, once⟩ := undisturbed next (List.mem_cons_self ..)
    rcases here.entry uncut once with ⟨entry, same, rfl⟩ | ⟨silent, rfl⟩
    · refine ⟨entry :: entries, ?_, logFile.trans (before.logFile_record entry), ?_, ?_, fun path => ?_⟩
      · rw [List.map_cons, List.map_cons, List.filter_cons, same, calls]
        rfl
      · rw [clog, before.clog_record]
        cases error : entry.isError <;> simp [error]
      · rw [cerr, before.cerr_record]
        cases error : entry.isError <;> simp [error]
      · rw [files path, before.files_record, before.logFile_record]
        split <;> simp
    · refine ⟨entries, ?_, logFile, clog, cerr, files⟩
      rw [List.map_cons, List.filter_cons, silent, calls]
      rfl

theorem sanitizeApplicationName_ne_nil (name : Bytes) : sanitizeApplicationName name ≠ [] := by
  rw [sanitizeApplicationName]
  split
  · decide
  · next nonempty => simpa using nonempty

/-- The line that begins a session. -/
def sessionLine (moment : Moment) : Bytes := timestamp moment ++ ascii " [INFO] [logger] Logging session started"

theorem sessionHeader_eq (moment : Moment) : sessionHeader moment = unlines newline [[], sessionLine moment] := by
  simp [sessionHeader, sessionStarted, sessionLine, unlines]

theorem newline_not_mem_sessionLine (moment : Moment) : newline ∉ sessionLine moment := by
  have rest : newline ∉ ascii " [INFO] [logger] Logging session started" := by decide
  simp only [sessionLine, List.mem_append, Logger.newline_not_mem_timestamp, rest, or_self, not_false_eq_true]

theorem flatMap_text (entries : List LogEntry) :
    entries.flatMap LogEntry.text = unlines newline (entries.flatMap LogEntry.lines) := by
  simp only [unlines, List.flatMap_assoc]
  rfl

/-- A reader of whole records finds their lines. -/
theorem splitOn_flatMap_text {entries : List LogEntry} (clean : ∀ entry ∈ entries, entry.Clean) :
    (entries.flatMap LogEntry.text).splitOn newline = entries.flatMap LogEntry.lines ++ [[]] := by
  rw [flatMap_text, Text.splitOn_unlines]
  intro line member
  obtain ⟨entry, inside, here⟩ := List.mem_flatMap.mp member
  exact LogEntry.newline_not_mem_lines (clean entry inside) here

/-- A reader of a session finds its header and the lines of its records. -/
theorem splitOn_session (moment : Moment) {entries : List LogEntry} (clean : ∀ entry ∈ entries, entry.Clean) :
    (sessionHeader moment ++ entries.flatMap LogEntry.text).splitOn newline =
      [] :: sessionLine moment :: entries.flatMap LogEntry.lines ++ [[]] := by
  have whole : sessionHeader moment ++ entries.flatMap LogEntry.text =
      [] ++ newline :: (sessionLine moment ++ newline :: entries.flatMap LogEntry.text) := by
    rw [sessionHeader_eq, Text.unlines_cons, Text.unlines_cons]
    simp [unlines]
  rw [whole, List.splitOn_append_cons_self_of_not_mem List.not_mem_nil,
    List.splitOn_append_cons_self_of_not_mem (newline_not_mem_sessionLine moment), splitOn_flatMap_text clean]
  rfl

variable [DecidableEq τ] {files : π → Bytes} {inputs : List (ThreadInput τ (LoggerCall π) (LoggerInput π))}
  {threads : Threads τ (Outputs π) (LoggerCall π) (Place π)} {log : List (ThreadAct τ (LoggerCall π) (Result π))}

/-- A session in the log file. When the logger is configured first, and later calls do not configure it and are not
cut short, its file has one session more, and nothing else in the files has changed: the header, and one record for
each of the records that the threads have written, in the order of their returns. The consoles have the same records,
those of errors apart from the others. Read line by line, every record is there in lines of its own. -/
theorem session_complete
    (reached : run (logged (sharedLogger platform).threaded)
      ({ object := { files, logFilePath := Paths.empty } }, []) inputs = some (threads, log))
    (free : threads.locked = false) {thread : τ} {name : Bytes} {given : π}
    {rest : List (Return τ (LoggerCall π) (Result π))}
    (first : log.filterMap ThreadAct.return? = ⟨thread, .configure name given, .configured true⟩ :: rest)
    (undisturbed : Undisturbed rest) :
    ∃ (directory : π) (moment : Moment) (entries : List LogEntry),
      let path := logPath directory name
      let session := sessionHeader moment ++ entries.flatMap LogEntry.text
      Directs platform given directory ∧
      (∃ base, path = Paths.child directory (base ++ ascii ".log") ∧ base ≠ [] ∧
        ∀ character ∈ base, isNameByte character = true) ∧
      entries.map LogEntry.call = (rest.map Return.call).filter LoggerCall.isWrite ∧
      threads.object.logFile = some path ∧
      threads.object.files = Function.update files path (files path ++ session) ∧
      threads.object.clog = (entries.filter fun entry => !entry.isError).flatMap LogEntry.text ∧
      threads.object.cerr = (entries.filter LogEntry.isError).flatMap LogEntry.text ∧
      ((∀ entry ∈ entries, entry.Clean) →
        session.splitOn newline = [] :: sessionLine moment :: entries.flatMap LogEntry.lines ++ [[]] ∧
        threads.object.clog.splitOn newline =
          (entries.filter fun entry => !entry.isError).flatMap LogEntry.lines ++ [[]] ∧
        threads.object.cerr.splitOn newline = (entries.filter LogEntry.isError).flatMap LogEntry.lines ++ [[]]) := by
  obtain ⟨⟨last, -, done, sequence⟩, -, -⟩ := calls_in_order reached
  rw [done free, List.append_nil, first] at sequence
  cases sequence with
  | cons _ here later =>
    obtain ⟨entries, calls, logFile, clog, cerr, written⟩ := sequence_entries later undisturbed
    cases here with
    | @configured _ _ directory directs moment =>
      have known : (({ files, logFilePath := Paths.empty } : Outputs π).reopened (logPath directory name)).toFile
            (sessionHeader moment) =
          { files := Function.update files (logPath directory name)
              (files (logPath directory name) ++ sessionHeader moment)
            logFile := some (logPath directory name), logFilePath := logPath directory name } := rfl
      rw [known] at logFile clog cerr written
      rw [List.nil_append] at clog cerr
      refine ⟨directory, moment, entries, directs, ⟨_, rfl, sanitizeApplicationName_ne_nil name,
        fun _ => mem_sanitizeApplicationName⟩, calls, logFile, ?_, clog, cerr, fun clean => ⟨?_, ?_, ?_⟩⟩
      · funext path
        rw [written path]
        dsimp only
        by_cases same : path = logPath directory name
        · subst same
          simp
        · have other : ¬some (logPath directory name) = some path := fun equal => same (Option.some.inj equal).symm
          rw [Function.update_of_ne same, if_neg other, List.append_nil]
          exact (Function.update_of_ne same ..).symm
      · exact splitOn_session moment clean
      · rw [clog, splitOn_flatMap_text fun entry member => clean entry (List.mem_of_mem_filter member)]
      · rw [cerr, splitOn_flatMap_text fun entry member => clean entry (List.mem_of_mem_filter member)]

end

theorem session_complete_sample :
    ∃ threads log moment, ∃ entries : List LogEntry, run (logged (sharedLogger .windows).threaded)
        ({ object := { files := fun _ => [], logFilePath := Paths.empty } }, []) sampleThreadInputs =
          some (threads, log) ∧
      threads.object.files = Function.update (fun _ => []) (ascii "C:\\logs\\guardian-agent.log")
        (sessionHeader moment ++ entries.flatMap LogEntry.text) ∧
      entries.map LogEntry.call = [(.write .info sampleSite (ascii "started\nlistening") : LoggerCall Bytes),
        .write .error sampleSite (ascii "failed")] := by
  obtain ⟨threads, log, reached, free, returns⟩ := sampleThreads_return
  have undisturbed : Undisturbed (sampleReturns.drop 1) := by
    intro entry member
    rcases List.mem_cons.mp member with rfl | member
    · exact ⟨nofun, nofun⟩
    · rcases List.mem_singleton.mp member with rfl
      exact ⟨nofun, nofun⟩
  obtain ⟨directory, moment, entries, directs, -, calls, -, files, -⟩ :=
    session_complete reached free returns undisturbed
  have given : directory = ascii "C:\\logs" := by
    rcases directs with ⟨-, same⟩ | ⟨empty, -⟩
    · exact same
    · exact absurd empty (by decide)
  have path : logPath (ascii "C:\\logs") (ascii "guardian-agent") = ascii "C:\\logs\\guardian-agent.log" := by decide
  rw [given, path] at files
  exact ⟨threads, log, moment, entries, reached, files, calls⟩

end Guardian.Tools
