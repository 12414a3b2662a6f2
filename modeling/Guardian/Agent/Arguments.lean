import Guardian.Agent.CommandLine
import Guardian.Machine.Run
import Guardian.Options.Loop

/-! # What the arguments of the Agent decide

The loop by indices is an option loop. Its arguments are options and values up to the end, of which the last
of each kind counts, or up to the first argument that is no whole option, which decides how the program ends.
-/

namespace Guardian.Agent

open Ipc (Bytes)
open Model (ascii)
open Options (Meaning Reads Leaves Stop applyAll argvAt argvAt_of_lt)
open Text (isDigit digitsValue fromChars FromCharsResult)
open Tools (Record)

/-! ## The text of an interval -/

/-- An interval is a text of decimal digits whose value is positive and fits into 64 bits with a sign. -/
theorem parsePositiveMilliseconds_eq_some_iff {text : Bytes} {interval : Int64} :
    parsePositiveMilliseconds text = some interval ↔
      text ≠ [] ∧ (∀ byte ∈ text, isDigit byte = true) ∧ 0 < interval ∧ interval.toInt = digitsValue text := by
  have accepted : parsePositiveMilliseconds text = some interval ↔
      fromChars text 0 = ⟨[], none, interval⟩ ∧ 0 < interval := by
    rw [parsePositiveMilliseconds]
    obtain ⟨rest, ec, value⟩ := fromChars text 0
    simp only [Option.ite_none_left_eq_some, not_or, Option.some.injEq, not_not, FromCharsResult.mk.injEq, Int64.not_le]
    constructor
    · rintro ⟨⟨rfl, rfl, positive⟩, rfl⟩
      exact ⟨⟨rfl, rfl, rfl⟩, positive⟩
    · rintro ⟨⟨rfl, rfl, rfl⟩, positive⟩
      exact ⟨⟨rfl, rfl, positive⟩, rfl⟩
  rw [accepted, Text.fromChars_whole_iff]
  constructor
  · rintro ⟨⟨digits, nonempty, all, ⟨rfl, exact⟩ | ⟨rfl, exact⟩⟩, positive⟩
    · exact ⟨nonempty, all, positive, exact⟩
    · -- a value behind a sign is not positive
      have value := Int64.lt_iff_toInt_lt.mp positive
      rw [Int64.toInt_zero] at value
      omega
  · rintro ⟨nonempty, all, positive, exact⟩
    exact ⟨⟨text, nonempty, all, .inl ⟨rfl, exact⟩⟩, positive⟩

/-! ## Options -/

/-- A whole option; the text of an interval is one that is accepted. -/
inductive Setting where
  | once
  | server (address : Bytes)
  | interval (text : Bytes) (milliseconds : Int64) (valid : parsePositiveMilliseconds text = some milliseconds)

namespace Setting

def render : Setting → List Bytes
  | once => [ascii "--once"]
  | server address => [ascii "--server", address]
  | interval text .. => [ascii "--interval-ms", text]

def change : Setting → Parsed → Parsed
  | once, parsed => { parsed with once := true }
  | server address, parsed => { parsed with serverAddress := address }
  | interval _ milliseconds _, parsed =>
      { parsed with options := { parsed.options with collectionInterval := milliseconds } }

def address? : Setting → Option Bytes
  | server address => some address
  | _ => none

def milliseconds? : Setting → Option Int64
  | interval _ milliseconds _ => some milliseconds
  | _ => none

def once? : Setting → Option Unit
  | once => some ()
  | _ => none

end Setting

/-- The last option of each kind counts. -/
def Parsed.ofSettings (settings : List Setting) : Parsed where
  serverAddress := (settings.filterMap Setting.address?).getLast?.getD (ascii "127.0.0.1:50051")
  options := { collectionInterval := (settings.filterMap Setting.milliseconds?).getLast?.getD 5000 }
  once := (settings.filterMap Setting.once?).getLast?.isSome

def takeInterval (value : Bytes) : Except (Stop Record) (Parsed → Parsed) :=
  match valid : parsePositiveMilliseconds value with
  | none => .error (.exit 2 [cliError (ascii "--interval-ms must be a positive integer")])
  | some milliseconds => .ok (Setting.interval value milliseconds valid).change

theorem takeInterval_of_valid {text : Bytes} {milliseconds : Int64}
    (valid : parsePositiveMilliseconds text = some milliseconds) :
    takeInterval text = .ok (Setting.interval text milliseconds valid).change := by
  rw [takeInterval]
  split
  · next invalid =>
    rw [valid] at invalid
    cases invalid
  · next other again =>
    obtain rfl := Option.some.inj (valid.symm.trans again)
    rfl

theorem takeInterval_of_invalid {text : Bytes} (invalid : parsePositiveMilliseconds text = none) :
    takeInterval text = .error (.exit 2 [cliError (ascii "--interval-ms must be a positive integer")]) := by
  rw [takeInterval]
  split
  · rfl
  · next other valid =>
    rw [invalid] at valid
    cases valid

section

variable (version program : Bytes)

/-- What an argument means. -/
def meaning (argument : Bytes) : Meaning Bytes Parsed (Stop Record) :=
  if argument = ascii "--help" then .leave (.exit 0 [cliInfo (usageText program)])
  else if argument = ascii "--version" then .leave (.exit 0 [cliInfo (ascii "AI PC Guardian Agent v" ++ version)])
  else if argument = ascii "--once" then .flag Setting.once.change
  else if argument = ascii "--server" then
    .valued (.exit 2 [cliError (ascii "Missing value for --server"), cliError (usageText program)])
      fun value => .ok (Setting.server value).change
  else if argument = ascii "--interval-ms" then
    .valued (.exit 2 [cliError (ascii "Missing value for --interval-ms"), cliError (usageText program)])
      takeInterval
  else
    .leave (.exit 2 [cliError (ascii "Unknown argument: " ++ argument), cliError (usageText program)])

/-- The arguments begin with what is no whole option, and the program ends for that. -/
inductive Offends : List Bytes → Stop Record → Prop
  | help (rest : List Bytes) : Offends (ascii "--help" :: rest) (.exit 0 [cliInfo (usageText program)])
  | version (rest : List Bytes) :
      Offends (ascii "--version" :: rest) (.exit 0 [cliInfo (ascii "AI PC Guardian Agent v" ++ version)])
  | missingServer : Offends [ascii "--server"]
      (.exit 2 [cliError (ascii "Missing value for --server"), cliError (usageText program)])
  | missingInterval : Offends [ascii "--interval-ms"]
      (.exit 2 [cliError (ascii "Missing value for --interval-ms"), cliError (usageText program)])
  | notPositive {text : Bytes} (rest : List Bytes) (invalid : parsePositiveMilliseconds text = none) :
      Offends (ascii "--interval-ms" :: text :: rest)
        (.exit 2 [cliError (ascii "--interval-ms must be a positive integer")])
  | unknown {argument : Bytes} (rest : List Bytes)
      (unknown : argument ∉ ["--help", "--version", "--once", "--server", "--interval-ms"].map ascii) :
      Offends (argument :: rest)
        (.exit 2 [cliError (ascii "Unknown argument: " ++ argument), cliError (usageText program)])

end

/-! ## The loop by indices -/

theorem parseArguments_eq (version : Bytes) {program : Bytes} {argv : List Bytes} (first : argv[0]? = some program)
    (index : ℕ) (parsed : Parsed) :
    parseArguments version argv index parsed = Options.parse (meaning version program) (argv.drop index) parsed := by
  have named : argvAt argv 0 = (.ok program : Except (Stop Record) Bytes) := by rw [Options.argvAt, first]
  induction left : argv.length - index using Nat.strongRecOn generalizing index parsed with
  | ind size ih =>
    rw [parseArguments]
    split
    · next inside =>
      have here : argvAt argv index = (.ok argv[index] : Except (Stop Record) Bytes) := argvAt_of_lt inside
      rw [here, List.drop_eq_getElem_cons inside, Options.parse, meaning, Options.ok_bind]
      split_ifs with help asked once server last interval last
      · rw [named]
        rfl
      · rfl
      · exact ih _ (by omega) (index + 1) _ rfl
      · rw [List.drop_eq_nil_of_le last, missingValue, named]
        rfl
      · have value : argvAt argv (index + 1) = (.ok argv[index + 1] : Except (Stop Record) Bytes) :=
          argvAt_of_lt (by omega)
        rw [value, List.drop_eq_getElem_cons (by omega)]
        exact ih _ (by omega) (index + 2) _ rfl
      · rw [List.drop_eq_nil_of_le last, missingValue, named]
        rfl
      · have value : argvAt argv (index + 1) = (.ok argv[index + 1] : Except (Stop Record) Bytes) :=
          argvAt_of_lt (by omega)
        rw [value, List.drop_eq_getElem_cons (by omega), Options.ok_bind]
        cases valid : parsePositiveMilliseconds argv[index + 1] with
        | none =>
          simp only [takeInterval_of_invalid valid]
          rfl
        | some milliseconds =>
          simp only [takeInterval_of_valid valid]
          exact ih _ (by omega) (index + 2) _ rfl
      · rw [named]
        rfl
    · next outside =>
      rw [List.drop_eq_nil_of_le (Nat.le_of_not_lt outside)]
      rfl

/-! ## Whole options -/

section

variable {version program : Bytes}

/-- What each option means to the loop. -/
theorem meaning_render (setting : Setting) (rest : List Bytes) {changes : List (Parsed → Parsed)}
    (later : Reads (meaning version program) rest changes) :
    Reads (meaning version program) (setting.render ++ rest) (setting.change :: changes) := by
  cases setting with
  | once => exact .flag rfl later
  | server address => exact .valued rfl rfl later
  | interval text milliseconds valid => exact .valued rfl (takeInterval_of_valid valid) later

theorem reads_render (settings : List Setting) :
    Reads (meaning version program) (settings.flatMap Setting.render) (settings.map Setting.change) := by
  induction settings with
  | nil => exact .nil
  | cons setting rest ih => exact meaning_render setting _ ih

theorem settings_of_reads {arguments : List Bytes} {changes : List (Parsed → Parsed)}
    (reads : Reads (meaning version program) arguments changes) :
    ∃ settings : List Setting, arguments = settings.flatMap Setting.render ∧ changes = settings.map Setting.change := by
  induction reads with
  | nil => exact ⟨[], rfl, rfl⟩
  | flag means later ih =>
    obtain ⟨settings, rfl, rfl⟩ := ih
    rw [meaning] at means
    split_ifs at means with help asked once server interval
    cases means
    subst once
    exact ⟨.once :: settings, rfl, rfl⟩
  | @valued argument value rest missing take change changes means taken later ih =>
    obtain ⟨settings, rfl, rfl⟩ := ih
    rw [meaning] at means
    split_ifs at means with help asked once server interval
    · cases means
      cases taken
      subst server
      exact ⟨.server value :: settings, rfl, rfl⟩
    · cases means
      subst interval
      cases valid : parsePositiveMilliseconds value with
      | none =>
        rw [takeInterval_of_invalid valid] at taken
        cases taken
      | some milliseconds =>
        rw [takeInterval_of_valid valid] at taken
        cases taken
        exact ⟨.interval value milliseconds valid :: settings, rfl, rfl⟩

theorem meaning_of_unknown {argument : Bytes}
    (unknown : argument ∉ ["--help", "--version", "--once", "--server", "--interval-ms"].map ascii) :
    meaning version program argument =
      .leave (.exit 2 [cliError (ascii "Unknown argument: " ++ argument), cliError (usageText program)]) := by
  simp only [List.map_cons, List.map_nil, List.mem_cons, List.not_mem_nil, or_false, not_or] at unknown
  obtain ⟨help, asked, once, server, interval⟩ := unknown
  rw [meaning, if_neg help, if_neg asked, if_neg once, if_neg server, if_neg interval]

theorem leaves_iff_offends {arguments : List Bytes} {stop : Stop Record} :
    Leaves (meaning version program) arguments stop ↔ Offends version program arguments stop := by
  constructor
  · intro leaves
    cases leaves with
    | @leave argument rest outcome means =>
      by_cases unknown : argument ∈ ["--help", "--version", "--once", "--server", "--interval-ms"].map ascii
      · simp only [List.map_cons, List.map_nil, List.mem_cons, List.not_mem_nil, or_false] at unknown
        rcases unknown with rfl | rfl | rfl | rfl | rfl
        · cases means
          exact .help rest
        · cases means
          exact .version rest
        · cases means
        · cases means
        · cases means
      · rw [meaning_of_unknown unknown] at means
        cases means
        exact .unknown rest unknown
    | missing means =>
      rw [meaning] at means
      split_ifs at means with help asked once server interval
      · cases means
        subst server
        exact .missingServer
      · cases means
        subst interval
        exact .missingInterval
    | @refused argument value rest missing outcome take means refused =>
      rw [meaning] at means
      split_ifs at means with help asked once server interval
      · cases means
        cases refused
      · cases means
        subst interval
        cases valid : parsePositiveMilliseconds value with
        | none =>
          rw [takeInterval_of_invalid valid] at refused
          cases refused
          exact .notPositive rest valid
        | some milliseconds =>
          rw [takeInterval_of_valid valid] at refused
          cases refused
  · intro offends
    cases offends with
    | help rest => exact .leave rfl
    | version rest => exact .leave rfl
    | missingServer => exact .missing rfl
    | missingInterval => exact .missing rfl
    | notPositive rest invalid => exact .refused rfl (takeInterval_of_invalid invalid)
    | unknown rest unknown => exact .leave (meaning_of_unknown unknown)

end

/-! ## The last option counts -/

theorem Parsed.ofSettings_concat (settings : List Setting) (setting : Setting) :
    ofSettings (settings ++ [setting]) = setting.change (ofSettings settings) := by
  cases setting <;>
    simp [ofSettings, Setting.change, Setting.address?, Setting.milliseconds?, Setting.once?, List.filterMap_append]

/-- What whole options leave behind. -/
theorem applyAll_settings (settings : List Setting) :
    applyAll (settings.map Setting.change) {} = Parsed.ofSettings settings := by
  induction settings using List.reverseRecOn with
  | nil => rfl
  | append_singleton settings setting ih =>
    rw [Parsed.ofSettings_concat, ← ih, applyAll, applyAll, List.map_append, List.foldl_append]
    rfl

/-- What the arguments decide. The loop comes to its end exactly for sequences of whole options, and the last
option of each kind counts. Otherwise the first argument that is no whole option decides how the program ends,
whatever stands behind it. An interval is accepted exactly when it is a text of digits with a positive value that
fits. The runner is constructed exactly when the interval that counts is at least the sampling interval. -/
theorem arguments_decided (version program : Bytes) (arguments : List Bytes) :
    (∀ parsed, parseArguments version (program :: arguments) 1 {} = .ok parsed ↔
      ∃ settings : List Setting, arguments = settings.flatMap Setting.render ∧ parsed = .ofSettings settings) ∧
    (∀ stop, parseArguments version (program :: arguments) 1 {} = .error stop ↔
      ∃ (settings : List Setting) (rest : List Bytes), arguments = settings.flatMap Setting.render ++ rest ∧
        Offends version program rest stop) ∧
    (∀ text interval, parsePositiveMilliseconds text = some interval ↔ text ≠ [] ∧
      (∀ byte ∈ text, isDigit byte = true) ∧ 0 < interval ∧ interval.toInt = digitsValue text) ∧
    ∀ now, (∃ launch, construction version (program :: arguments) now = .ok launch) ↔
      ∃ settings : List Setting, arguments = settings.flatMap Setting.render ∧
        500 ≤ (Parsed.ofSettings settings).options.collectionInterval := by
  have loop : parseArguments version (program :: arguments) 1 {} =
      Options.parse (meaning version program) arguments {} := parseArguments_eq version rfl 1 {}
  have ended (parsed : Parsed) : parseArguments version (program :: arguments) 1 {} = .ok parsed ↔
      ∃ settings : List Setting, arguments = settings.flatMap Setting.render ∧ parsed = .ofSettings settings := by
    rw [loop, Options.parse_eq_ok_iff]
    constructor
    · rintro ⟨changes, reads, rfl⟩
      obtain ⟨settings, rfl, rfl⟩ := settings_of_reads reads
      exact ⟨settings, rfl, applyAll_settings settings⟩
    · rintro ⟨settings, rfl, rfl⟩
      exact ⟨_, reads_render settings, (applyAll_settings settings).symm⟩
  refine ⟨ended, fun stop => ?_, fun _ _ => parsePositiveMilliseconds_eq_some_iff, fun now => ?_⟩
  · rw [loop, Options.parse_eq_error_iff]
    constructor
    · rintro ⟨front, changes, rest, rfl, reads, leaves⟩
      obtain ⟨settings, rfl, -⟩ := settings_of_reads reads
      exact ⟨settings, rest, rfl, leaves_iff_offends.mp leaves⟩
    · rintro ⟨settings, rest, rfl, offends⟩
      exact ⟨_, _, rest, rfl, reads_render settings, leaves_iff_offends.mpr offends⟩
  · cases outcome : parseArguments version (program :: arguments) 1 {} with
    | error stop =>
      refine iff_of_false ?_ ?_
      · rintro ⟨launch, started⟩
        rw [construction, outcome] at started
        cases started
      · rintro ⟨settings, same, -⟩
        rw [(ended _).mpr ⟨settings, same, rfl⟩] at outcome
        cases outcome
    | ok parsed =>
      obtain ⟨settings, same, rfl⟩ := (ended parsed).mp outcome
      have started : (∃ launch, construction version (program :: arguments) now = .ok launch) ↔
          500 ≤ (Parsed.ofSettings settings).options.collectionInterval := by
        rw [construction, outcome, Options.ok_bind]
        split_ifs with short
        · exact iff_of_false (fun ⟨_, started⟩ => nomatch started) (Int64.not_le.mpr short)
        · exact iff_of_true ⟨_, rfl⟩ (Int64.not_lt.mp short)
      rw [started]
      constructor
      · exact fun long => ⟨settings, same, long⟩
      · rintro ⟨others, again, long⟩
        have equal := (ended _).mpr ⟨others, again, rfl⟩
        rw [outcome] at equal
        rwa [Except.ok.inj equal]

end Guardian.Agent
