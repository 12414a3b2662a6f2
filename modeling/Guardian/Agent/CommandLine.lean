import Guardian.Agent.TelemetryRunner
import Guardian.Options.Loop
import Guardian.Tools.Logger

/-! # The command line

`main` reads its arguments by their index. Options may be repeated, and the value of an option is taken as it
is, even when it looks like another option. What the loop leaves behind is checked once more by the
constructor of the runner, whose exceptions nobody catches.
-/

namespace Guardian.Agent

open Ipc (Bytes)
open Model (ascii)
open Options (Stop argvAt argvAt_of_lt)
open Text (decimal fromChars)
open Tools (Record)

def usageText (programName : Bytes) : Bytes :=
  ascii "Usage: " ++ programName ++ ascii " [--server HOST:PORT] [--interval-ms N] [--once]\n" ++ ascii "\n" ++
    ascii "Options:\n" ++
    ascii "  --server HOST:PORT  gRPC server address (default: 127.0.0.1:50051)\n" ++
    ascii "  --interval-ms N     Collection interval in milliseconds (default: 5000)\n" ++
    ascii "  --once              Submit one CPU/RAM pair and exit\n" ++
    ascii "  --help              Show this help and exit\n" ++
    ascii "  --version           Show the agent version and exit\n"

def parsePositiveMilliseconds (text : Bytes) : Option Int64 :=
  let result := fromChars text 0
  if result.ec ≠ none ∨ result.rest ≠ [] ∨ result.value ≤ 0 then none else some result.value

def cliInfo (message : Bytes) : Record := (.info, ascii "agent.cli", message)

def cliError (message : Bytes) : Record := (.error, ascii "agent.cli", message)

/-- The variables of `main` that the options set. -/
structure Parsed where
  serverAddress : Bytes := ascii "127.0.0.1:50051"
  options : RunnerOptions := {}
  once : Bool := false
deriving DecidableEq

section

variable (version : Bytes) (argv : List Bytes)

/-- An option without its value. -/
def missingValue (message : Bytes) : Except (Stop Record) Parsed := do
  let programName ← argvAt argv 0
  throw (.exit 2 [cliError message, cliError (usageText programName)])

/-- The loop from an index on; the number of arguments is the length of the list. -/
def parseArguments (index : ℕ) (parsed : Parsed) : Except (Stop Record) Parsed :=
  if index < argv.length then do
    let argument ← argvAt argv index
    if argument = ascii "--help" then
      let programName ← argvAt argv 0
      throw (.exit 0 [cliInfo (usageText programName)])
    else if argument = ascii "--version" then
      throw (.exit 0 [cliInfo (ascii "AI PC Guardian Agent v" ++ version)])
    else if argument = ascii "--once" then
      parseArguments (index + 1) { parsed with once := true }
    else if argument = ascii "--server" then
      if index + 1 ≥ argv.length then missingValue argv (ascii "Missing value for --server")
      else
        let value ← argvAt argv (index + 1)
        parseArguments (index + 2) { parsed with serverAddress := value }
    else if argument = ascii "--interval-ms" then
      if index + 1 ≥ argv.length then missingValue argv (ascii "Missing value for --interval-ms")
      else
        let value ← argvAt argv (index + 1)
        match parsePositiveMilliseconds value with
        | none => throw (.exit 2 [cliError (ascii "--interval-ms must be a positive integer")])
        | some interval =>
            parseArguments (index + 2)
              { parsed with options := { parsed.options with collectionInterval := interval } }
    else
      let programName ← argvAt argv 0
      throw (.exit 2 [cliError (ascii "Unknown argument: " ++ argument), cliError (usageText programName)])
  else return parsed
termination_by argv.length - index

/-- `main` up to the construction of the runner, with what the constructor returns or throws; the clock has been
cast to milliseconds. -/
def construction (now : Int64) : Except (Stop Record) (Parsed × Bytes × Except Bytes TelemetryRunner) := do
  let parsed ← parseArguments version argv 1 {}
  if parsed.options.cpuSampleInterval > parsed.options.collectionInterval then
    throw (.exit 2
      [cliError (ascii "--interval-ms must be at least " ++ decimal parsed.options.cpuSampleInterval.toInt)])
  else
    let deviceId := ascii "windows-agent-" ++ decimal now.toInt
    return (parsed, deviceId, TelemetryRunner.construct parsed.options deviceId)

end

/-! ## What the loop leaves behind -/

/-- No argument is read behind the last one, and a result has a property. -/
def Safe {α : Type} (holds : α → Prop) : Except (Stop Record) α → Prop
  | .ok value => holds value
  | .error stop => stop ≠ .beyond

theorem Safe.bind {α β : Type} {first : α → Prop} {second : β → Prop} {computation : Except (Stop Record) α}
    {next : α → Except (Stop Record) β} (safe : Safe first computation)
    (later : ∀ value, first value → Safe second (next value)) :
    Safe second (computation >>= next) := by
  cases computation with
  | ok value => exact later value safe
  | error stop => exact safe

theorem Safe.exit {α : Type} {holds : α → Prop} (code : ℕ) (records : List Record) :
    Safe holds (throw (.exit code records)) := by
  intro same
  cases same

theorem Safe.argvAt {argv : List Bytes} {index : ℕ} (inside : index < argv.length) :
    Safe (fun _ => True) (argvAt argv index) := by
  rw [argvAt_of_lt inside]
  trivial

theorem Safe.missingValue {argv : List Bytes} (holds : Parsed → Prop) (nonempty : 0 < argv.length)
    (message : Bytes) : Safe holds (missingValue argv message) :=
  (Safe.argvAt nonempty).bind fun _ _ => .exit _ _

/-- What the constructor relies on, the comparison of the intervals apart. -/
structure Parsed.Sound (parsed : Parsed) : Prop where
  collectionInterval : 0 < parsed.options.collectionInterval
  cpuSampleInterval : 0 < parsed.options.cpuSampleInterval
  requestTimeout : 0 < parsed.options.requestTimeout

theorem parsePositiveMilliseconds_pos {text : Bytes} {interval : Int64}
    (parsed : parsePositiveMilliseconds text = some interval) : 0 < interval := by
  rw [parsePositiveMilliseconds] at parsed
  split at parsed
  · cases parsed
  · next accepted =>
    obtain rfl := Option.some.inj parsed
    rw [not_or, not_or] at accepted
    exact Int64.not_le.mp accepted.2.2

theorem parseArguments_safe (version : Bytes) (argv : List Bytes) (index : ℕ) {parsed : Parsed}
    (sound : parsed.Sound) : Safe Parsed.Sound (parseArguments version argv index parsed) := by
  induction left : argv.length - index using Nat.strongRecOn generalizing index parsed with
  | ind size ih =>
    rw [parseArguments]
    split
    · next inside =>
      refine (Safe.argvAt inside).bind fun argument _ => ?_
      have program : 0 < argv.length := by omega
      split_ifs
      · exact (Safe.argvAt program).bind fun _ _ => .exit _ _
      · exact .exit _ _
      · exact ih _ (by omega) (index + 1) ⟨sound.1, sound.2, sound.3⟩ rfl
      · exact Safe.missingValue _ program _
      · refine (Safe.argvAt (by omega)).bind fun value _ => ?_
        exact ih _ (by omega) (index + 2) ⟨sound.1, sound.2, sound.3⟩ rfl
      · exact Safe.missingValue _ program _
      · refine (Safe.argvAt (by omega)).bind fun value _ => ?_
        split
        · exact .exit _ _
        · next found => exact ih _ (by omega) (index + 2) ⟨parsePositiveMilliseconds_pos found, sound.2, sound.3⟩ rfl
      · exact (Safe.argvAt program).bind fun _ _ => .exit _ _
    · exact sound

/-- A construction that is reached succeeds. -/
structure Constructs (launch : Parsed × Bytes × Except Bytes TelemetryRunner) : Prop where
  collectionInterval : 0 < launch.1.options.collectionInterval
  cpuSampleInterval : 0 < launch.1.options.cpuSampleInterval
  cpuSampleInterval_le : launch.1.options.cpuSampleInterval ≤ launch.1.options.collectionInterval
  requestTimeout : 0 < launch.1.options.requestTimeout
  deviceId : launch.2.1 ≠ []
  /-- The constructor does not throw. -/
  constructed : ∃ runner : TelemetryRunner, launch.2.2 = .ok runner ∧ runner.options = launch.1.options ∧
    runner.deviceId = launch.2.1

theorem construction_constructs (version : Bytes) (argv : List Bytes) (now : Int64) :
    Safe Constructs (construction version argv now) := by
  have defaults : Parsed.Sound {} := ⟨by decide, by decide, by decide⟩
  refine (parseArguments_safe version argv 1 defaults).bind fun parsed sound => ?_
  split
  · exact .exit _ _
  · next within =>
    have ordered : parsed.options.cpuSampleInterval ≤ parsed.options.collectionInterval := Int64.not_lt.mp within
    have named : ascii "windows-agent-" ++ decimal now.toInt ≠ [] := List.append_ne_nil_of_left_ne_nil (by decide) _
    exact ⟨sound.1, sound.2, ordered, sound.3, named,
      ⟨parsed.options, _, sound.1, sound.2, ordered, sound.3, named⟩,
      TelemetryRunner.construct_eq_ok_iff.mpr ⟨rfl, rfl⟩, rfl, rfl⟩

/-- Whatever the arguments are, none is read behind the last one, and when `main` gets to the construction of a
runner, its constructor does not throw. -/
theorem construction_safe (version : Bytes) (argv : List Bytes) (now : Int64) :
    construction version argv now ≠ .error .beyond ∧
      ∀ launch, construction version argv now = .ok launch → Constructs launch := by
  have safe := construction_constructs version argv now
  constructor
  · intro stopped
    rw [stopped] at safe
    exact safe rfl
  · intro launch started
    rw [started] at safe
    exact safe

/-- Options that are repeated, and one that is swallowed as a value. -/
def sampleArguments : List Bytes :=
  ["guardian-agent", "--server", "--help", "--interval-ms", "1", "--once", "--interval-ms", "0750"].map ascii

theorem construction_safe_sample :
    ∃ launch, construction (ascii "0.1") sampleArguments 1773043500007 = .ok launch ∧
      launch.1 = ⟨ascii "--help", { collectionInterval := 750 }, true⟩ ∧ Constructs launch := by
  have taken : (construction (ascii "0.1") sampleArguments 1773043500007).toOption.map Prod.fst =
      some ⟨ascii "--help", { collectionInterval := 750 }, true⟩ := by decide +kernel
  obtain ⟨launch, started, parsed⟩ := Option.map_eq_some_iff.mp taken
  have started : construction (ascii "0.1") sampleArguments 1773043500007 = .ok launch := by
    cases outcome : construction (ascii "0.1") sampleArguments 1773043500007 with
    | ok value => rw [outcome] at started; exact congrArg Except.ok (Option.some.inj started)
    | error stop => rw [outcome] at started; cases started
  exact ⟨launch, started, parsed, (construction_safe _ _ _).2 launch started⟩

end Guardian.Agent
