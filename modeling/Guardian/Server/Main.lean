import Guardian.Model.Metrics
import Guardian.Options.Loop
import Guardian.Tools.Logger

/-! # The server's command line

`main` of the server reads its arguments by their index, as the Agent does, and has one option with a value.
-/

namespace Guardian.Server

open Ipc (Bytes)
open Model (ascii)
open Options (Meaning Reads Leaves Stop applyAll argvAt argvAt_of_lt)
open Tools (Record)

def usageText (programName : Bytes) : Bytes :=
  ascii "Usage: " ++ programName ++ ascii " [--address HOST:PORT]\n" ++ ascii "\n" ++ ascii "Options:\n" ++
    ascii "  --address HOST:PORT  Listening address (default: 127.0.0.1:50051)\n" ++
    ascii "  --help               Show this help and exit\n" ++
    ascii "  --version            Show the server version and exit\n"

def cliInfo (message : Bytes) : Record := (.info, ascii "server.cli", message)

def cliError (message : Bytes) : Record := (.error, ascii "server.cli", message)

section

variable (version : Bytes) (argv : List Bytes)

/-- The loop from an index on. -/
def parseArguments (index : ℕ) (serverAddress : Bytes) : Except (Stop Record) Bytes :=
  if index < argv.length then do
    let argument ← argvAt argv index
    if argument = ascii "--help" then
      let programName ← argvAt argv 0
      throw (.exit 0 [cliInfo (usageText programName)])
    else if argument = ascii "--version" then
      throw (.exit 0 [cliInfo (ascii "AI PC Guardian Server v" ++ version)])
    else if argument = ascii "--address" then
      if index + 1 ≥ argv.length then
        let programName ← argvAt argv 0
        throw (.exit 2 [cliError (ascii "Missing value for --address"), cliError (usageText programName)])
      else
        let value ← argvAt argv (index + 1)
        parseArguments (index + 2) value
    else
      let programName ← argvAt argv 0
      throw (.exit 2 [cliError (ascii "Unknown argument: " ++ argument), cliError (usageText programName)])
  else return serverAddress
termination_by argv.length - index

end

def defaultAddress : Bytes := ascii "127.0.0.1:50051"

/-! ## What the arguments decide -/

section

variable (version program : Bytes)

/-- What an argument means. -/
def meaning (argument : Bytes) : Meaning Bytes Bytes (Stop Record) :=
  if argument = ascii "--help" then .leave (.exit 0 [cliInfo (usageText program)])
  else if argument = ascii "--version" then .leave (.exit 0 [cliInfo (ascii "AI PC Guardian Server v" ++ version)])
  else if argument = ascii "--address" then
    .valued (.exit 2 [cliError (ascii "Missing value for --address"), cliError (usageText program)])
      fun value => .ok fun _ => value
  else .leave (.exit 2 [cliError (ascii "Unknown argument: " ++ argument), cliError (usageText program)])

/-- The arguments begin with what is no whole option, and the program ends for that. -/
inductive Offends : List Bytes → Stop Record → Prop
  | help (rest : List Bytes) : Offends (ascii "--help" :: rest) (.exit 0 [cliInfo (usageText program)])
  | version (rest : List Bytes) :
      Offends (ascii "--version" :: rest) (.exit 0 [cliInfo (ascii "AI PC Guardian Server v" ++ version)])
  | missing : Offends [ascii "--address"]
      (.exit 2 [cliError (ascii "Missing value for --address"), cliError (usageText program)])
  | unknown {argument : Bytes} (rest : List Bytes)
      (unknown : argument ∉ ["--help", "--version", "--address"].map ascii) :
      Offends (argument :: rest)
        (.exit 2 [cliError (ascii "Unknown argument: " ++ argument), cliError (usageText program)])

end

theorem parseArguments_eq (version : Bytes) {program : Bytes} {argv : List Bytes} (first : argv[0]? = some program)
    (index : ℕ) (serverAddress : Bytes) :
    parseArguments version argv index serverAddress =
      Options.parse (meaning version program) (argv.drop index) serverAddress := by
  have named : argvAt argv 0 = (.ok program : Except (Stop Record) Bytes) := by rw [Options.argvAt, first]
  induction left : argv.length - index using Nat.strongRecOn generalizing index serverAddress with
  | ind size ih =>
    rw [parseArguments]
    split
    · next inside =>
      have here : argvAt argv index = (.ok argv[index] : Except (Stop Record) Bytes) := argvAt_of_lt inside
      rw [here, List.drop_eq_getElem_cons inside, Options.parse, meaning, Options.ok_bind]
      split_ifs with help asked address last
      · rw [named]
        rfl
      · rfl
      · rw [List.drop_eq_nil_of_le last, named]
        rfl
      · have value : argvAt argv (index + 1) = (.ok argv[index + 1] : Except (Stop Record) Bytes) :=
          argvAt_of_lt (by omega)
        rw [value, List.drop_eq_getElem_cons (by omega)]
        exact ih _ (by omega) (index + 2) _ rfl
      · rw [named]
        rfl
    · next outside =>
      rw [List.drop_eq_nil_of_le (Nat.le_of_not_lt outside)]
      rfl

/-- The addresses, each behind its option. -/
def renderAddresses (addresses : List Bytes) : List Bytes :=
  addresses.flatMap fun address => [ascii "--address", address]

section

variable {version program : Bytes}

theorem reads_render (addresses : List Bytes) :
    Reads (meaning version program) (renderAddresses addresses) (addresses.map fun address _ => address) := by
  induction addresses with
  | nil => exact .nil
  | cons address rest ih => exact .valued rfl rfl ih

theorem addresses_of_reads {arguments : List Bytes} {changes : List (Bytes → Bytes)}
    (reads : Reads (meaning version program) arguments changes) :
    ∃ addresses : List Bytes, arguments = renderAddresses addresses ∧
      changes = addresses.map fun address _ => address := by
  induction reads with
  | nil => exact ⟨[], rfl, rfl⟩
  | flag means later ih =>
    rw [meaning] at means
    split_ifs at means
  | @valued argument value rest missing take change changes means taken later ih =>
    obtain ⟨addresses, rfl, rfl⟩ := ih
    rw [meaning] at means
    split_ifs at means with help asked address
    cases means
    cases taken
    subst address
    exact ⟨value :: addresses, rfl, rfl⟩

theorem meaning_of_unknown {argument : Bytes}
    (unknown : argument ∉ ["--help", "--version", "--address"].map ascii) :
    meaning version program argument =
      .leave (.exit 2 [cliError (ascii "Unknown argument: " ++ argument), cliError (usageText program)]) := by
  simp only [List.map_cons, List.map_nil, List.mem_cons, List.not_mem_nil, or_false, not_or] at unknown
  obtain ⟨help, asked, address⟩ := unknown
  rw [meaning, if_neg help, if_neg asked, if_neg address]

theorem leaves_iff_offends {arguments : List Bytes} {stop : Stop Record} :
    Leaves (meaning version program) arguments stop ↔ Offends version program arguments stop := by
  constructor
  · intro leaves
    cases leaves with
    | @leave argument rest outcome means =>
      by_cases unknown : argument ∈ ["--help", "--version", "--address"].map ascii
      · simp only [List.map_cons, List.map_nil, List.mem_cons, List.not_mem_nil, or_false] at unknown
        rcases unknown with rfl | rfl | rfl
        · cases means
          exact .help rest
        · cases means
          exact .version rest
        · cases means
      · rw [meaning_of_unknown unknown] at means
        cases means
        exact .unknown rest unknown
    | missing means =>
      rw [meaning] at means
      split_ifs at means with help asked address
      cases means
      subst address
      exact .missing
    | refused means refused =>
      rw [meaning] at means
      split_ifs at means
      cases means
      cases refused
  · intro offends
    cases offends with
    | help rest => exact .leave rfl
    | version rest => exact .leave rfl
    | missing => exact .missing rfl
    | unknown rest unknown => exact .leave (meaning_of_unknown unknown)

end

theorem applyAll_addresses (addresses : List Bytes) (initial : Bytes) :
    applyAll (addresses.map fun address _ => address) initial = addresses.getLast?.getD initial := by
  induction addresses generalizing initial with
  | nil => rfl
  | cons address rest ih => rw [List.map_cons, Options.applyAll_cons, ih, List.getLast?_cons, Option.getD_some]

/-- What the arguments decide. The server is built for the last of the addresses when the arguments are
nothing but addresses behind their option. Otherwise the first argument that is no whole option decides how the
program ends. No argument is read behind the last one. -/
theorem address_decided (version program : Bytes) (arguments : List Bytes) :
    (∀ address, parseArguments version (program :: arguments) 1 defaultAddress = .ok address ↔
      ∃ addresses, arguments = renderAddresses addresses ∧ address = addresses.getLast?.getD defaultAddress) ∧
    ∀ stop, parseArguments version (program :: arguments) 1 defaultAddress = .error stop ↔
      ∃ addresses rest, arguments = renderAddresses addresses ++ rest ∧ Offends version program rest stop := by
  have loop : parseArguments version (program :: arguments) 1 defaultAddress =
      Options.parse (meaning version program) arguments defaultAddress :=
    parseArguments_eq version rfl 1 defaultAddress
  constructor
  · intro address
    rw [loop, Options.parse_eq_ok_iff]
    constructor
    · rintro ⟨changes, reads, rfl⟩
      obtain ⟨addresses, rfl, rfl⟩ := addresses_of_reads reads
      exact ⟨addresses, rfl, applyAll_addresses addresses _⟩
    · rintro ⟨addresses, rfl, rfl⟩
      exact ⟨_, reads_render addresses, (applyAll_addresses addresses _).symm⟩
  · intro stop
    rw [loop, Options.parse_eq_error_iff]
    constructor
    · rintro ⟨front, changes, rest, rfl, reads, leaves⟩
      obtain ⟨addresses, rfl, -⟩ := addresses_of_reads reads
      exact ⟨addresses, rest, rfl, leaves_iff_offends.mp leaves⟩
    · rintro ⟨addresses, rest, rfl, offends⟩
      exact ⟨_, _, rest, rfl, reads_render addresses, leaves_iff_offends.mpr offends⟩

end Guardian.Server
