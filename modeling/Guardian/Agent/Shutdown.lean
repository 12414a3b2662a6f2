import Guardian.Agent.IpcServer
import Guardian.Proto.Codec

/-! # Stopping the server

`stop` sets the flag, opens the pipe once, cancels the call that the worker is in, and joins the thread. The
worker looks at the flag before each blocking call, but looking and calling are two steps. The pipe is kept
as far as it decides whether a call waits: who has opened it, what the client has written, and what it has
not yet read. Of Windows it is assumed that a cancel ends only a call that is under way, and that the
wake-up opens only an instance that exists and that nobody has opened.
-/

namespace Guardian.Agent

open Ipc (Bytes frameDecoder)
open Machine (run run_cons run_singleton run_invariant Meets Inevitable)
open Proto (Libraries)

variable {Double : Type}

def pipeBufferSize : ℕ := 64 * 1024

/-- The other end of the pipe. It is closed for good. -/
inductive Peer where
  | nobody
  | client
  | closed
deriving DecidableEq

/-- An instance of the pipe, with the bytes that the worker has not read yet and the number of those that it
has offered and the client has not read. -/
structure Pipe where
  peer : Peer := .nobody
  up : Bytes := []
  unread : ℕ := 0
deriving DecidableEq

/-- The next call of `stop`. -/
inductive Stopper where
  | setFlag
  | wake
  | cancel
  | join
  | returned
deriving DecidableEq

/-- What a client does, in any order and at any time, or never. -/
inductive ClientCall where
  | createFile
  | writeFile (data : Bytes)
  | readFile (count : ℕ)
  | closeHandle

/-- The worker, the thread in `stop`, and the client take turns. -/
inductive Turn (Double : Type) where
  | worker (answer : Answer Double)
  | stop
  | client (call : ClientCall)

def Turn.isWorker : Turn Double → Prop
  | .worker _ => True
  | _ => False

/-- The worker and its surroundings while the server is stopped. The call that the worker is in is late when
it was entered after the cancel, and aborted when the cancel has found it. -/
structure Shutdown where
  worker : Worker := {}
  pipe : Option Pipe := none
  stopper : Stopper := .setFlag
  late : Bool := false
  aborted : Bool := false
deriving DecidableEq

/-- The call in front of which the worker stands. -/
def Pc.called : Pc → Option Pc
  | .callConnect => some .inConnect
  | .callRead => some .inRead
  | .callWrite => some .inWrite
  | _ => none

/-- The worker is inside a blocking call. -/
def Pc.isInside : Pc → Bool
  | .inConnect | .inRead | .inWrite => true
  | _ => false

theorem Pc.called_cases {pc next : Pc} (called : pc.called = some next) :
    pc = .callConnect ∧ next = .inConnect ∨ pc = .callRead ∧ next = .inRead ∨
      pc = .callWrite ∧ next = .inWrite := by
  cases pc <;> simp_all [Pc.called]

theorem Pc.not_inside {pc next : Pc} (called : pc.called = some next) : pc.isInside = false := by
  rcases called_cases called with ⟨rfl, -⟩ | ⟨rfl, -⟩ | ⟨rfl, -⟩ <;> rfl

/-- What is left of the response. -/
def Worker.remaining (worker : Worker) : ℕ := worker.responseFrame.length - worker.totalWritten

namespace Pipe

def clientMoved (pipe : Pipe) : ClientCall → Option Pipe
  | .createFile => if pipe.peer = .nobody then some { pipe with peer := .client } else none
  | .writeFile data => if pipe.peer = .client then some { pipe with up := pipe.up ++ data } else none
  | .readFile count =>
      if pipe.peer = .client ∧ count ≤ pipe.unread then some { pipe with unread := pipe.unread - count }
      else none
  | .closeHandle => if pipe.peer = .client then some { pipe with peer := .closed } else none

/-- The call that the worker is in, or in front of, waits for somebody at the other end: a client has to
come, to write, or to make room in the buffer. -/
def waits (pipe : Pipe) (worker : Worker) : Bool :=
  match worker.pc with
  | .callConnect | .inConnect => pipe.peer = .nobody
  | .callRead | .inRead => pipe.peer = .client && pipe.up.isEmpty
  | .callWrite => pipe.peer = .client && pipeBufferSize < pipe.unread + worker.remaining
  | .inWrite => pipe.peer = .client && pipeBufferSize < pipe.unread
  | _ => false

end Pipe

namespace Shutdown

def stopRequested (state : Shutdown) : Bool := state.stopper ≠ .setFlag

def waits (state : Shutdown) : Bool := state.pipe.any fun pipe => pipe.waits state.worker

/-- A call returns when it is aborted or has nothing to wait for. The flag is read as it is, and bytes are
read in their order. -/
def workerCan (state : Shutdown) : Answer Double → Bool
  | .stopRequested value => value = state.stopRequested
  | .clientConnected ok =>
      (state.aborted || !state.waits) && (!ok || state.pipe.any fun pipe => pipe.peer ≠ .nobody)
  | .readReturned .failed => state.aborted || !state.waits
  | .readReturned (.bytes data) => !state.waits && state.pipe.any fun pipe => data.isPrefixOf pipe.up
  | .writeReturned _ => state.aborted || !state.waits
  | _ => true

/-- What the step of the worker does to the pipe; the handle is closed on the way back to the outer loop. -/
def pipeMoved (state : Shutdown) (answer : Answer Double) (next : Worker) : Option Pipe :=
  if next.pc = .loopCheck ∨ next.pc = .finished then none
  else
    match answer with
    | .pipeCreated true => some {}
    | .proceed =>
        if next.pc = .inWrite then
          state.pipe.map fun pipe => { pipe with unread := pipe.unread + state.worker.remaining }
        else state.pipe
    | .readReturned (.bytes data) => state.pipe.map fun pipe => { pipe with up := pipe.up.drop data.length }
    | .writeReturned (.wrote count) =>
        state.pipe.map fun pipe => { pipe with unread := pipe.unread - (state.worker.remaining - count) }
    | _ => state.pipe

def workerMoved (state : Shutdown) (answer : Answer Double) (next : Worker) : Shutdown :=
  { state with
    worker := next
    pipe := state.pipeMoved answer next
    late := next.pc.isInside && state.stopper = .join
    aborted := false }

/-- `wake_pipe_listener` opens the pipe and closes it again. -/
def wakePipeListener (pipe : Pipe) : Pipe :=
  if pipe.peer = .nobody then { pipe with peer := .closed } else pipe

def stop (state : Shutdown) : Option Shutdown :=
  match state.stopper with
  | .setFlag => some { state with stopper := .wake }
  | .wake => some { state with stopper := .cancel, pipe := state.pipe.map wakePipeListener }
  | .cancel => some { state with stopper := .join, aborted := state.worker.pc.isInside }
  | .join => if state.worker.pc = .finished then some { state with stopper := .returned } else none
  | .returned => none

def step (lib : Libraries Double) (state : Shutdown) : Turn Double → Option Shutdown
  | .worker answer =>
      if state.workerCan answer then (state.worker.step lib answer).map (state.workerMoved answer) else none
  | .stop => state.stop
  | .client call => (state.pipe.bind (·.clientMoved call)).map fun pipe => { state with pipe := some pipe }

/-- `stop` waits in `join` for a worker that waits, in a call entered after the cancel, for a client. -/
def LostWakeup (state : Shutdown) : Prop :=
  state.stopper = .join ∧ state.late = true ∧ state.waits = true

/-- The cancel finds the worker neither between the check of the flag and the creation of the pipe, nor in
front of a call that waits. -/
def Caught (state : Shutdown) : Prop :=
  state.worker.pc ≠ .createPipe ∧ (state.waits = true → state.worker.pc.isInside = true)

/-- A cancel finds the worker well. -/
def Timely (state : Shutdown) : Turn Double → Prop
  | .stop => state.stopper = .cancel → state.Caught
  | _ => True

end Shutdown

/-! ## The worker once the flag is set -/

namespace Worker

variable {lib : Libraries Double} {worker next : Worker} {answer : Answer Double}

/-- How far the worker is from its end: the places in their order, after the bytes that it has or may still
take up. -/
def rank (worker : Worker) : ℕ :=
  20 * (worker.receiveBuffer.length + if worker.pc = .callRead ∨ worker.pc = .inRead then readSize else 0) +
    match worker.pc with
    | .finished => 0
    | .loopCheck => 1
    | .sleeping | .closePipe => 2
    | .createFailed | .connectReturned _ | .readCheck => 3
    | .decode | .inConnect => 4
    | .callConnect | .processed _ | .inRead => 5
    | .createPipe | .writeCheck | .callRead => 6
    | .start | .respond | .inWrite => 7
    | .callWrite => 8

/-- With the flag set, every step of the worker is a step to its end. -/
theorem rank_lt (taken : Step lib worker answer next)
    (stop : ∀ value, answer = .stopRequested value → value = true) :
    next.rank < worker.rank := by
  cases taken with
  | decode place =>
    rcases decodePass_cases lib worker with ⟨back, buffer⟩ | ⟨further | refused, buffer⟩
    · simp [rank, place, back, buffer]
    · simp only [rank, place, further]
      simp
      omega
    · simp only [rank, place, refused]
      simp
      omega
  | @read data place nonempty bounded =>
    simp [rank, place]
    omega
  | readFailed place | readEmpty place =>
    simp [rank, place]
    omega
  | processed ok place => cases ok <;> simp [rank, place]
  | start valid place => cases valid <;> simp [rank, place]
  | createPipe ok place => cases ok <;> simp [rank, place]
  | connected place => simp at stop
  | connectFailed place => simp at stop
  | loopCheck value place | createFailed value place | readCheck value place | writeCheck value place =>
    obtain rfl := stop value rfl
    simp [rank, place]
  | _ => simp_all [rank]

/-- With the flag set, the worker makes no new pipe, and stands in front of no call; it enters the one in
front of which it stands. -/
theorem step_called (taken : Step lib worker answer next)
    (stop : ∀ value, answer = .stopRequested value → value = true)
    (created : worker.pc ≠ .createPipe) : next.pc ≠ .createPipe ∧
      (next.pc.called = none ∧ next.pc.isInside = false ∨
        worker.pc.called = some next.pc ∧ answer = .proceed ∧ next = { worker with pc := next.pc }) := by
  cases taken with
  | decode place =>
    rcases decodePass_cases lib worker with ⟨back, -⟩ | ⟨further | refused, -⟩
    · simp [back, Pc.called, Pc.isInside]
    · simp [further, Pc.called, Pc.isInside]
    · simp [refused, Pc.called, Pc.isInside]
  | createPipe ok place => exact absurd place created
  | processed ok place => cases ok <;> simp [Pc.called, Pc.isInside]
  | start valid place => cases valid <;> simp [Pc.called, Pc.isInside]
  | connected place => simp at stop
  | connectFailed place => simp at stop
  | loopCheck value place | createFailed value place | readCheck value place | writeCheck value place =>
    obtain rfl := stop value rfl
    simp [Pc.called, Pc.isInside]
  | callConnect place | callRead place | callWrite place => simp [place, Pc.called]
  | _ => simp [Pc.called, Pc.isInside]

end Worker

namespace Shutdown

variable {lib : Libraries Double} {state next : Shutdown}

/-! ## What a turn does -/

theorem worker_eq_some_iff {answer : Answer Double} : state.step lib (.worker answer) = some next ↔
    ∃ worker, state.workerCan answer = true ∧ Worker.Step lib state.worker answer worker ∧
      next = state.workerMoved answer worker := by
  simp only [Shutdown.step, Option.ite_none_right_eq_some, Option.map_eq_some_iff, Worker.step_eq_some_iff]
  constructor
  · rintro ⟨possible, worker, moved, rfl⟩
    exact ⟨worker, possible, moved, rfl⟩
  · rintro ⟨worker, possible, moved, rfl⟩
    exact ⟨possible, worker, moved, rfl⟩

/-- Where the worker cannot take a step, none of its turns happens. -/
theorem stuck_of_worker
    (never : ∀ answer worker, state.workerCan answer = true → ¬Worker.Step lib state.worker answer worker)
    {turn : Turn Double} (kind : turn.isWorker) : state.step lib turn = none := by
  cases turn with
  | worker answer =>
    by_contra moved
    obtain ⟨next, moved⟩ := Option.ne_none_iff_exists'.mp moved
    obtain ⟨worker, possible, taken, -⟩ := worker_eq_some_iff.mp moved
    exact never answer worker possible taken
  | stop => cases kind
  | client call => cases kind

theorem client_eq_some_iff {call : ClientCall} : state.step lib (.client call) = some next ↔
    ∃ old pipe, state.pipe = some old ∧ old.clientMoved call = some pipe ∧ next = { state with pipe := some pipe } := by
  simp only [Shutdown.step, Option.map_eq_some_iff, Option.bind_eq_some_iff]
  constructor
  · rintro ⟨pipe, ⟨old, held, moved⟩, rfl⟩
    exact ⟨old, pipe, held, moved, rfl⟩
  · rintro ⟨old, pipe, held, moved, rfl⟩
    exact ⟨pipe, ⟨old, held, moved⟩, rfl⟩

/-! ## What holds in every run -/

theorem waits_iff : state.waits = true ↔ ∃ pipe, state.pipe = some pipe ∧ pipe.waits state.worker = true := by
  simp [waits, Option.any_eq_true]

/-- Only a worker that waits for a client has a pipe that nobody has opened; a call is late or aborted after
the cancel, and never both. -/
structure Sound (state : Shutdown) : Prop where
  opened : ∀ pipe, state.pipe = some pipe → pipe.peer = .nobody → state.worker.pc = .callConnect ∨
    state.worker.pc = .inConnect ∨ state.worker.pc = .connectReturned false
  late : state.late = true →
    (state.stopper = .join ∨ state.stopper = .returned) ∧ state.worker.pc.isInside = true ∧
      state.aborted = false
  aborted : state.aborted = true → state.worker.pc.isInside = true

/-- The pipe of the next state is new, or the one that was there with the same other end. -/
theorem pipeMoved_eq_some {worker : Worker} {answer : Answer Double} {pipe : Pipe}
    (same : state.pipeMoved answer worker = some pipe) :
    worker.pc ≠ .loopCheck ∧ worker.pc ≠ .finished ∧
      (answer = .pipeCreated true ∨ ∃ old, state.pipe = some old ∧ pipe.peer = old.peer) := by
  simp only [pipeMoved] at same
  split at same
  · cases same
  · next open_ =>
    refine ⟨fun here => open_ (.inl here), fun here => open_ (.inr here), ?_⟩
    split at same
    · exact .inl rfl
    · split at same
      · obtain ⟨old, held, rfl⟩ := Option.map_eq_some_iff.mp same
        exact .inr ⟨old, held, rfl⟩
      · exact .inr ⟨pipe, same, rfl⟩
    · obtain ⟨old, held, rfl⟩ := Option.map_eq_some_iff.mp same
      exact .inr ⟨old, held, rfl⟩
    · obtain ⟨old, held, rfl⟩ := Option.map_eq_some_iff.mp same
      exact .inr ⟨old, held, rfl⟩
    · exact .inr ⟨pipe, same, rfl⟩

theorem Sound.worker {answer : Answer Double} {worker : Worker} (sound : Sound state)
    (possible : state.workerCan answer = true) (taken : Worker.Step lib state.worker answer worker) :
    Sound (state.workerMoved answer worker) where
  opened pipe same nobody := by
    obtain ⟨inside, unfinished, ⟨rfl⟩ | ⟨old, held, peer⟩⟩ := pipeMoved_eq_some same
    · cases taken with
      | createPipe => exact .inl rfl
    · rcases sound.opened old held (peer ▸ nobody) with place | place | place
      all_goals cases taken <;> simp_all [workerMoved, workerCan]
  late late := by
    simp only [workerMoved, Bool.and_eq_true, decide_eq_true_eq] at late
    exact ⟨.inl late.2, late.1, rfl⟩
  aborted aborted := by simp [workerMoved] at aborted

theorem Sound.stop (sound : Sound state) (taken : state.stop = some next) : Sound next := by
  obtain ⟨opened, late, aborted⟩ := sound
  rw [Shutdown.stop] at taken
  cases place : state.stopper with
  | setFlag =>
    simp only [place, Option.some.injEq, reduceCtorEq, or_self, false_and, imp_false] at taken late
    subst taken
    exact ⟨opened, by simp [late], aborted⟩
  | wake =>
    simp only [place, Option.some.injEq, reduceCtorEq, or_self, false_and, imp_false] at taken late
    subst taken
    refine ⟨fun pipe same nobody => ?_, by simp [late], aborted⟩
    obtain ⟨old, held, rfl⟩ := Option.map_eq_some_iff.mp same
    rw [wakePipeListener] at nobody
    split at nobody
    · cases nobody
    · next other => exact absurd nobody other
  | cancel =>
    simp only [place, Option.some.injEq, reduceCtorEq, or_self, false_and, imp_false] at taken late
    subst taken
    exact ⟨opened, by simp [late], id⟩
  | join =>
    obtain ⟨-, same⟩ := Option.ite_none_right_eq_some.mp (by simpa only [place] using taken)
    obtain rfl := Option.some.inj same
    exact ⟨opened, fun here => ⟨.inr rfl, (late here).2⟩, aborted⟩
  | returned => simp [place] at taken

/-- A client that does something has opened the pipe. -/
theorem clientMoved_peer {call : ClientCall} {old pipe : Pipe} (moved : old.clientMoved call = some pipe) :
    pipe.peer ≠ .nobody := by
  cases call with
  | createFile | closeHandle =>
    obtain ⟨-, same⟩ := Option.ite_none_right_eq_some.mp moved
    obtain rfl := Option.some.inj same
    simp
  | writeFile data =>
    obtain ⟨client, same⟩ := Option.ite_none_right_eq_some.mp moved
    obtain rfl := Option.some.inj same
    simp [client]
  | readFile count =>
    obtain ⟨⟨client, -⟩, same⟩ := Option.ite_none_right_eq_some.mp moved
    obtain rfl := Option.some.inj same
    simp [client]

theorem Sound.client {call : ClientCall} {old pipe : Pipe} (sound : Sound state)
    (moved : old.clientMoved call = some pipe) : Sound { state with pipe := some pipe } where
  opened other same nobody := by
    obtain rfl := Option.some.inj same
    exact absurd nobody (clientMoved_peer moved)
  late := sound.late
  aborted := sound.aborted

theorem Sound.step {turn : Turn Double} (sound : Sound state) (taken : state.step lib turn = some next) :
    Sound next := by
  cases turn with
  | worker answer =>
    obtain ⟨worker, possible, moved, rfl⟩ := worker_eq_some_iff.mp taken
    exact sound.worker possible moved
  | stop => exact sound.stop taken
  | client call =>
    obtain ⟨old, pipe, -, moved, rfl⟩ := client_eq_some_iff.mp taken
    exact sound.client moved

theorem sound_initial : Sound {} := ⟨by simp, by simp, by simp⟩

/-! ## After a cancel that is in time -/

/-- The worker is on its way to its end: it makes no new pipe, and a call that waits has been aborted. -/
structure Winding (state : Shutdown) : Prop where
  joined : state.stopper = .join ∨ state.stopper = .returned
  created : state.worker.pc ≠ .createPipe
  found : state.waits = true → state.aborted = true

theorem Winding.requested (winding : Winding state) : state.stopRequested = true := by
  rcases winding.joined with here | here <;> simp [stopRequested, here]

theorem not_waits {worker : Worker} (pipe : Pipe) (called : worker.pc.called = none)
    (outside : worker.pc.isInside = false) : pipe.waits worker = false := by
  cases place : worker.pc <;> simp_all [Pipe.waits, Pc.called, Pc.isInside]

/-- A call that is entered waits as it did before. -/
theorem entered_waits {pc : Pc} (called : state.worker.pc.called = some pc) :
    (state.workerMoved (.proceed : Answer Double) { state.worker with pc }).waits = state.waits := by
  cases held : state.pipe <;>
    rcases Pc.called_cases called with ⟨place, rfl⟩ | ⟨place, rfl⟩ | ⟨place, rfl⟩ <;>
    simp [waits, workerMoved, pipeMoved, held, Pipe.waits, place]

theorem Winding.worker {answer : Answer Double} {worker : Worker} (sound : Sound state)
    (winding : Winding state)
    (possible : state.workerCan answer = true) (taken : Worker.Step lib state.worker answer worker) :
    Winding (state.workerMoved answer worker) := by
  have stop (value : Bool) (asked : answer = .stopRequested value) : value = true := by
    subst asked
    simpa [workerCan, winding.requested] using possible
  obtain ⟨created, outside | ⟨called, rfl, same⟩⟩ := Worker.step_called taken stop winding.created
  · refine ⟨winding.joined, created, fun waiting => ?_⟩
    obtain ⟨pipe, -, waiting⟩ := waits_iff.mp waiting
    rw [workerMoved, not_waits pipe outside.1 outside.2] at waiting
    cases waiting
  · refine ⟨winding.joined, created, fun waiting => ?_⟩
    rw [same, entered_waits called] at waiting
    have inside := sound.aborted (winding.found waiting)
    rw [Pc.not_inside called] at inside
    cases inside

theorem Winding.client {call : ClientCall} {old pipe : Pipe} (sound : Sound state) (winding : Winding state)
    (held : state.pipe = some old) (moved : old.clientMoved call = some pipe) :
    Winding { state with pipe := some pipe } := by
  refine ⟨winding.joined, winding.created, fun waiting => winding.found (waits_iff.mpr ⟨old, held, ?_⟩)⟩
  obtain ⟨_, same, waiting⟩ := waits_iff.mp waiting
  obtain rfl := Option.some.inj same
  cases call with
  | createFile =>
    obtain ⟨nobody, same⟩ := Option.ite_none_right_eq_some.mp moved
    obtain rfl := Option.some.inj same
    rcases sound.opened old held nobody with place | place | place <;> simp [Pipe.waits, place] at waiting
  | writeFile data =>
    obtain ⟨client, same⟩ := Option.ite_none_right_eq_some.mp moved
    obtain rfl := Option.some.inj same
    cases place : state.worker.pc <;> simp_all [Pipe.waits]
  | readFile count =>
    obtain ⟨⟨client, -⟩, same⟩ := Option.ite_none_right_eq_some.mp moved
    obtain rfl := Option.some.inj same
    cases place : state.worker.pc <;> simp_all [Pipe.waits] <;> omega
  | closeHandle =>
    obtain ⟨client, same⟩ := Option.ite_none_right_eq_some.mp moved
    obtain rfl := Option.some.inj same
    cases place : state.worker.pc <;> simp_all [Pipe.waits]

theorem Winding.step {turn : Turn Double} (sound : Sound state) (winding : Winding state)
    (taken : state.step lib turn = some next) : Winding next := by
  cases turn with
  | worker answer =>
    obtain ⟨worker, possible, moved, rfl⟩ := worker_eq_some_iff.mp taken
    exact winding.worker sound possible moved
  | stop =>
    rw [Shutdown.step, Shutdown.stop] at taken
    rcases winding.joined with place | place
    · obtain ⟨-, same⟩ := Option.ite_none_right_eq_some.mp (by simpa only [place] using taken)
      obtain rfl := Option.some.inj same
      exact ⟨.inr rfl, winding.created, winding.found⟩
    · simp [place] at taken
  | client call =>
    obtain ⟨old, pipe, held, moved, rfl⟩ := client_eq_some_iff.mp taken
    exact winding.client sound held moved

/-- What the cancel leaves behind it. -/
theorem Caught.winding (caught : state.Caught) (due : state.stopper = .cancel)
    (taken : state.stop = some next) :
    Winding next := by
  obtain ⟨created, found⟩ := caught
  rw [Shutdown.stop] at taken
  obtain rfl := Option.some.inj (by simpa only [due] using taken)
  exact ⟨.inl rfl, created, found⟩

/-- What is aborted is not late. -/
theorem Winding.not_lost (sound : Sound state) (winding : Winding state) : ¬state.LostWakeup := by
  rintro ⟨-, late, waiting⟩
  have aborted := winding.found waiting
  rw [(sound.late late).2.2] at aborted
  cases aborted

/-- Until it is finished the worker has a step. -/
theorem Winding.exists_step (lib : Libraries Double) (winding : Winding state)
    (unfinished : state.worker.pc ≠ .finished) :
    ∃ answer worker, state.workerCan answer = true ∧ Worker.Step lib state.worker answer worker := by
  have stop : state.workerCan (.stopRequested true : Answer Double) = true := by
    simp [workerCan, winding.requested]
  have free : (state.aborted || !state.waits) = true := by
    cases waiting : state.waits with
    | true => simp [winding.found waiting]
    | false => simp
  cases place : state.worker.pc with
  | start => exact ⟨.securityDescriptor true, _, rfl, .start true place⟩
  | loopCheck => exact ⟨_, _, stop, .loopCheck true place⟩
  | createPipe => exact absurd place winding.created
  | createFailed => exact ⟨_, _, stop, .createFailed true place⟩
  | sleeping => exact ⟨_, _, rfl, .sleeping place⟩
  | callConnect => exact ⟨_, _, rfl, .callConnect place⟩
  | inConnect => exact ⟨.clientConnected false, _, by simpa [workerCan] using free, .inConnect false place⟩
  | connectReturned connected => exact ⟨_, _, stop, .connectStopped place⟩
  | readCheck =>
    cases keep : state.worker.keepConnection with
    | true => exact ⟨_, _, stop, .readCheck true place keep⟩
    | false => exact ⟨_, _, rfl, .readEnd place keep⟩
  | callRead => exact ⟨_, _, rfl, .callRead place⟩
  | inRead => exact ⟨.readReturned .failed, _, free, .readFailed place⟩
  | decode => exact ⟨_, _, rfl, .decode place⟩
  | respond =>
    cases made : makeResponseFrame lib {} with
    | none => exact ⟨_, _, rfl, .unanswered place made⟩
    | some frame => exact ⟨_, _, rfl, .respond place made⟩
  | writeCheck =>
    rcases Nat.lt_or_ge state.worker.totalWritten state.worker.responseFrame.length with left | done
    · exact ⟨_, _, stop, .writeCheck true place left⟩
    · exact ⟨_, _, rfl, .writeEnd place done⟩
  | callWrite => exact ⟨_, _, rfl, .callWrite place⟩
  | inWrite => exact ⟨.writeReturned .failed, _, free, .writeFailed place⟩
  | processed ok => exact ⟨_, _, rfl, .processed ok place⟩
  | closePipe => exact ⟨_, _, rfl, .closePipe place⟩
  | finished => exact absurd place unfinished

/-- The worker comes to its end by its own steps, whatever they bring. -/
theorem Winding.inevitable (lib : Libraries Double) (sound : Sound state) (winding : Winding state) :
    Inevitable (Shutdown.step lib) Turn.isWorker (fun state => state.worker.pc = .finished) state := by
  refine Inevitable.of_rank (fun state => Sound state ∧ Winding state) (fun state => state.worker.rank)
    ?_ ?_ ⟨sound, winding⟩
  · rintro source ⟨-, winding⟩ unfinished
    obtain ⟨answer, worker, possible, taken⟩ := winding.exists_step lib unfinished
    exact ⟨.worker answer, _, trivial, worker_eq_some_iff.mpr ⟨worker, possible, taken, rfl⟩⟩
  · rintro source turn target ⟨sound, winding⟩ - kind success
    refine ⟨⟨sound.step success, winding.step sound success⟩, ?_⟩
    cases turn with
    | worker answer =>
      obtain ⟨worker, possible, taken, rfl⟩ := worker_eq_some_iff.mp success
      refine Worker.rank_lt taken fun value asked => ?_
      subst asked
      simpa [workerCan, winding.requested] using possible
    | stop => cases kind
    | client call => cases kind

/-! ## After a cancel that is not -/

/-- A lost wake-up is the end of all steps of the worker. -/
theorem LostWakeup.stuck (lib : Libraries Double) (sound : Sound state) (lost : state.LostWakeup)
    {turn : Turn Double} (kind : turn.isWorker) : state.step lib turn = none := by
  obtain ⟨-, late, waiting⟩ := lost
  obtain ⟨-, inside, aborted⟩ := sound.late late
  refine stuck_of_worker (fun answer worker possible taken => ?_) kind
  cases taken <;> simp_all [workerCan, Pc.isInside]

/-- A worker in front of a call that waits enters it after the cancel. -/
theorem enters (lib : Libraries Double) (joined : state.stopper = .join) {pc : Pc}
    (called : state.worker.pc.called = some pc) (waiting : state.waits = true) :
    ∃ next, state.step lib (.worker .proceed) = some next ∧ next.LostWakeup := by
  have taken : Worker.Step lib state.worker .proceed { state.worker with pc } := by
    rcases Pc.called_cases called with ⟨place, rfl⟩ | ⟨place, rfl⟩ | ⟨place, rfl⟩
    · exact .callConnect place
    · exact .callRead place
    · exact .callWrite place
  have inside : pc.isInside = true := by
    rcases Pc.called_cases called with ⟨-, rfl⟩ | ⟨-, rfl⟩ | ⟨-, rfl⟩ <;> rfl
  refine ⟨_, worker_eq_some_iff.mpr ⟨_, rfl, taken, rfl⟩, joined, ?_, ?_⟩
  · simp [workerMoved, inside, joined]
  · rw [entered_waits called, waiting]

/-- A worker that creates the pipe after the cancel waits in front of it. -/
theorem creates (lib : Libraries Double) (joined : state.stopper = .join)
    (place : state.worker.pc = .createPipe) :
    ∃ next, state.step lib (.worker (.pipeCreated true)) = some next ∧ next.stopper = .join ∧
      next.worker.pc.called = some .inConnect ∧ next.waits = true :=
  ⟨_, worker_eq_some_iff.mpr ⟨_, rfl, .createPipe true place, rfl⟩, joined, rfl, rfl⟩

/-- A cancel that is not in time may be followed by a lost wake-up, by steps of the worker alone. -/
theorem exists_lost (lib : Libraries Double) (due : state.stopper = .cancel) (missed : ¬state.Caught)
    (taken : state.stop = some next) : ∃ later final, (∀ turn ∈ later, turn.isWorker) ∧
      run (step lib) next later = some final ∧ final.LostWakeup := by
  obtain ⟨joined, same, waits⟩ :
      next.stopper = .join ∧ next.worker = state.worker ∧ next.waits = state.waits := by
    rw [Shutdown.stop] at taken
    obtain rfl := Option.some.inj (by simpa only [due] using taken)
    exact ⟨rfl, rfl, rfl⟩
  rw [Caught, ← waits, ← same] at missed
  by_cases place : next.worker.pc = .createPipe
  · obtain ⟨middle, created, joined, called, waiting⟩ := creates lib joined place
    obtain ⟨final, entered, lost⟩ := enters lib joined called waiting
    refine ⟨[.worker (.pipeCreated true), .worker .proceed], final, by simp [Turn.isWorker], ?_, lost⟩
    rw [run_cons, created, Option.bind_some, run_singleton, entered]
  · obtain ⟨waiting, outside⟩ : next.waits = true ∧ next.worker.pc.isInside = false := by
      simpa [place] using missed
    cases called : next.worker.pc.called with
    | none =>
      obtain ⟨pipe, -, waits⟩ := waits_iff.mp waiting
      rw [not_waits pipe called outside] at waits
      cases waits
    | some pc =>
      obtain ⟨final, entered, lost⟩ := enters lib joined called waiting
      exact ⟨[.worker .proceed], final, by simp [Turn.isWorker], by rw [run_singleton, entered], lost⟩

/-! ## Whole runs -/

theorem finished_stuck (lib : Libraries Double) (finished : state.worker.pc = .finished) {turn : Turn Double}
    (kind : turn.isWorker) : state.step lib turn = none := by
  refine stuck_of_worker (fun answer worker _ taken => ?_) kind
  cases taken <;> simp_all

theorem Sound.run {turns : List (Turn Double)} (sound : Sound state)
    (reached : run (Shutdown.step lib) state turns = some next) : Sound next :=
  run_invariant Sound (fun _ _ _ taken sound => sound.step taken) reached sound

/-- A run that has cancelled in time is on its way to the end. -/
theorem winding_of_timely {turns : List (Turn Double)}
    (reached : Machine.run (Shutdown.step lib) {} turns = some state)
    (timely : Meets (Shutdown.step lib) Timely {} turns) :
    state.stopper = .join ∨ state.stopper = .returned → Winding state := by
  refine (Machine.run_invariant_of_meets
    (fun state => Sound state ∧ (state.stopper = .join ∨ state.stopper = .returned → Winding state))
    ?_ reached timely ⟨sound_initial, by simp⟩).2
  rintro source turn target success timely ⟨sound, winding⟩
  refine ⟨sound.step success, fun joined => ?_⟩
  by_cases before : source.stopper = .join ∨ source.stopper = .returned
  · exact (winding before).step sound success
  · cases turn with
    | worker answer =>
      obtain ⟨worker, -, -, rfl⟩ := worker_eq_some_iff.mp success
      exact absurd joined before
    | client call =>
      obtain ⟨pipe, -, rfl⟩ := Option.map_eq_some_iff.mp success
      exact absurd joined before
    | stop =>
      cases place : source.stopper with
      | cancel => exact (timely place).winding place success
      | join | returned => simp [place] at before
      | setFlag | wake =>
        simp only [Shutdown.step, Shutdown.stop, place, Option.some.injEq] at success
        subst success
        simp at joined

/-- When the worker can be joined. In every run whose cancel comes in time no wake-up is lost, and a
worker that is being joined comes to its end by its own steps. A cancel is in time exactly when no run from
there loses the wake-up, and exactly when the worker must come to its end by its own steps. -/
theorem no_lost_wakeup_iff (lib : Libraries Double) {turns : List (Turn Double)}
    (reached : Machine.run (Shutdown.step lib) {} turns = some state) :
    (Meets (Shutdown.step lib) Timely {} turns → ¬state.LostWakeup ∧
      (state.stopper = .join → Inevitable (Shutdown.step lib) Turn.isWorker (·.worker.pc = .finished) state)) ∧
    ∀ next, state.stopper = .cancel → state.step lib .stop = some next →
      ((∀ later final, Machine.run (Shutdown.step lib) next later = some final → ¬final.LostWakeup) ↔
        state.Caught) ∧
      (Inevitable (Shutdown.step lib) Turn.isWorker (·.worker.pc = .finished) next ↔ state.Caught) := by
  have sound := sound_initial.run reached
  refine ⟨fun timely => ?_, fun next due taken => ?_⟩
  · have winding := winding_of_timely reached timely
    refine ⟨fun lost => (winding (.inl lost.1)).not_lost sound lost, fun joined => ?_⟩
    exact (winding (.inl joined)).inevitable lib sound
  · have later := sound.step taken
    refine ⟨⟨fun safe => ?_, fun caught later final reached => ?_⟩, fun inevitable => ?_, fun caught => ?_⟩
    · by_contra missed
      obtain ⟨later, final, -, reached, lost⟩ := exists_lost lib due missed taken
      exact safe later final reached lost
    · obtain ⟨sound, winding⟩ := run_invariant (fun state => Sound state ∧ Winding state)
        (fun _ _ _ success both => ⟨both.1.step success, both.2.step both.1 success⟩) reached
        ⟨sound.step taken, caught.winding due taken⟩
      exact winding.not_lost sound
    · by_contra missed
      obtain ⟨turns, final, kind, ran, lost⟩ := exists_lost lib due missed taken
      have finished := inevitable.of_stuck kind ran (fun _ done _ kind => finished_stuck lib done kind)
        (fun _ kind => lost.stuck lib (later.run ran) kind)
      obtain ⟨pipe, -, waiting⟩ := waits_iff.mp lost.2.2
      simp [Pipe.waits, finished] at waiting
    · exact (caught.winding due taken).inevitable lib later

/-- A stop that finds the worker inside a read is in time. -/
def sampleTurns : List (Turn Proto.Binary64) :=
  [.worker (.securityDescriptor true), .worker (.stopRequested false), .worker (.pipeCreated true),
    .client .createFile, .worker .proceed, .worker (.clientConnected true), .worker (.stopRequested false),
    .worker (.stopRequested false), .worker .proceed, .stop, .stop]

theorem no_lost_wakeup_sample :
    ∃ state next, Machine.run (Shutdown.step Proto.Codec.libraries) {} sampleTurns = some state ∧
      state.step Proto.Codec.libraries .stop = some next ∧
      Inevitable (Shutdown.step Proto.Codec.libraries) Turn.isWorker (·.worker.pc = .finished) next := by
  have ran : Machine.run (Shutdown.step Proto.Codec.libraries) {} sampleTurns =
    some ⟨{ pc := .inRead }, some { peer := .client }, .cancel, false, false⟩ := by decide
  refine ⟨_, _, ran, rfl, ?_⟩
  exact (((no_lost_wakeup_iff Proto.Codec.libraries ran).2 _ rfl rfl).2).mpr ⟨by decide, fun _ => rfl⟩

/-- The worker has seen the flag clear in front of its read, `stop` runs up to the join, and the worker
reads. -/
def lostTurns : List (Turn Proto.Binary64) :=
  [.worker (.securityDescriptor true), .worker (.stopRequested false), .worker (.pipeCreated true),
    .client .createFile, .worker .proceed, .worker (.clientConnected true), .worker (.stopRequested false),
    .worker (.stopRequested false), .stop, .stop, .stop, .worker .proceed]

/-- With a client that stays connected and silent, the thread in `join` waits for good. -/
theorem join_waits_for_client :
    ∃ state, Machine.run (Shutdown.step Proto.Codec.libraries) {} lostTurns = some state ∧ state.LostWakeup ∧
      (∀ answer, state.step Proto.Codec.libraries (.worker answer) = none) ∧
      state.step Proto.Codec.libraries .stop = none := by
  have ran : Machine.run (Shutdown.step Proto.Codec.libraries) {} lostTurns =
    some ⟨{ pc := .inRead }, some { peer := .client }, .join, true, false⟩ := by decide
  have lost : LostWakeup ⟨{ pc := .inRead }, some { peer := .client }, .join, true, false⟩ := ⟨rfl, rfl, rfl⟩
  exact ⟨_, ran, lost, fun _ => lost.stuck Proto.Codec.libraries (sound_initial.run ran) trivial, rfl⟩

end Shutdown

end Guardian.Agent
