import Guardian.Agent.Output
import Guardian.Ipc.Classification

/-! # The Agent's receive buffer

Whatever a client sends, the buffer of a connection stays bounded: at a read it is less than one
frame, and a read adds at most the size of the read buffer. A pass of the inner loop takes at least
five bytes out of the buffer, so that the loop ends whatever the buffer holds. A header that
announces a length that is not permitted is never in the buffer of a read.
-/

namespace Guardian.Agent

open Ipc (Bytes frameDecoder frameHeader frameHeaderSize Encodes Unfinished)
open Machine (run run_invariant Inevitable)
open Proto (Libraries)

variable {Double : Type} {lib : Libraries Double}

/-- The most that a connection keeps while it waits for a read. -/
def waitingLimit : ℕ := 1048576 + 3

namespace Worker

variable {worker next : Worker} {answer : Answer Double}

/-- What holds of the buffer at each place of the program. -/
structure Buffered (worker : Worker) : Prop where
  bounded : worker.receiveBuffer.length ≤ waitingLimit + readSize
  checking : worker.pc = .readCheck → worker.keepConnection = true → Unfinished worker.receiveBuffer
  reading : worker.pc = .callRead ∨ worker.pc = .inRead → Unfinished worker.receiveBuffer

theorem Buffered.initial : Buffered {} := by
  refine ⟨Nat.zero_le _, ?_, ?_⟩
  · intro place
    cases place
  · rintro (place | place) <;> cases place

/-- The buffer is as it was, and the next place is not one of a read. -/
theorem Buffered.keep (buffered : worker.Buffered) (same : next.receiveBuffer = worker.receiveBuffer)
    (elsewhere : next.pc ≠ .readCheck ∧ next.pc ≠ .callRead ∧ next.pc ≠ .inRead) : next.Buffered := by
  refine ⟨same ▸ buffered.bounded, ?_, ?_⟩
  · intro place
    exact absurd place elsewhere.1
  · rintro (place | place)
    · exact absurd place elsewhere.2.1
    · exact absurd place elsewhere.2.2

/-- A pass that goes back to the read and keeps the connection has found the buffer unfinished. -/
theorem decodePass_unfinished (back : (worker.decodePass lib).pc = .readCheck)
    (kept : (worker.decodePass lib).keepConnection = true) : Unfinished worker.receiveBuffer := by
  cases verdict : frameDecoder.decode worker.receiveBuffer with
  | incomplete => exact (Ipc.status_incomplete_iff _).mp (Ipc.verdict_incomplete verdict)
  | invalid =>
    rw [decodePass_invalid verdict] at kept
    cases kept
  | complete payload consumed =>
    rw [decodePass_complete verdict] at back
    cases judged : checkRequest lib payload <;> rw [judged] at back <;> cases back

theorem Buffered.step (buffered : worker.Buffered) (taken : Step lib worker answer next) :
    next.Buffered := by
  cases taken with
  | decode place =>
    rcases decodePass_cases lib worker with ⟨back, same⟩ | ⟨further, less⟩
    · refine ⟨same ▸ buffered.bounded, ?_, ?_⟩
      · intro place keep
        rw [same]
        exact decodePass_unfinished place keep
      · rintro (place | place) <;> rw [back] at place <;> cases place
    · have bounded := buffered.bounded
      refine ⟨by omega, ?_, ?_⟩
      · intro place
        rcases further with further | further <;> rw [further] at place <;> cases place
      · rintro (place | place) <;> rcases further with further | further <;> rw [further] at place <;> cases place
  | connected place =>
    exact ⟨Nat.zero_le _, fun _ _ => .inl (by decide), fun _ => .inl (by decide)⟩
  | readCheck stop place keep =>
    have unfinished := buffered.checking place keep
    exact ⟨buffered.bounded, fun _ _ => unfinished, fun _ => unfinished⟩
  | callRead place =>
    have unfinished := buffered.reading (.inl place)
    exact ⟨buffered.bounded, fun _ _ => unfinished, fun _ => unfinished⟩
  | read place nonempty small =>
    have short := (buffered.reading (.inr place)).length_le
    refine ⟨?_, ?_, ?_⟩
    · rw [List.length_append, waitingLimit]
      omega
    · intro here
      cases here
    · rintro (here | here) <;> cases here
  | processed ok place =>
    cases ok with
    | true => exact buffered.keep rfl ⟨by simp, by simp, by simp⟩
    | false =>
      refine ⟨buffered.bounded, ?_, ?_⟩
      · intro _ keep
        cases keep
      · rintro (here | here) <;> cases here
  | start value place | loopCheck value place | createPipe value place | createFailed value place
  | writeCheck value place =>
    refine buffered.keep rfl ?_
    cases value <;> exact ⟨by simp, by simp, by simp⟩
  | _ => exact buffered.keep rfl ⟨by simp, by simp, by simp⟩

/-! ## The inner loop ends -/

/-- The places of the inner loop and of the calls from it. -/
def inLoop (worker : Worker) : Prop :=
  match worker.pc with
  | .decode | .respond | .writeCheck | .callWrite | .inWrite | .processed _ => True
  | _ => False

/-- More steps than the writing of one response takes, as a step writes at least a byte. -/
@[irreducible] def responseRank : ℕ := 3 * (frameHeaderSize + 1048576) + 6

theorem responseRank_eq : responseRank = 3 * (frameHeaderSize + 1048576) + 6 := by rw [responseRank]

/-- How far the inner loop is from its end: every pass takes bytes out of the buffer and writes at most one
response. -/
def loopRank (worker : Worker) : ℕ :=
  responseRank * worker.receiveBuffer.length +
    match worker.pc with
    | .decode => 1
    | .processed _ => 2
    | .inWrite => 3 * (worker.responseFrame.length - worker.totalWritten) + 3
    | .callWrite => 3 * (worker.responseFrame.length - worker.totalWritten) + 4
    | .writeCheck => 3 * (worker.responseFrame.length - worker.totalWritten) + 5
    | .respond => responseRank
    | _ => 0

theorem responseFrame_length_le {store : LatestSnapshotStore Double} {frame : Bytes}
    (made : makeResponseFrame lib store = some frame) : 3 * frame.length + 6 ≤ responseRank := by
  obtain ⟨payload, -, encoded⟩ := Option.bind_eq_some_iff.mp made
  have bounded := (Ipc.encodeFrame_isSome_iff.mp ⟨frame, encoded⟩).2
  rw [Ipc.encodeFrame_length encoded, responseRank_eq]
  omega

/-- A frame taken from the buffer makes up for its whole response. -/
theorem decodePass_loopRank_lt (place : worker.pc = .decode) :
    ((worker.decodePass lib).inLoop ∨ (worker.decodePass lib).pc = .readCheck) ∧
      (worker.decodePass lib).loopRank < worker.loopRank := by
  rcases decodePass_cases lib worker with ⟨back, same⟩ | ⟨further, less⟩
  · refine ⟨.inr back, ?_⟩
    simp [loopRank, back, same, place]
  · have shorter : responseRank * (worker.decodePass lib).receiveBuffer.length + responseRank * 5 ≤
        responseRank * worker.receiveBuffer.length := by
      rw [← Nat.mul_add]
      exact Nat.mul_le_mul_left _ less
    rcases further with further | further
    · refine ⟨.inl (by simp [inLoop, further]), ?_⟩
      simp only [loopRank, further, place]
      omega
    · refine ⟨.inl (by simp [inLoop, further]), ?_⟩
      have large := responseRank_eq
      simp only [loopRank, further, place]
      omega

/-- A step inside the loop leads on in the loop or back to the read, and nearer to the end. -/
theorem loopRank_lt (inside : worker.inLoop) (taken : Step lib worker answer next) :
    (next.inLoop ∨ next.pc = .readCheck) ∧ next.loopRank < worker.loopRank := by
  cases taken with
  | decode place =>
    exact decodePass_loopRank_lt place
  | respond place made =>
    have bounded := responseFrame_length_le made
    refine ⟨.inl trivial, ?_⟩
    simp only [loopRank, place]
    omega
  | unanswered place missing =>
    have large := responseRank_eq
    refine ⟨.inl trivial, ?_⟩
    simp only [loopRank, place]
    omega
  | writeCheck stop place left =>
    cases stop with
    | true =>
      refine ⟨.inl trivial, ?_⟩
      simp only [loopRank, place, if_true]
      omega
    | false =>
      refine ⟨.inl trivial, ?_⟩
      simp only [loopRank, place, Bool.false_eq_true, if_false]
      omega
  | wrote place positive bounded =>
    refine ⟨.inl trivial, ?_⟩
    simp only [loopRank, place]
    omega
  | writeEnd place done | callWrite place | writeFailed place | wroteNothing place =>
    refine ⟨.inl trivial, ?_⟩
    simp only [loopRank, place]
    omega
  | processed ok place =>
    cases ok with
    | true => exact ⟨.inl trivial, by simp [loopRank, place]⟩
    | false => exact ⟨.inr rfl, by simp [loopRank, place]⟩
  | _ => simp_all [inLoop]

/-- Inside the loop there is always a step. -/
theorem exists_step_inLoop (lib : Libraries Double) (inside : worker.inLoop) :
    ∃ answer next, Step lib worker answer next := by
  cases place : worker.pc with
  | decode => exact ⟨_, _, .decode place⟩
  | respond =>
    cases made : makeResponseFrame lib {} with
    | none => exact ⟨_, _, .unanswered place made⟩
    | some frame => exact ⟨_, _, .respond place made⟩
  | writeCheck =>
    rcases Nat.lt_or_ge worker.totalWritten worker.responseFrame.length with left | done
    · exact ⟨_, _, .writeCheck false place left⟩
    · exact ⟨_, _, .writeEnd place done⟩
  | callWrite => exact ⟨_, _, .callWrite place⟩
  | inWrite => exact ⟨_, _, .writeFailed place⟩
  | processed ok => exact ⟨_, _, .processed ok place⟩
  | _ => simp [inLoop, place] at inside

/-- Whatever the buffer holds and whatever the surroundings answer, the loop comes back to the read. -/
theorem loop_ends (lib : Libraries Double) (inside : worker.inLoop) :
    Inevitable (step lib) (fun _ => True) (fun worker => worker.pc = .readCheck) worker := by
  refine Inevitable.of_rank (fun worker => worker.inLoop ∨ worker.pc = .readCheck) loopRank ?_ ?_ (.inl inside)
  · intro source places unfinished
    obtain ⟨answer, target, taken⟩ := exists_step_inLoop lib (places.resolve_right unfinished)
    exact ⟨answer, target, trivial, step_eq_some_iff.mpr taken⟩
  · intro source answer target places unfinished _ success
    exact loopRank_lt (places.resolve_right unfinished) (step_eq_some_iff.mp success)

end Worker

/-- Only a read adds to the stream. -/
theorem Session.reads_observe (session : Session Double) {worker : Worker} (answer : Answer Double)
    (elsewhere : worker.pc ≠ .inRead) : (session.observe lib worker answer).reads = session.reads := by
  simp only [observe]
  split
  case h_4 place => exact absurd place elsewhere
  case h_5 => split <;> rfl
  all_goals rfl

namespace Server

variable {server next : Server Double}

theorem buffered_of_run {answers : List (Answer Double)}
    (reached : run (Server.step lib) {} answers = some server) : server.worker.Buffered := by
  refine run_invariant (fun server => server.worker.Buffered) ?_ reached Worker.Buffered.initial
  intro source answer target success buffered
  exact buffered.step (step_eq_some_iff.mp success).1

/-- The stream of the newest connection holds a header that is not permitted. -/
def Spoiled (server : Server Double) : Prop :=
  ∃ session past, server.sessions = session :: past ∧ Ipc.Broken session.received

/-- Such a connection neither waits for a read nor goes on to one. -/
theorem Spoiled.not_reading (spoiled : server.Spoiled) (consistent : server.Consistent lib) :
    server.worker.pc ≠ .callRead ∧ server.worker.pc ≠ .inRead ∧
      (server.worker.pc = .readCheck → server.worker.keepConnection = false) := by
  obtain ⟨session, past, newest, broken⟩ := spoiled
  have coherent : session.Coherent lib server.worker := by
    rw [Consistent, newest] at consistent
    exact consistent.1
  have never {buffer : Bytes} (waiting : session.Waiting lib buffer) : False := by
    obtain ⟨position, scanned⟩ := waiting.scanned
    exact broken.not_waiting (checkRequest lib) buffer (by rw [scanned])
  refine ⟨?_, ?_, ?_⟩
  · intro place
    simp only [Session.Coherent, place] at coherent
    exact never coherent.2
  · intro place
    simp only [Session.Coherent, place] at coherent
    exact never coherent.2
  · intro place
    cases keep : server.worker.keepConnection with
    | false => rfl
    | true =>
      simp only [Session.Coherent, place, keep, if_true] at coherent
      exact (never coherent).elim

/-- It stays so while the connection is the newest. -/
theorem Spoiled.step {answer : Answer Double} (spoiled : server.Spoiled)
    (success : server.step lib answer = some next)
    (same : server.worker.opens answer = false) (elsewhere : server.worker.pc ≠ .inRead) : next.Spoiled := by
  obtain ⟨session, past, newest, broken⟩ := spoiled
  obtain ⟨-, sessions⟩ := step_eq_some_iff.mp success
  rw [same, newest, if_neg (by simp), List.modifyHead_cons] at sessions
  refine ⟨_, past, sessions, ?_⟩
  rwa [Session.received, session.reads_observe answer elsewhere]

theorem not_opens_of_inLoop {worker : Worker} (inside : worker.inLoop) (answer : Answer Double) :
    worker.opens answer = false := by
  simp only [Worker.opens]
  split
  · next place => simp [Worker.inLoop, place] at inside
  · rfl

/-- From inside the loop the connection is closed, whatever the surroundings answer. -/
theorem Spoiled.closes (consistent : server.Consistent lib) (spoiled : server.Spoiled)
    (inside : server.worker.inLoop) :
    Inevitable (Server.step lib) (fun _ => True) (fun server => server.worker.pc = .closePipe) server := by
  refine Inevitable.of_rank
    (fun server => (server.Consistent lib ∧ server.Spoiled) ∧
      (server.worker.inLoop ∨ server.worker.pc = .readCheck ∨ server.worker.pc = .closePipe))
    (fun server => if server.worker.pc = .closePipe then 0 else server.worker.loopRank + 1) ?_ ?_
    ⟨⟨consistent, spoiled⟩, .inl inside⟩
  · rintro source ⟨⟨consistent, spoiled⟩, places⟩ unfinished
    have moves {answer : Answer Double} {worker : Worker} (taken : Worker.Step lib source.worker answer worker) :
        ∃ answer target, True ∧ source.step lib answer = some target :=
      ⟨answer, ⟨worker, _⟩, trivial, step_eq_some_iff.mpr ⟨taken, rfl⟩⟩
    rcases places with inside | checking | closed
    · obtain ⟨answer, worker, taken⟩ := Worker.exists_step_inLoop lib inside
      exact moves taken
    · exact moves (.readEnd checking ((spoiled.not_reading consistent).2.2 checking))
    · exact absurd closed unfinished
  · rintro source answer target ⟨⟨consistent, spoiled⟩, places⟩ unfinished - success
    obtain ⟨taken, -⟩ := step_eq_some_iff.mp success
    have elsewhere := (spoiled.not_reading consistent).2.1
    rcases places with inside | checking | closed
    · obtain ⟨further, less⟩ := Worker.loopRank_lt inside taken
      refine ⟨⟨⟨consistent.step success, spoiled.step success (not_opens_of_inLoop inside answer) elsewhere⟩, ?_⟩, ?_⟩
      · exact further.imp_right .inl
      · rw [if_neg unfinished]
        split <;> omega
    · have dropped := (spoiled.not_reading consistent).2.2 checking
      have quiet : source.worker.opens answer = false := by simp [Worker.opens, checking]
      have kept := spoiled.step success quiet elsewhere
      obtain ⟨worker, sessions⟩ := target
      cases taken with
      | readEnd => exact ⟨⟨⟨consistent.step success, kept⟩, .inr (.inr rfl)⟩, by simp [checking]⟩
      | readCheck stop place keep =>
        rw [dropped] at keep
        cases keep
      | _ => simp_all
    · exact absurd closed unfinished

end Server

end Guardian.Agent
