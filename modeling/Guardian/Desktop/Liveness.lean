import Guardian.Desktop.Course
import Guardian.Proto.Codec

/-! # The client is never stuck, except after an error on a live connection

A running client always waits for something that will happen: a timer that is active or a signal of
the socket that is due. The exception is an error signal that leaves the socket connected: its
handler stops the poll timer, and nothing starts it again.
-/

namespace Guardian.Desktop

open Machine (Meets Throughout logged run)
open Proto (Libraries)

variable {Double : Type}

namespace LocalAgentClient

/-- What a running client can be waiting for. -/
def waits (client : LocalAgentClient) : List Bool :=
  [client.socket = .unconnected && client.connectionState = .disconnected && client.reconnectTimer,
    client.socket = .connecting,
    client.socket = .closing,
    client.socket = .connected && client.connectionState = .connected && client.pollTimer &&
      !client.reconnectTimer]

structure NeverStuck (client : LocalAgentClient) : Prop where
  running : client.running = true → client.waits.count true = 1
  stopped : client.running = false → client.reconnectTimer = false ∧ client.pollTimer = false ∧
    client.receiveBuffer = [] ∧ client.connectionState = .disconnected

/-- The event is no error signal on a connection that stays up. -/
def Steady (client : LocalAgentClient) (event : Event) : Prop :=
  client.socket = .connected → event ≠ .errorOccurred false

/-- In a tidy state only a connection without a poll timer is stuck. -/
theorem Tidy.neverStuck_iff {client : LocalAgentClient} (tidy : client.Tidy) :
    client.NeverStuck ↔ (client.socket = .connected → client.pollTimer = true) := by
  have shown := tidy.shown
  constructor
  · rintro ⟨waiting, -⟩ live
    have running := tidy.running (by rw [live]; decide)
    have one := waiting running
    simp only [waits, live, shown, tidy.unarmed (by rw [live]; decide)] at one
    cases polling : client.pollTimer with
    | true => rfl
    | false => simp [polling, SocketState.shown] at one
  · intro polling
    constructor
    · intro running
      cases socket : client.socket with
      | unconnected =>
        have armed := tidy.armed.mpr ⟨running, socket⟩
        simp [waits, socket, shown, armed, SocketState.shown]
      | connecting => simp [waits, socket]
      | connected =>
        simp [waits, socket, shown, SocketState.shown, polling socket, tidy.unarmed (by rw [socket]; decide)]
      | closing => simp [waits, socket]
    · intro stopped
      obtain ⟨idle, empty⟩ := tidy.idle stopped
      obtain ⟨disconnected, quiet, -⟩ := tidy.lost idle
      exact ⟨tidy.unarmed_of_stopped stopped, quiet, empty, disconnected⟩

/-- A step leads out of the good states exactly when an error signal finds the socket connected. -/
theorem neverStuck_step {lib : Libraries Double} {client next : LocalAgentClient} {event : Event}
    {effects : List (Effect Double)} (taken : client.step lib event = some (next, effects))
    (tidy : client.Tidy) (good : client.NeverStuck) : next.NeverStuck ↔ client.Steady event := by
  have course := step_course tidy taken
  rw [(tidy.course course).neverStuck_iff]
  rw [tidy.neverStuck_iff] at good
  cases course with
  | keep buffer said ordinary idle =>
    refine iff_of_true good fun _ signal => ?_
    subst signal
    simp [Event.ordinary] at ordinary
  | mute lost kept =>
    cases lost with
    | true =>
      have idle := kept rfl
      exact iff_of_true (by simp [idle]) (by simp [Steady, idle])
    | false => simp [Steady]
  | start stopped => exact iff_of_true (by simp [begun]) (by simp [Steady])
  | retry pending => exact iff_of_true (by simp [begun]) (by simp [Steady])
  | establish accepted awaited said => exact iff_of_true (by simp [established]) (by simp [Steady])
  | refuse accepted awaited said complains => exact iff_of_true (by simp [dropped]) (by simp [Steady])
  | close inUse => exact iff_of_true (by simp) (by simp [Steady])
  | drop buffer inUse said complains ordinary =>
    refine iff_of_true (by simp [dropped]) fun _ signal => ?_
    subst signal
    simp [Event.ordinary] at ordinary
  | stop => exact iff_of_true (by simp) (by simp [Steady])

/-- The client is never stuck. In every state of a run a running client waits for exactly one of
its timers or socket signals, and a stopped client is quiet, if and only if no error signal of the run
finds the socket connected and leaves it so. -/
theorem neverStuck_throughout_iff (lib : Libraries Double) {events : List Event} {client : LocalAgentClient}
    {effects : List (Effect Double)}
    (reached : run (logged (step lib)) ({}, []) events = some (client, effects)) :
    Throughout (logged (step lib)) (fun entry => entry.1.NeverStuck) ({}, []) events ↔
      Meets (logged (step lib)) (fun entry event => entry.1.Steady event) ({}, []) events := by
  refine Machine.throughout_iff_meets (fun entry => entry.1.Tidy) ?_ ?_ reached Tidy.initial ?_
  · intro source event target success tidy
    obtain ⟨emitted, taken, -⟩ := Machine.logged_eq_some_iff.mp success
    exact tidy.course (step_course tidy taken)
  · intro source event target success tidy good
    obtain ⟨emitted, taken, -⟩ := Machine.logged_eq_some_iff.mp success
    exact neverStuck_step taken tidy good
  · exact Tidy.initial.neverStuck_iff.mpr (by simp)

/-- Polling over a connection that is lost together with its error signal. -/
theorem neverStuck_sample :
    Throughout (logged (step Proto.Codec.libraries)) (fun entry => entry.1.NeverStuck) ({}, [])
      [.start, .connected 6, .pollTimeout 6, .errorOccurred true, .disconnected] := by
  have reached : ∃ client effects, run (logged (step Proto.Codec.libraries)) ({}, [])
      [.start, .connected 6, .pollTimeout 6, .errorOccurred true, .disconnected] = some (client, effects) :=
    ⟨_, _, rfl⟩
  obtain ⟨client, effects, reached⟩ := reached
  refine (neverStuck_throughout_iff Proto.Codec.libraries reached).mpr ?_
  simp [Meets, Steady]

/-- A connection on which an error is signalled is left without a poll timer. -/
theorem stuck_after_error :
    ∃ client effects,
      run (logged (step Proto.Codec.libraries)) ({}, []) [.start, .connected 6, .errorOccurred false] =
        some (client, effects) ∧ client.running = true ∧ client.socket = .connected ∧
          client.pollTimer = false ∧ client.reconnectTimer = false ∧ ¬client.NeverStuck := by
  refine ⟨_, _, rfl, rfl, rfl, rfl, rfl, fun good => ?_⟩
  have waiting := good.running rfl
  revert waiting
  decide

end LocalAgentClient

end Guardian.Desktop
