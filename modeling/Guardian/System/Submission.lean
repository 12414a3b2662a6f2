import Guardian.Agent.TelemetryClient
import Guardian.Server.TelemetryService

/-! # Client and server of a submission

The client's call reaches the server's handler through a transport that hands over message and
status unchanged. Both ends check an event in the same way, so that the server refuses nothing that
the client lets through, and what the client holds back never reaches it.
-/

namespace Guardian

open Agent (RpcReply SubmitResult submitIn)
open Ipc (Bytes)
open Server (SubmitTelemetryResponse submitTelemetry)

variable {Double : Type} [Model.Floating Double]

/-- The call through the transport; the state lists the messages that have reached the server. -/
def deliver (message : Proto.TelemetryEvent Double) :
    StateM (List (Proto.TelemetryEvent Double)) RpcReply := do
  modify fun received => received ++ [message]
  let (status, response) := submitTelemetry (some message) (some {})
  return ⟨status.code = .ok, status.errorMessage, response.elim [] fun response => response.eventId⟩

/-- The message of a valid event is answered with the event's identifier. -/
theorem deliver_run {event : Model.TelemetryEvent Double} {message : Proto.TelemetryEvent Double}
    (converted : Proto.toProto event = some message) (received : List (Proto.TelemetryEvent Double)) :
    (deliver message).run received = (⟨true, [], event.id⟩, received ++ [message]) := by
  have decoded : Proto.fromProto message = some event := Proto.conversion.eq_some_iff.mpr converted
  simp only [deliver, submitTelemetry, decoded]
  rfl

theorem submitIn_deliver_valid {event : Model.TelemetryEvent Double} (valid : Model.isValid event = true)
    (received : List (Proto.TelemetryEvent Double)) :
    ∃ message, Proto.toProto event = some message ∧
      (submitIn deliver event).run received = (⟨true, event.id, []⟩, received ++ [message]) := by
  obtain ⟨message, converted⟩ : ∃ message, Proto.toProto event = some message :=
    ⟨_, Proto.toProto_eq_some_iff.mpr ⟨valid, rfl⟩⟩
  have named : event.id ≠ [] := by
    rintro unnamed
    simp [Model.isValid, unnamed] at valid
  refine ⟨message, converted, ?_⟩
  rw [Agent.submitIn_run_some deliver received converted, deliver_run converted]
  simp [RpcReply.result, named]

/-- Client and server agree on every event, whatever the server has received before: a valid event reaches the
server in one message and is accepted under its identifier, an invalid one is not sent. Whatever call takes the
transport's place, it is made once for a valid event, and its reply decides the result. The handler accepts
exactly the messages of valid events. -/
theorem submission_agrees (event : Model.TelemetryEvent Double)
    (received : List (Proto.TelemetryEvent Double)) :
    (((submitIn deliver event).run received).1 = ⟨true, event.id, []⟩ ↔ Model.isValid event = true) ∧
    (Model.isValid event = true → ∃ message, Proto.toProto event = some message ∧
      ((submitIn deliver event).run received).2 = received ++ [message] ∧
      ∀ (σ : Type) (rpc : Proto.TelemetryEvent Double → StateM σ RpcReply) (state : σ),
        let reply := ((rpc message).run state).1
        let result := ((submitIn rpc event).run state).1
        ((submitIn rpc event).run state).2 = ((rpc message).run state).2 ∧ result = reply.result ∧
          (result.accepted = true ↔ reply.ok = true ∧ reply.eventId ≠ []) ∧
          (result.accepted = true → result.eventId = reply.eventId) ∧
          (reply.ok = false → reply.errorMessage ≠ [] → result.errorMessage = reply.errorMessage)) ∧
    (¬Model.isValid event = true →
      ((submitIn deliver event).run received).1.accepted = false ∧
      ((submitIn deliver event).run received).1.eventId = [] ∧
      ((submitIn deliver event).run received).1.errorMessage ≠ [] ∧
      ∀ (σ : Type) (rpc : Proto.TelemetryEvent Double → StateM σ RpcReply) (state : σ),
        ((submitIn rpc event).run state).2 = state) ∧
    (∀ (σ : Type) (rpc : Proto.TelemetryEvent Double → StateM σ RpcReply) (state : σ),
      let result := ((submitIn rpc event).run state).1
      result.accepted = true ∧ result.eventId ≠ [] ∧ result.errorMessage = [] ∨
        result.accepted = false ∧ result.eventId = [] ∧ result.errorMessage ≠ []) ∧
    ∀ (request : Proto.TelemetryEvent Double) (response : SubmitTelemetryResponse),
      ((submitTelemetry (some request) (some response)).1.code = .ok ↔
        ∃ event, Proto.fromProto request = some event) ∧
      ((submitTelemetry (some request) (some response)).1.code ≠ .ok →
        (submitTelemetry (some request) (some response)).2 = some response) := by
  have decided (σ : Type) (rpc : Proto.TelemetryEvent Double → StateM σ RpcReply) (state : σ) :=
    Agent.submitIn_decided rpc state event
  have unsent (invalid : ¬Model.isValid event = true) : Proto.toProto event = none := by
    simp [Proto.toProto, invalid]
  refine ⟨?_, ?_, ?_, decided, fun request response => ⟨?_, ?_⟩⟩
  · constructor
    · intro accepted
      by_contra invalid
      rw [Agent.submitIn_run_none deliver received (unsent invalid)] at accepted
      cases accepted
    · intro valid
      obtain ⟨message, -, ran⟩ := submitIn_deliver_valid valid received
      rw [ran]
  · intro valid
    obtain ⟨message, converted, ran⟩ := submitIn_deliver_valid valid received
    refine ⟨message, converted, by rw [ran], ?_⟩
    intro σ rpc state
    dsimp only
    rw [Agent.submitIn_run_some rpc state converted]
    exact ⟨rfl, rfl, RpcReply.result_tells _⟩
  · intro invalid
    rw [Agent.submitIn_run_none deliver received (unsent invalid)]
    have text : Model.ascii "Invalid telemetry event" ≠ [] := by decide
    refine ⟨rfl, rfl, text, ?_⟩
    intro σ rpc state
    rw [Agent.submitIn_run_none rpc state (unsent invalid)]
  · exact Server.submitTelemetry_ok_iff request response
  · exact Server.submitTelemetry_untouched (some request) (some response)

end Guardian
