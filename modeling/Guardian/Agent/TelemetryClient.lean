import Guardian.Proto.Telemetry

/-! # Submitting an event

`submit` converts an event and makes one remote call. The call itself belongs to the RPC library: it is
a parameter that returns a status and a response, both of any content. `submitIn` is the same function
with a call that has effects on its surroundings, so that one can tell whether it is made.
-/

namespace Guardian.Agent

open Ipc (Bytes)
open Model (ascii)

variable {Double : Type}

structure SubmitResult where
  accepted : Bool := false
  eventId : Bytes := []
  errorMessage : Bytes := []
deriving DecidableEq

/-- What a call of `SubmitTelemetry` leaves behind: whether its status is OK, the error text of the
status, and the identifier in the response. -/
structure RpcReply where
  ok : Bool
  errorMessage : Bytes
  eventId : Bytes
deriving DecidableEq

/-- What is returned for a reply. -/
def RpcReply.result (reply : RpcReply) : SubmitResult :=
  if !reply.ok then
    ⟨false, [], if reply.errorMessage.isEmpty then ascii "Telemetry RPC failed" else reply.errorMessage⟩
  else if reply.eventId.isEmpty then ⟨false, [], ascii "Server returned an empty event ID"⟩
  else ⟨true, reply.eventId, []⟩

def submit [Model.Floating Double] (rpc : Proto.TelemetryEvent Double → RpcReply)
    (event : Model.TelemetryEvent Double) : SubmitResult :=
  match Proto.toProto event with
  | none => ⟨false, [], ascii "Invalid telemetry event"⟩
  | some message => (rpc message).result

def submitIn {m : Type → Type} [Monad m] [Model.Floating Double]
    (rpc : Proto.TelemetryEvent Double → m RpcReply)
    (event : Model.TelemetryEvent Double) : m SubmitResult :=
  match Proto.toProto event with
  | none => pure ⟨false, [], ascii "Invalid telemetry event"⟩
  | some message => do
      let reply ← rpc message
      return reply.result

theorem submitIn_pure [Model.Floating Double] (rpc : Proto.TelemetryEvent Double → RpcReply)
    (event : Model.TelemetryEvent Double) :
    (submitIn (fun message => (pure (rpc message) : Id RpcReply)) event).run = submit rpc event := by
  rw [submitIn, submit]
  cases Proto.toProto event <;> rfl

/-- Either accepted, with an identifier and no error, or an error and no identifier. -/
def SubmitResult.Decided (result : SubmitResult) : Prop :=
  result.accepted = true ∧ result.eventId ≠ [] ∧ result.errorMessage = [] ∨
    result.accepted = false ∧ result.eventId = [] ∧ result.errorMessage ≠ []

theorem RpcReply.result_decided (reply : RpcReply) : reply.result.Decided := by
  rw [result]
  split_ifs with failed silent unnamed
  · exact .inr ⟨rfl, rfl, by decide⟩
  · exact .inr ⟨rfl, rfl, by simpa using silent⟩
  · exact .inr ⟨rfl, rfl, by decide⟩
  · exact .inl ⟨rfl, by simpa using unnamed, rfl⟩

/-- A reply is accepted when its status is OK and it names the event; the error of a call that failed is the
server's, if it gives one. -/
theorem RpcReply.result_tells (reply : RpcReply) :
    (reply.result.accepted = true ↔ reply.ok = true ∧ reply.eventId ≠ []) ∧
      (reply.result.accepted = true → reply.result.eventId = reply.eventId) ∧
      (reply.ok = false → reply.errorMessage ≠ [] → reply.result.errorMessage = reply.errorMessage) := by
  rw [result]
  split_ifs with failed silent unnamed
  · have quiet := List.isEmpty_iff.mp silent
    exact ⟨by simp_all, by simp, fun _ told => absurd quiet told⟩
  · exact ⟨by simp_all, by simp, fun _ _ => rfl⟩
  · exact ⟨by simp_all, by simp, fun failure => absurd failure (by simpa using failed)⟩
  · exact ⟨by simp_all, fun _ => rfl, fun failure => absurd failure (by simpa using failed)⟩

section

variable [Model.Floating Double] {σ : Type} (rpc : Proto.TelemetryEvent Double → StateM σ RpcReply) (state : σ)

/-- Without a message there is no call. -/
theorem submitIn_run_none {event : Model.TelemetryEvent Double} (invalid : Proto.toProto event = none) :
    (submitIn rpc event).run state = (⟨false, [], ascii "Invalid telemetry event"⟩, state) := by
  rw [submitIn, invalid]
  rfl

theorem submitIn_run_some {event : Model.TelemetryEvent Double} {message : Proto.TelemetryEvent Double}
    (converted : Proto.toProto event = some message) :
    (submitIn rpc event).run state = (((rpc message).run state).1.result, ((rpc message).run state).2) := by
  rw [submitIn, converted]
  rfl

/-- Whatever the surroundings do, the result is decided. -/
theorem submitIn_decided (event : Model.TelemetryEvent Double) :
    ((submitIn rpc event).run state).1.Decided := by
  cases converted : Proto.toProto event with
  | none =>
    rw [submitIn_run_none rpc state converted]
    have text : ascii "Invalid telemetry event" ≠ [] := by decide
    exact .inr ⟨rfl, rfl, text⟩
  | some message =>
    rw [submitIn_run_some rpc state converted]
    exact RpcReply.result_decided _

end

end Guardian.Agent
