import Guardian.Proto.Telemetry

/-! # The server's telemetry service

The handler of one call. It converts the request back into an event and answers with the event's
identifier; a request that is not the message of a valid event is refused, and the response stays as
it was. The two pointers of the call may be null.
-/

namespace Guardian.Server

open Ipc (Bytes)
open Model (ascii)

variable {Double : Type}

inductive StatusCode where
  | ok
  | invalidArgument
deriving DecidableEq, Repr

structure Status where
  code : StatusCode := .ok
  errorMessage : Bytes := []
deriving DecidableEq

structure SubmitTelemetryResponse where
  eventId : Bytes := []
deriving DecidableEq

def submitTelemetry [Model.Floating Double] (request : Option (Proto.TelemetryEvent Double))
    (response : Option SubmitTelemetryResponse) : Status × Option SubmitTelemetryResponse :=
  match request, response with
  | some request, some response =>
      match Proto.fromProto request with
      | none => (⟨.invalidArgument, ascii "Invalid telemetry event"⟩, some response)
      | some event => ({}, some { response with eventId := event.id })
  | _, response => (⟨.invalidArgument, ascii "Request and response must not be null"⟩, response)

variable [Model.Floating Double]

/-- A request that is refused leaves the response as it was. -/
theorem submitTelemetry_untouched (request : Option (Proto.TelemetryEvent Double))
    (response : Option SubmitTelemetryResponse) (refused : (submitTelemetry request response).1.code ≠ .ok) :
    (submitTelemetry request response).2 = response := by
  cases request with
  | none => rfl
  | some message =>
    cases response with
    | none => rfl
    | some reply =>
      simp only [submitTelemetry] at refused ⊢
      cases decoded : Proto.fromProto message with
      | none => rfl
      | some event =>
        rw [decoded] at refused
        exact absurd rfl refused

theorem submitTelemetry_ok_iff (request : Proto.TelemetryEvent Double) (response : SubmitTelemetryResponse) :
    (submitTelemetry (some request) (some response)).1.code = .ok ↔ ∃ event, Proto.fromProto request = some event := by
  simp only [submitTelemetry]
  cases Proto.fromProto request <;> simp

end Guardian.Server
