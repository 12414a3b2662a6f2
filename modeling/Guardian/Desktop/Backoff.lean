import Guardian.Desktop.Course
import Guardian.Proto.Codec

/-! # Reconnecting

Every loss of the socket arms the reconnect timer once, with a delay that is looked up by the number
of delays armed since the client was started or connected. Attempts do not overlap and do not outlive
`stop`, and the connection state moves along the edges of its diagram.
-/

namespace Guardian.Desktop

open Machine (Record logged recorded run)
open Proto (Libraries)

variable {Double : Type}

/-- The delay that an effect arms. -/
def Effect.armed : Effect Double → Option ℕ
  | .startReconnectTimer delayMs => some delayMs
  | _ => none

/-- The connection state that an effect reports. -/
def Effect.reported : Effect Double → Option ConnectionState
  | .connectionStateChanged state => some state
  | _ => none

/-- The moves of the connection state that the client's documentation draws. -/
def ConnectionState.move : ConnectionState → ConnectionState → Option ConnectionState
  | .disconnected, .connecting => some .connecting
  | .connecting, .connected => some .connected
  | .connecting, .disconnected => some .disconnected
  | .connected, .disconnected => some .disconnected
  | _, _ => none

namespace LocalAgentClient

/-- The events with which the count of delays starts over. -/
def restarts (client : LocalAgentClient) : Event → Bool
  | .start => !client.running
  | .connected _ => true
  | _ => false

theorem armed_of_quiet {effects : List (Effect Double)} (quiet : ∀ effect ∈ effects, effect.notable = false) :
    effects.filterMap Effect.armed = [] ∧ effects.filterMap Effect.reported = [] ∧
      .connectToServer ∉ effects := by
  refine ⟨List.filterMap_eq_nil_iff.mpr ?_, List.filterMap_eq_nil_iff.mpr ?_, fun member => ?_⟩
  · intro effect member
    have silent := quiet effect member
    cases effect <;> simp_all [Effect.notable, Effect.armed]
  · intro effect member
    have silent := quiet effect member
    cases effect <;> simp_all [Effect.notable, Effect.reported]
  · exact absurd (quiet _ member) (by simp [Effect.notable])

theorem Complains.quiet {complaint : List (Effect Double)} (complains : Complains complaint) :
    ∀ effect ∈ complaint, effect.notable = false := by
  rcases complains with rfl | ⟨message, rfl⟩ <;> simp [Effect.notable]

/-- What a course arms, reports and attempts. -/
structure Summary (client : LocalAgentClient) (event : Event) (next : LocalAgentClient)
    (effects : List (Effect Double)) : Prop where
  armed : effects.filterMap Effect.armed =
    if client.socket ≠ .unconnected ∧ next.socket = .unconnected ∧ next.running = true then
      [delay (if client.restarts event then 0 else client.reconnectAttempt)]
    else []
  attempt : next.reconnectAttempt =
    min ((if client.restarts event then 0 else client.reconnectAttempt) +
      (effects.filterMap Effect.armed).length) 3
  reported : run ConnectionState.move client.connectionState (effects.filterMap Effect.reported) =
    some next.connectionState
  attempted : .connectToServer ∈ effects →
    effects = [.connectionStateChanged .connecting, .connectToServer] ∧
      (event = .start ∨ event = .reconnectTimeout) ∧ client.socket = .unconnected ∧
      next.socket = .connecting ∧ next.running = true ∧ next.reconnectTimer = false

/-- A drop arms one delay and reports one move. -/
theorem drop_shows {lib : Libraries Double} (client : LocalAgentClient) {other : LocalAgentClient}
    {talk complaint : List (Effect Double)} (said : Talk lib other talk) (complains : Complains complaint) :
    (talk ++ complaint ++ client.dropEffects).filterMap Effect.armed = [delay client.reconnectAttempt] ∧
      (talk ++ complaint ++ client.dropEffects).filterMap Effect.reported = [.disconnected] ∧
      .connectToServer ∉ talk ++ complaint ++ client.dropEffects := by
  obtain ⟨armed, reported, silent⟩ := armed_of_quiet said.quiet
  obtain ⟨armed', reported', silent'⟩ := armed_of_quiet complains.quiet
  simp only [List.filterMap_append, armed, armed', reported, reported', List.mem_append, silent, silent',
    false_or]
  exact ⟨rfl, rfl, by simp [dropEffects]⟩

@[simp] theorem armed_changed (state : ConnectionState) (effects : List (Effect Double)) :
    (.connectionStateChanged state :: effects).filterMap Effect.armed = effects.filterMap Effect.armed := rfl

@[simp] theorem reported_changed (state : ConnectionState) (effects : List (Effect Double)) :
    (.connectionStateChanged state :: effects).filterMap Effect.reported =
      state :: effects.filterMap Effect.reported := rfl

@[simp] theorem armed_attempt :
    ([.connectToServer] : List (Effect Double)).filterMap Effect.armed = [] := rfl

@[simp] theorem reported_attempt :
    ([.connectToServer] : List (Effect Double)).filterMap Effect.reported = [] := rfl

/-- Beginning an attempt arms nothing. -/
theorem begun_summary {client : LocalAgentClient} {event : Event} {attempt : ℕ} (tidy : client.Tidy)
    (idle : client.socket = .unconnected) (cause : event = .start ∨ event = .reconnectTimeout)
    (base : (if client.restarts event then 0 else client.reconnectAttempt) = attempt) (bound : attempt ≤ 3) :
    Summary client event (client.begun attempt)
      ([.connectionStateChanged .connecting, .connectToServer] : List (Effect Double)) := by
  refine ⟨by simp [begun], ?_, ?_, fun _ => ⟨rfl, cause, idle, rfl, rfl, rfl⟩⟩
  · rw [base, armed_changed, armed_attempt]
    exact (Nat.min_eq_left bound).symm
  · rw [reported_changed, reported_attempt, tidy.shown, idle]
    rfl

/-- An event that neither arms nor attempts anything. -/
theorem silent_summary {client next : LocalAgentClient} {event : Event} {effects : List (Effect Double)}
    (armed : effects.filterMap Effect.armed = []) (quiet : .connectToServer ∉ effects)
    (kept : ¬(client.socket ≠ .unconnected ∧ next.socket = .unconnected ∧ next.running = true))
    (attempt : next.reconnectAttempt = min (if client.restarts event then 0 else client.reconnectAttempt) 3)
    (reported : run ConnectionState.move client.connectionState (effects.filterMap Effect.reported) =
      some next.connectionState) : Summary client event next effects where
  armed := by rw [armed, if_neg kept]
  attempt := by rw [armed, attempt]; rfl
  reported := reported
  attempted attempted := absurd attempted quiet

theorem Course.summary {lib : Libraries Double} {client next : LocalAgentClient} {event : Event}
    {effects : List (Effect Double)} (tidy : client.Tidy) (course : Course lib client event next effects) :
    Summary client event next effects := by
  have settled : client.reconnectAttempt = min client.reconnectAttempt 3 := (Nat.min_eq_left tidy.attempt).symm
  cases course with
  | keep buffer said ordinary idle =>
    obtain ⟨armed, reported, quiet⟩ := armed_of_quiet said.quiet
    have continues : client.restarts event = false := by
      cases event <;> simp_all [restarts, Event.ordinary]
    exact silent_summary armed quiet (fun lost => lost.1 lost.2.1) (by rw [continues]; exact settled)
      (by rw [reported]; rfl)
  | mute lost kept =>
    exact silent_summary rfl (by simp) (fun lost => lost.1 lost.2.1) settled rfl
  | start stopped =>
    exact begun_summary tidy (tidy.idle stopped).1 (.inl rfl) (by simp [restarts, stopped]) (Nat.zero_le _)
  | retry pending =>
    exact begun_summary tidy (tidy.armed.mp pending).2 (.inr rfl) rfl tidy.attempt
  | establish accepted awaited said =>
    obtain ⟨armed, reported, quiet⟩ := armed_of_quiet said.quiet
    refine silent_summary armed (by simp [quiet]) (by simp [established]) rfl ?_
    rw [reported_changed, reported, tidy.shown, awaited]
    rfl
  | refuse accepted awaited said complains =>
    obtain ⟨armed, reported, quiet⟩ := drop_shows client.established said complains
    rw [List.append_assoc, List.cons_append, ← List.append_assoc]
    have running := tidy.running (by rw [awaited]; decide)
    refine ⟨?_, ?_, ?_, fun attempted => absurd attempted (List.not_mem_cons_of_ne_of_not_mem (by simp) quiet)⟩
    · rw [armed_changed, armed, if_pos ⟨by rw [awaited]; decide, rfl, running⟩]
      rfl
    · rw [armed_changed, armed]
      rfl
    · rw [reported_changed, reported, tidy.shown, awaited]
      rfl
  | close inUse =>
    exact silent_summary rfl (by simp) (by simp) settled rfl
  | drop buffer inUse said complains ordinary =>
    obtain ⟨armed, reported, quiet⟩ := drop_shows client said complains
    have continues : client.restarts event = false := by
      cases event <;> simp_all [restarts, Event.ordinary]
    refine ⟨?_, ?_, ?_, fun attempted => absurd attempted quiet⟩
    · rw [armed, if_pos ⟨inUse, rfl, tidy.running inUse⟩, continues]
      rfl
    · rw [armed, continues]
      rfl
    · have shown := connectionState_ne tidy inUse
      rw [reported]
      cases state : client.connectionState <;> first | rfl | exact absurd state shown
  | stop =>
    refine silent_summary ?_ ?_ (by simp) settled ?_
    · split <;> rfl
    · split <;> simp
    · split
      · next idle =>
        rw [tidy.shown, idle]
        rfl
      · next inUse =>
        have shown := connectionState_ne tidy inUse
        cases state : client.connectionState <;> first | rfl | exact absurd state shown

/-! ## Runs -/

/-- What a step means for the delays. -/
inductive Mark where
  | restart
  | armed (delayMs : ℕ)

def marks (record : Record LocalAgentClient Event (Effect Double)) : List Mark :=
  (if record.source.restarts record.input then [.restart] else []) ++
    (record.emitted.filterMap Effect.armed).map .armed

/-- The law of the delays: the one armed after `count` others is the next of the table, and the last
of the table from there on. -/
def backoffLaw (count : ℕ) : Mark → Option ℕ
  | .restart => some 0
  | .armed delayMs => if reconnectDelaysMs[min count 3]? = some delayMs then some (count + 1) else none

theorem getElem?_delay (count : ℕ) : reconnectDelaysMs[min count 3]? = some (delay (min count 3)) := by
  have bound : min count 3 < reconnectDelaysMs.length := Nat.lt_succ_of_le (Nat.min_le_right ..)
  rw [delay, Nat.min_eq_left (Nat.min_le_right ..), List.getD_eq_getElem?_getD, List.getElem?_eq_getElem bound,
    Option.getD_some]

/-- The marks of one step obey the law when the index of the client counts the delays. -/
theorem Summary.law {client next : LocalAgentClient} {event : Event} {effects : List (Effect Double)}
    (summary : Summary client event next effects) {count : ℕ}
    (counted : client.reconnectAttempt = min count 3) :
    ∃ total, run backoffLaw count (marks ⟨client, event, next, effects⟩) = some total ∧
      next.reconnectAttempt = min total 3 := by
  obtain ⟨base, restarted, index⟩ : ∃ base,
      run backoffLaw count (if client.restarts event then [.restart] else []) = some base ∧
        (if client.restarts event then 0 else client.reconnectAttempt) = min base 3 := by
    cases client.restarts event with
    | true => exact ⟨0, rfl, rfl⟩
    | false => exact ⟨count, rfl, counted⟩
  have attempt := summary.attempt
  rw [marks]
  simp only [Machine.run_append, restarted, Option.bind_some]
  rw [index] at attempt
  rw [summary.armed, index] at attempt ⊢
  split
  · next lost =>
    refine ⟨base + 1, ?_, ?_⟩
    · simp [backoffLaw, getElem?_delay]
    · rw [attempt, if_pos lost, List.length_singleton]
      omega
  · next kept =>
    refine ⟨base, rfl, ?_⟩
    rw [attempt, if_neg kept]
    simp

/-- Every recorded step was taken in a tidy state, and so is the last state. -/
theorem records_taken {lib : Libraries Double} {events : List Event} {client : LocalAgentClient}
    {records : List (Record LocalAgentClient Event (Effect Double))}
    (reached : run (logged (recorded (step lib))) ({}, []) events = some (client, records)) :
    client.Tidy ∧ ∀ record ∈ records, record.source.Tidy ∧
      step lib record.source record.input = some (record.target, record.emitted) := by
  refine Machine.recorded_invariant (fun client records => client.Tidy ∧ ∀ record ∈ records,
    record.source.Tidy ∧
    step lib record.source record.input = some (record.target, record.emitted)) ?_ reached
    ⟨Tidy.initial, by simp⟩
  rintro source past event target emitted taken ⟨tidy, earlier⟩
  refine ⟨tidy.course (step_course tidy taken), fun record member => ?_⟩
  rcases List.mem_append.mp member with before | last
  · exact earlier record before
  · obtain rfl := List.mem_singleton.mp last
    exact ⟨tidy, taken⟩

/-- The delays of a run obey the law, and its reports are moves of the diagram. -/
theorem records_lawful {lib : Libraries Double} {events : List Event} {client : LocalAgentClient}
    {records : List (Record LocalAgentClient Event (Effect Double))}
    (reached : run (logged (recorded (step lib))) ({}, []) events = some (client, records)) :
    (∃ count, run backoffLaw 0 (records.flatMap marks) = some count ∧ client.reconnectAttempt = min count 3) ∧
      run ConnectionState.move .disconnected
        ((records.flatMap Record.emitted).filterMap Effect.reported) = some client.connectionState := by
  have lawful := Machine.recorded_invariant (fun client records => client.Tidy ∧
    (∃ count, run backoffLaw 0 (records.flatMap marks) = some count ∧ client.reconnectAttempt = min count 3) ∧
      run ConnectionState.move .disconnected
        ((records.flatMap Record.emitted).filterMap Effect.reported) = some client.connectionState) ?_ reached
    ⟨Tidy.initial, ⟨0, rfl, rfl⟩, rfl⟩
  · exact lawful.2
  · rintro source past event target emitted taken ⟨tidy, ⟨count, counted, index⟩, moved⟩
    have course := step_course tidy taken
    have summary := course.summary tidy
    obtain ⟨total, marked, next⟩ := summary.law index
    refine ⟨tidy.course course, ⟨total, ?_, next⟩, ?_⟩
    · rw [List.flatMap_append, Machine.run_append, counted, List.flatMap_singleton]
      exact marked
    · rw [List.flatMap_append, List.filterMap_append, Machine.run_append, moved, List.flatMap_singleton]
      exact summary.reported

/-- A stopped client stays stopped and silent until it is started. -/
theorem step_stopped {lib : Libraries Double} {client next : LocalAgentClient} {event : Event}
    {effects : List (Effect Double)} (tidy : client.Tidy) (stopped : client.running = false)
    (other : event ≠ .start) (taken : client.step lib event = some (next, effects)) :
    next.running = false ∧ effects.filterMap Effect.armed = [] ∧ .connectToServer ∉ effects := by
  have course := step_course tidy taken
  have summary := course.summary tidy
  have idle := (tidy.idle stopped).1
  have off : next.running = false := by
    cases course with
    | retry pending => simpa [stopped] using tidy.armed.mp pending
    | start => exact absurd rfl other
    | stop => rfl
    | _ => exact stopped
  refine ⟨off, by rw [summary.armed, if_neg]; simp [off], fun attempted => ?_⟩
  have running := (summary.attempted attempted).2.2.2.2.1
  simp [off] at running

/-- After a stop nothing is armed and nothing attempted until the next start. -/
theorem records_stopped {lib : Libraries Double} {events : List Event} {client : LocalAgentClient}
    {records : List (Record LocalAgentClient Event (Effect Double))}
    (reached : run (logged (recorded (step lib))) ({}, []) events = some (client, records)) :
    ∀ before stop after, records = before ++ stop :: after → stop.input = .stop →
      (∀ record ∈ after, record.input ≠ .start) →
      ∀ record ∈ after, record.emitted.filterMap Effect.armed = [] ∧ .connectToServer ∉ record.emitted := by
  have silent := Machine.recorded_invariant (fun client records => client.Tidy ∧
    ∀ before stop after, records = before ++ stop :: after → stop.input = .stop →
      (∀ record ∈ after, record.input ≠ .start) → client.running = false ∧
      ∀ record ∈ after, record.emitted.filterMap Effect.armed = [] ∧ .connectToServer ∉ record.emitted) ?_
    reached
    ⟨Tidy.initial, by simp⟩
  · intro before stop after split stopped unstarted
    exact (silent.2 before stop after split stopped unstarted).2
  · rintro source past event target emitted taken ⟨tidy, earlier⟩
    refine ⟨tidy.course (step_course tidy taken), fun before stop after split stopped unstarted => ?_⟩
    rcases List.eq_nil_or_concat after with rfl | ⟨middle, last, rfl⟩
    · obtain ⟨rfl, same⟩ := List.append_inj' split rfl
      obtain rfl := (List.cons.inj same).1
      obtain rfl : event = .stop := stopped
      rw [step, stop_eq tidy] at taken
      cases taken
      exact ⟨rfl, by simp⟩
    · rw [List.concat_eq_append, ← List.cons_append, ← List.append_assoc] at split
      obtain ⟨front, same⟩ := List.append_inj' split rfl
      obtain rfl := (List.cons.inj same).1
      have middles : ∀ record ∈ middle, record.input ≠ .start := fun record member =>
        unstarted record (by simp [member])
      obtain ⟨off, quiet⟩ := earlier before stop middle front stopped middles
      obtain ⟨stays, last⟩ := step_stopped tidy off
        (unstarted ⟨source, event, target, emitted⟩ (by simp)) taken
      refine ⟨stays, fun record member => ?_⟩
      rw [List.concat_eq_append] at member
      rcases List.mem_append.mp member with earlier | here
      · exact quiet record earlier
      · obtain rfl := List.mem_singleton.mp here
        exact last

/-- Backoff and single attempt. In every run each loss of the socket of a running client arms the
reconnect timer exactly once, whatever signals report it; the n-th delay since the last start or
connection is the n-th of the table, and its last one from there on; an attempt is made only by a
running client whose socket is unconnected and whose timer is not pending; after a stop nothing is
armed or attempted until the next start; and only moves of the state diagram are reported. -/
theorem backoff (lib : Libraries Double) {events : List Event} {client : LocalAgentClient}
    {records : List (Record LocalAgentClient Event (Effect Double))}
    (reached : run (logged (recorded (step lib))) ({}, []) events = some (client, records)) :
    (∀ record ∈ records, (record.emitted.filterMap Effect.armed).length =
      if record.source.socket ≠ .unconnected ∧ record.target.socket = .unconnected ∧
        record.target.running = true then 1 else 0) ∧
    (∃ count, run backoffLaw 0 (records.flatMap marks) = some count) ∧
    (∀ record ∈ records, .connectToServer ∈ record.emitted →
      record.emitted = [.connectionStateChanged .connecting, .connectToServer] ∧
        (record.input = .start ∨ record.input = .reconnectTimeout) ∧ record.source.socket = .unconnected ∧
        record.target.socket = .connecting ∧ record.target.running = true ∧
        record.target.reconnectTimer = false) ∧
    (∀ before stop after, records = before ++ stop :: after → stop.input = .stop →
      (∀ record ∈ after, record.input ≠ .start) →
      ∀ record ∈ after, record.emitted.filterMap Effect.armed = [] ∧ .connectToServer ∉ record.emitted) ∧
    run ConnectionState.move .disconnected ((records.flatMap Record.emitted).filterMap Effect.reported) =
      some client.connectionState := by
  obtain ⟨-, taken⟩ := records_taken reached
  have summaries : ∀ record ∈ records,
      Summary record.source record.input record.target record.emitted := by
    intro record member
    obtain ⟨tidy, step⟩ := taken record member
    exact (step_course tidy step).summary tidy
  obtain ⟨⟨count, counted, -⟩, moved⟩ := records_lawful reached
  refine ⟨fun record member => ?_, ⟨count, counted⟩, fun record member => (summaries record member).attempted,
    records_stopped reached, moved⟩
  rw [(summaries record member).armed]
  split <;> rfl

/-- Two failed attempts, a connection that is lost after an error signal, and a stop. -/
def sampleEvents : List Event :=
  [.start, .errorOccurred true, .reconnectTimeout, .errorOccurred true, .disconnected, .reconnectTimeout,
    .connected 6, .errorOccurred true, .disconnected, .stop, .start]

theorem backoff_sample :
    ∃ client records,
      run (logged (recorded (step Proto.Codec.libraries))) ({}, []) sampleEvents = some (client, records) ∧
        (records.flatMap Record.emitted).filterMap Effect.armed = [500, 1000, 500] ∧
        ∃ count, run backoffLaw 0 (records.flatMap marks) = some count := by
  have taken : (run (logged (recorded (step Proto.Codec.libraries))) ({}, []) sampleEvents).map
      (fun entry => (entry.2.flatMap Record.emitted).filterMap Effect.armed) = some [500, 1000, 500] := by
    decide
  obtain ⟨⟨client, records⟩, reached, delays⟩ := Option.map_eq_some_iff.mp taken
  exact ⟨client, records, reached, delays, (backoff Proto.Codec.libraries reached).2.1⟩

end LocalAgentClient

end Guardian.Desktop
