import Guardian.Desktop.Freshness
import Guardian.Desktop.Traffic

/-! # One manual refresh at a time

Requests are sent by the client itself, upon a connection and at every tick of the poll timer, and by
`refresh`. They are answered in the order in which they were sent, so an observer knows whose request
a response answers; the view model does not.
-/

namespace Guardian.Desktop

open Ipc (Bytes encodeFrame frameDecoder)
open LocalAgentClient (Event requestFrame)
open Machine (Meets Throughout run)
open Proto (Libraries)

variable {Double : Type}

inductive Sender where
  | automatic
  | manual
deriving DecidableEq, Repr

def Gui.Input.sender : Gui.Input → Sender
  | .client _ => .automatic
  | .refresh _ => .manual

/-- The senders of the requests that are unanswered on the current connection, the oldest first. -/
def noteRequest (input : Gui.Input) (outstanding : List Sender) : Effect Double → List Sender
  | .write _ => outstanding ++ [input.sender]
  | .snapshotReceived _ => outstanding.tail
  | .connectionStateChanged _ => []
  | _ => outstanding

namespace Refreshing

/-- While a manual request is unanswered, the view model counts as refreshing. -/
def Guarded (watched : Watched Double (List Sender)) : Prop :=
  .manual ∈ watched.record → watched.gui.model.refreshing = true

/-- A read whose responses answer some request also answers every manual one. -/
def settles (lib : Libraries Double) (watched : Watched Double (List Sender)) :
    Gui.Input × (ℕ → Int64) → Bool
  | (.client (.readyRead data), _) =>
      let scan := frameDecoder.scan (checkResponse lib) (watched.gui.client.receiveBuffer ++ data)
      match scan.ending with
      | .waiting _ => scan.items.isEmpty || !decide (.manual ∈ watched.record.drop scan.items.length)
      | _ => true
  | _ => true

theorem settles_of_unread (lib : Libraries Double) (watched : Watched Double (List Sender)) {event : Event}
    (clock : ℕ → Int64) (unread : ∀ data, event ≠ .readyRead data) :
    settles lib watched (.client event, clock) = true := by
  cases event with
  | readyRead data => exact absurd rfl (unread data)
  | _ => rfl

section

variable (formatTime : Int64 → String) {event : Event}

/-- Effects of the client itself do not add a manual request. -/
theorem notMem_noteRequest {outstanding : List Sender} (absent : .manual ∉ outstanding)
    (effect : Effect Double) :
    .manual ∉ noteRequest (.client event) outstanding effect := by
  cases effect with
  | write bytes => simpa [noteRequest, Gui.Input.sender] using absent
  | snapshotReceived snapshot => exact fun member => absent (List.mem_of_mem_tail member)
  | connectionStateChanged state => exact List.not_mem_nil
  | connectToServer | parse payload | protocolError message | startReconnectTimer delayMs | abort =>
    exact absent

/-- A path without responses keeps the guard. -/
theorem guarded_of_path {state final : ConnectionState} {effects : List (Effect Double)}
    (path : Path state effects final) (unheard : ∀ snapshot, .snapshotReceived snapshot ∉ effects)
    (gui : Gui Double) {outstanding : List Sender}
    (guarded : .manual ∈ outstanding → gui.model.refreshing = true) (clock : ℕ → Int64) :
    .manual ∈ effects.foldl (noteRequest (.client event)) outstanding →
      (gui.applyAll formatTime clock effects).model.refreshing = true := by
  apply path.keeps formatTime (noteRequest (.client event)) fun _ gui outstanding =>
    .manual ∈ outstanding → gui.model.refreshing = true
  · intro state next gui outstanding now _ _ member
    cases member
  · intro snapshot member
    exact absurd member (unheard snapshot)
  · intro message gui outstanding now later state _ _ member
    cases member
  · intro state gui outstanding effect _ held member
    by_contra idle
    exact notMem_noteRequest (fun before => idle (held before)) effect member
  · exact guarded

/-- A path out of a connection leaves no manual request behind. -/
theorem notMem_of_path {final : ConnectionState} {effects : List (Effect Double)}
    (path : Path .connected effects final) (left : final ≠ .connected) (gui : Gui Double)
    (outstanding : List Sender) :
    .manual ∉ effects.foldl (noteRequest (.client event)) outstanding := by
  refine path.keeps (fun _ => "") (noteRequest (.client event))
    (fun state _ outstanding => state ≠ .connected → .manual ∉ outstanding) ?_ ?_ ?_ ?_ gui outstanding
    (fun outside => absurd rfl outside) (fun _ => 0) left
  · intro state next gui outstanding now _ _ _
    exact List.not_mem_nil
  · intro snapshot _ gui outstanding now _ outside
    exact absurd rfl outside
  · intro message gui outstanding now later state _ _ _
    exact List.not_mem_nil
  · intro state gui outstanding effect _ held outside
    exact notMem_noteRequest (held outside) effect

/-- A response is taken from the front of what is outstanding, and the refresh counts as done. -/
theorem read_accepted (event : Event) {lib : Libraries Double} {payloads : List Bytes}
    (accepted : ∀ payload ∈ payloads, checkResponse lib payload = none) (gui : Gui Double)
    (outstanding : List Sender) (clock : ℕ → Int64) :
    (payloads.flatMap (report lib)).foldl (noteRequest (.client event)) outstanding =
        outstanding.drop payloads.length ∧
      (gui.applyAll formatTime clock (payloads.flatMap (report lib))).model.refreshing =
        if payloads = [] then gui.model.refreshing else false := by
  induction payloads generalizing gui outstanding with
  | nil => exact ⟨List.drop_zero.symm, rfl⟩
  | cons payload rest ih =>
    obtain ⟨response, reported⟩ := report_unrefused (accepted payload (List.mem_cons_self ..))
    have later := ih fun other member => accepted other (List.mem_cons_of_mem _ member)
    have done (now : Int64) (snapshot : LocalAgentSnapshot Double) :
        (gui.apply formatTime now (.snapshotReceived snapshot)).model.refreshing = false :=
      gui.model.applySnapshot_refreshing formatTime now snapshot
    rw [List.flatMap_cons, reported, List.cons_append, List.cons_append, List.nil_append]
    constructor
    · rw [List.length_cons, ← List.drop_tail]
      exact (later gui outstanding.tail).1
    · rw [if_neg (List.cons_ne_nil payload rest)]
      refine (later _ outstanding).2.trans ?_
      split
      · exact done ..
      · rfl

end

section

variable [Zero Double] [DecidableEq Double] {lib : Libraries Double} (documented : lib.Documented)
  {formatTime : Int64 → String}
include documented

/-- Only a read emits snapshots. -/
theorem unheard {client next : LocalAgentClient} {event : Event} {effects : List (Effect Double)}
    (taken : client.step lib event = some (next, effects)) (unread : ∀ data, event ≠ .readyRead data)
    (snapshot : LocalAgentSnapshot Double) : .snapshotReceived snapshot ∉ effects := by
  have serialized := documented.serialize_request protocolVersion (by decide) (by decide)
  have encoded : encodeFrame [0x08, protocolVersion.toUInt8] = some requestFrame := rfl
  have traffic : LocalAgentClient.Traffic lib requestFrame client event next effects :=
    LocalAgentClient.step_traffic serialized encoded taken
  have quiet : reports effects = [] := by
    cases traffic with
    | kept _ _ _ _ quiet => exact quiet
    | requested _ _ _ quiet => exact quiet
    | opened _ _ _ _ quiet => exact quiet
    | read _ => exact absurd rfl (unread _)
    | gone _ _ quiet => exact quiet
  intro member
  have reported : .snapshotReceived snapshot ∈ reports effects := List.mem_filter.mpr ⟨member, rfl⟩
  rw [quiet] at reported
  cases reported

/-- A read keeps the guard exactly when its responses leave no manual request behind. -/
theorem guarded_read_iff {watched next : Watched Double (List Sender)} {data : Bytes} {clock : ℕ → Int64}
    (coherent : watched.gui.Coherent) (guarded : Guarded watched)
    (taken : watched.step lib formatTime noteRequest (.client (.readyRead data), clock) = some next) :
    Guarded next ↔ settles lib watched (.client (.readyRead data), clock) = true := by
  obtain ⟨⟨client, effects⟩, stepped, rfl⟩ := Option.map_eq_some_iff.mp taken
  have tidy := coherent.tidy
  have course := LocalAgentClient.step_course tidy stepped
  have path := Path.of_course (Gui.canRequest_of_documented documented) tidy course
  obtain ⟨held, same⟩ := Option.ite_none_right_eq_some.mp stepped
  have inUse : watched.gui.client.socket ≠ .unconnected := by rcases held with held | held <;> simp [held]
  have connected : watched.gui.client.connectionState = .connected := by
    rw [tidy.shown]
    rcases held with held | held <;> rw [held] <;> rfl
  rw [LocalAgentClient.handleReadyRead_eq lib data _ inUse] at same
  rw [connected] at path
  by_cases waits : ∃ rest,
      (frameDecoder.scan (checkResponse lib) (watched.gui.client.receiveBuffer ++ data)).ending = .waiting rest
  · obtain ⟨rest, waits⟩ := waits
    have accepts := frameDecoder.scan_accepts (checkResponse lib) waits
    simp only [settles, LocalAgentClient.received, waits] at same ⊢
    generalize (frameDecoder.scan (checkResponse lib) (watched.gui.client.receiveBuffer ++ data)).items = items
      at same accepts ⊢
    obtain ⟨rfl, rfl⟩ := Prod.mk.inj (Option.some.inj same)
    have read (gui : Gui Double) := read_accepted formatTime (.readyRead data) accepts gui watched.record clock
    simp only [Guarded, (read watched.gui).1, fun gui => (read gui).2]
    rcases List.eq_nil_or_concat items with rfl | ⟨early, last, rfl⟩
    · exact iff_of_true guarded rfl
    · simp
  · have left : client.connectionState ≠ .connected := by
      have dropped := LocalAgentClient.received_dropped lib tidy inUse (not_exists.mp waits)
      obtain rfl : client = watched.gui.client.dropped [] := by rw [← dropped, Option.some.inj same]
      exact ConnectionState.noConfusion
    have settled : settles lib watched (.client (.readyRead data), clock) = true := by
      rw [settles]
      split
      · next rest waiting => exact absurd ⟨rest, waiting⟩ waits
      · rfl
    apply iff_of_true _ settled
    intro member
    exact absurd member (notMem_of_path path left watched.gui watched.record)

/-- A step keeps the guard exactly when it settles what it answers. -/
theorem guarded_iff {watched next : Watched Double (List Sender)} {input : Gui.Input × (ℕ → Int64)}
    (coherent : watched.gui.Coherent) (guarded : Guarded watched)
    (taken : watched.step lib formatTime noteRequest input = some next) :
    Guarded next ↔ settles lib watched input = true := by
  obtain ⟨input, clock⟩ := input
  cases input with
  | client event =>
    by_cases read : ∃ data, event = .readyRead data
    · obtain ⟨data, rfl⟩ := read
      exact guarded_read_iff documented coherent guarded taken
    · have unread := not_exists.mp read
      obtain ⟨⟨client, effects⟩, stepped, rfl⟩ := Option.map_eq_some_iff.mp taken
      have course := LocalAgentClient.step_course coherent.tidy stepped
      have path := Path.of_course (Gui.canRequest_of_documented documented) coherent.tidy course
      refine iff_of_true ?_ (settles_of_unread lib watched clock unread)
      exact guarded_of_path formatTime path (unheard documented stepped unread)
        { watched.gui with client := client } guarded clock
  | refresh accepted =>
    refine iff_of_true ?_ rfl
    simp only [Watched.step] at taken
    split at taken
    · cases taken
      exact guarded
    · next model began =>
      obtain ⟨-, -, rfl⟩ := SystemMetricsViewModel.beginRefresh_eq_some began
      cases taken
      rw [LocalAgentClient.requestSnapshot_eq documented accepted coherent.tidy]
      split_ifs with idle whole
      · exact fun _ => rfl
      · exact fun _ => rfl
      · exact fun member => absurd member List.not_mem_nil

end

/-- Before the first event nothing is outstanding. -/
def initial [Zero Double] : Watched Double (List Sender) := ⟨Gui.initial, []⟩

/-- In a run of the client and the view model, the guard holds between any two events, and no call of
`refresh` goes on to send while a manual request is unanswered, exactly when every read whose responses
leave the connection up and answer some request answers all the manual ones. -/
theorem one_manual_refresh_iff [Zero Double] [DecidableEq Double] {lib : Libraries Double}
    (documented : lib.Documented) (formatTime : Int64 → String) {inputs : List (Gui.Input × (ℕ → Int64))}
    {final : Watched Double (List Sender)}
    (reached : run (Watched.step lib formatTime noteRequest) initial inputs = some final) :
    (Throughout (Watched.step lib formatTime noteRequest) Guarded initial inputs ∧
      ∀ early accepted clock later watched, inputs = early ++ (.refresh accepted, clock) :: later →
        run (Watched.step lib formatTime noteRequest) initial early = some watched →
        watched.gui.model.beginRefresh ≠ none → .manual ∉ watched.record) ↔
    Meets (Watched.step lib formatTime noteRequest) (fun watched input => settles lib watched input = true)
      initial inputs := by
  have request := Gui.canRequest_of_documented documented
  have guarded : Guarded (initial : Watched Double (List Sender)) := by
    intro member
    cases member
  have settled := Machine.throughout_iff_meets (fun watched => watched.gui.Coherent)
    (fun _ _ _ taken coherent => Gui.Coherent.watched request coherent taken)
    (fun _ _ _ taken coherent guarded => guarded_iff documented coherent guarded taken) reached
    Gui.coherent_initial guarded
  rw [← settled]
  refine ⟨And.left, fun throughout => ⟨throughout, ?_⟩⟩
  intro early accepted clock later watched same arrived begins member
  obtain ⟨model, began⟩ := Option.ne_none_iff_exists'.mp begins
  obtain ⟨-, idle, -⟩ := SystemMetricsViewModel.beginRefresh_eq_some began
  rw [same] at throughout
  have busy := throughout.reached arrived member
  rw [idle] at busy
  cases busy

/-- A first response, a tick and a refresh behind it, and what is read then. -/
def sampleInputs (data : Bytes) : List (Gui.Input × (ℕ → Int64)) :=
  [(.client .start, fun _ => 0), (.client (.connected 6), fun _ => 0),
    (.client (.readyRead Gui.sampleFrame), fun _ => 6000), (.client (.pollTimeout 6), fun _ => 8000),
    (.refresh 6, fun _ => 8000), (.client (.readyRead data), fun _ => 8000)]

theorem one_manual_refresh_sample :
    ∃ watched, run (Watched.step Proto.Codec.libraries (fun _ => "") noteRequest) initial
        (sampleInputs (Gui.sampleFrame ++ Gui.sampleFrame)) = some watched ∧
      Throughout (Watched.step Proto.Codec.libraries (fun _ => "") noteRequest) Guarded initial
        (sampleInputs (Gui.sampleFrame ++ Gui.sampleFrame)) := by
  have taken : (run (Watched.step Proto.Codec.libraries (fun _ => "") noteRequest) initial
      (sampleInputs (Gui.sampleFrame ++ Gui.sampleFrame))).isSome = true := by decide +kernel
  obtain ⟨watched, reached⟩ := Option.isSome_iff_exists.mp taken
  have meets : Meets (Watched.step Proto.Codec.libraries (fun _ => "") noteRequest)
      (fun watched input => settles Proto.Codec.libraries watched input = true) initial
      (sampleInputs (Gui.sampleFrame ++ Gui.sampleFrame)) := by decide +kernel
  exact ⟨watched, reached, ((one_manual_refresh_iff Proto.Codec.documented (fun _ => "") reached).mpr meets).1⟩

/-- The response to the tick ends the refresh that was sent after it; a second one is sent beside it. -/
theorem two_manual_refreshes :
    ∃ watched next, run (Watched.step Proto.Codec.libraries (fun _ => "") noteRequest) initial
        (sampleInputs Gui.sampleFrame) = some watched ∧
      watched.gui.model.beginRefresh.isSome = true ∧ watched.record = [.manual] ∧
      watched.step Proto.Codec.libraries (fun _ => "") noteRequest (.refresh 6, fun _ => 8000) = some next ∧
      next.gui.connection = 1 ∧ next.record = [.manual, .manual] := by
  have taken : (run (Watched.step Proto.Codec.libraries (fun _ => "") noteRequest) initial
      (sampleInputs Gui.sampleFrame)).map (fun watched => (watched.gui.model.beginRefresh.isSome, watched.record,
        (watched.step Proto.Codec.libraries (fun _ => "") noteRequest (.refresh 6, fun _ => 8000)).map fun next =>
          (next.gui.connection, next.record))) =
      some (true, [.manual], some (1, [.manual, .manual])) := by decide +kernel
  obtain ⟨watched, reached, same⟩ := Option.map_eq_some_iff.mp taken
  obtain ⟨begins, rest⟩ := Prod.mk.inj same
  obtain ⟨outstanding, after⟩ := Prod.mk.inj rest
  obtain ⟨next, sent, shown⟩ := Option.map_eq_some_iff.mp after
  obtain ⟨connection, record⟩ := Prod.mk.inj shown
  exact ⟨watched, next, reached, begins, outstanding, sent, connection, record⟩

end Refreshing

end Guardian.Desktop
