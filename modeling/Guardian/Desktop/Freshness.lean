import Guardian.Desktop.Gui

/-! # Old data is never shown as new

The record of the last response applied and of the connection on which it came says what the flags may
promise: data that is not marked stale came on the current connection and was recent when it was applied.
-/

namespace Guardian.Desktop

open LocalAgentClient (CanRequest Course Event Tidy)
open Machine (run)
open Proto (Libraries)
open SystemMetricsViewModel (Names isStale)

variable {Double : Type}

namespace Gui

/-! ## What the flags promise -/

/-- The response came on the connection, with a time of measurement that was recent. -/
def Recent (applied : Applied Double) (connection : ℕ) : Prop :=
  applied.connection = connection ∧ applied.snapshot.hasSnapshot = true ∧
    0 < applied.snapshot.collectedAtUnixMs.toInt ∧
    applied.now.toInt - applied.snapshot.collectedAtUnixMs.toInt ≤ 15000

structure Fresh (state : ConnectionState) (gui : Gui Double) : Prop where
  available : gui.model.agentAvailable = true ↔ state = .connected
  gone : gui.model.hasSnapshot = true → state ≠ .connected → gui.model.dataStale = true
  current : gui.model.hasSnapshot = true → gui.model.dataStale = false →
    ∃ applied, gui.last = some applied ∧ Recent applied gui.connection

structure Truthful (state : ConnectionState) (gui : Gui Double) : Prop extends Fresh state gui where
  named : gui.model.hasSnapshot = true → gui.model.dataStale = false → gui.model.refreshing = false →
    ∀ applied, gui.last = some applied → Names gui.model.statusText applied.snapshot

section Slots

variable (formatTime : Int64 → String) (now : Int64) {state : ConnectionState} {gui : Gui Double}

/-- A reported move of the connection state keeps the flags truthful. -/
theorem Fresh.changed {next : ConnectionState} (fresh : Fresh state gui)
    (moved : state.move next = some next) :
    Truthful next (gui.apply formatTime now (.connectionStateChanged next)) := by
  cases next with
  | connecting =>
    have outside : state ≠ .connected := by rintro rfl; cases moved
    refine ⟨⟨by simp [apply, SystemMetricsViewModel.applyEffect, SystemMetricsViewModel.applyConnectionState],
      fun shown _ => fresh.gone shown outside, ?_⟩, ?_⟩
    · intro shown current
      exact absurd ((fresh.gone shown outside).symm.trans current) (by decide)
    · intro _ _ refreshing
      cases refreshing
  | connected =>
    have outside : state ≠ .connected := by rintro rfl; cases moved
    refine ⟨⟨by simp [apply, SystemMetricsViewModel.applyEffect, SystemMetricsViewModel.applyConnectionState],
      fun _ other => absurd rfl other, ?_⟩, ?_⟩
    · intro shown current
      exact absurd ((fresh.gone shown outside).symm.trans current) (by decide)
    · intro _ _ refreshing
      cases refreshing
  | disconnected =>
    refine ⟨⟨by simp [apply, SystemMetricsViewModel.applyEffect, SystemMetricsViewModel.applyConnectionState],
      fun shown _ => shown, ?_⟩, ?_⟩
    · intro shown current
      exact absurd (shown.symm.trans current) (by decide)
    · intro shown current
      exact absurd (shown.symm.trans current) (by decide)

/-- A response on the current connection keeps the flags truthful. -/
theorem Fresh.snapshot (fresh : Fresh .connected gui) (snapshot : LocalAgentSnapshot Double) :
    Truthful .connected (gui.apply formatTime now (.snapshotReceived snapshot)) := by
  cases present : snapshot.hasSnapshot with
  | false =>
    obtain ⟨available, shown, stale⟩ := gui.model.applySnapshot_absent formatTime now present
    have marked : (gui.model.applySnapshot formatTime now snapshot).hasSnapshot = true →
        (gui.model.applySnapshot formatTime now snapshot).dataStale ≠ false := by
      rw [shown, stale]
      intro held
      rw [held]
      decide
    refine ⟨⟨?_, fun _ other => absurd rfl other, fun held current => absurd current (marked held)⟩,
      fun held current => absurd current (marked held)⟩
    exact (iff_of_eq (congrArg (· = true) available)).trans fresh.available
  | true =>
    obtain ⟨available, shown, stale, refreshing, text⟩ :=
      gui.model.applySnapshot_present formatTime now present
    refine ⟨⟨?_, fun _ other => absurd rfl other, fun _ current => ?_⟩, fun _ _ _ applied last => ?_⟩
    · exact (iff_of_eq (congrArg (· = true) available)).trans fresh.available
    · exact ⟨_, rfl, rfl, present, SystemMetricsViewModel.recent_of_not_stale (stale.symm.trans current)⟩
    · obtain rfl := Option.some.inj last
      exact text ▸ SystemMetricsViewModel.names_snapshotStatus snapshot _

/-- A protocol error leaves the data as it was marked. -/
theorem Fresh.error (fresh : Fresh state gui) (message : String) :
    Fresh state (gui.apply formatTime now (.protocolError message)) :=
  ⟨fresh.available, fresh.gone, fresh.current⟩

end Slots

/-- Every course keeps the flags truthful. -/
theorem Truthful.course {lib : Libraries Double} {gui : Gui Double} {client next : LocalAgentClient}
    {event : Event} {effects : List (Effect Double)} (request : CanRequest lib) (tidy : client.Tidy)
    (course : Course lib client event next effects) (truthful : Truthful client.connectionState gui)
    (formatTime : Int64 → String) (clock : ℕ → Int64) :
    Truthful next.connectionState (gui.applyAll formatTime clock effects) := by
  have path := Path.of_course request tidy course
  refine path.keeps formatTime (fun (_ : Unit) _ => ()) (fun state gui _ => Truthful state gui)
    ?_ ?_ ?_ ?_ gui () truthful clock
  · intro state next gui _ now moved held
    exact held.toFresh.changed formatTime now moved
  · intro snapshot _ gui _ now held
    exact held.toFresh.snapshot formatTime now snapshot
  · intro message gui _ now later state moved held
    exact (held.toFresh.error formatTime now message).changed formatTime later moved
  · intro state gui _ effect _ held
    exact held

/-! ## Runs -/

/-- Between events the client is tidy and the flags are truthful about its connection state. -/
structure Coherent (gui : Gui Double) : Prop where
  tidy : gui.client.Tidy
  truthful : Truthful gui.client.connectionState gui

theorem coherent_initial [Zero Double] : (initial : Gui Double).Coherent where
  tidy := Tidy.initial
  truthful := ⟨⟨by simp [initial], by simp [initial], by simp [initial]⟩, by simp [initial]⟩

theorem Coherent.watched {lib : Libraries Double} (request : CanRequest lib) {formatTime : Int64 → String}
    {γ : Type}
    {note : Input → γ → Effect Double → γ} {watched next : Watched Double γ} {input : Input × (ℕ → Int64)}
    (coherent : watched.gui.Coherent) (success : watched.step lib formatTime note input = some next) :
    next.gui.Coherent := by
  obtain rfl | ⟨before, event, client, effects, prepared, taken, rfl⟩ := Watched.step_cases success
  · exact coherent
  · have course := LocalAgentClient.step_course coherent.tidy taken
    obtain ⟨⟨available, gone, current⟩, named⟩ := coherent.truthful
    have truthful : Truthful watched.gui.client.connectionState { before with client := client } := by
      cases prepared with
      | same => exact ⟨⟨available, gone, current⟩, named⟩
      | begun => exact ⟨⟨available, gone, current⟩, fun _ _ refreshing => by cases refreshing⟩
    constructor
    · rw [applyAll_client]
      exact coherent.tidy.course course
    · rw [applyAll_client]
      exact truthful.course request coherent.tidy course formatTime input.2

theorem Coherent.step {lib : Libraries Double} (request : CanRequest lib) {formatTime : Int64 → String}
    {gui next : Gui Double} {input : Input × (ℕ → Int64)} (coherent : gui.Coherent)
    (success : gui.step lib formatTime input = some next) : next.Coherent := by
  rw [← Watched.step_gui lib formatTime (fun _ (_ : Unit) _ => ()) ⟨gui, ()⟩] at success
  obtain ⟨watched, moved, rfl⟩ := Option.map_eq_some_iff.mp success
  exact Coherent.watched request coherent moved

/-- The documented serialiser makes a request that fits a frame. -/
theorem canRequest_of_documented [Zero Double] [DecidableEq Double] {lib : Libraries Double}
    (documented : lib.Documented) : CanRequest lib :=
  ⟨_, _, documented.serialize_request protocolVersion (by decide) (by decide), rfl⟩

/-- Old data is never shown as new. In every state between events of every run: the Agent counts
as available exactly while the client is connected; data that is shown without it is marked stale; data
that is not marked stale came with the last response, on the current connection, and was measured at
most 15 seconds before; and unless a refresh is under way every metric which that response lacked is
named in the status text. -/
theorem shown_data_fresh [Zero Double] [DecidableEq Double] {lib : Libraries Double}
    (documented : lib.Documented) (formatTime : Int64 → String) {inputs : List (Input × (ℕ → Int64))}
    {gui : Gui Double} (reached : run (step lib formatTime) initial inputs = some gui) :
    (gui.model.agentAvailable = true ↔ gui.client.connectionState = .connected) ∧
    (gui.model.hasSnapshot = true → gui.model.agentAvailable = false → gui.model.dataStale = true) ∧
    (gui.model.hasSnapshot = true → gui.model.dataStale = false →
      gui.client.connectionState = .connected ∧ ∃ applied, gui.last = some applied ∧
        Recent applied gui.connection ∧
        (gui.model.refreshing = false → Names gui.model.statusText applied.snapshot)) := by
  have request := canRequest_of_documented documented
  have coherent := Machine.run_invariant Coherent
    (fun _ _ _ success coherent => coherent.step request success) reached coherent_initial
  have truthful := coherent.truthful
  refine ⟨truthful.available, fun shown gone => truthful.gone shown fun connected => ?_,
    fun shown current => ?_⟩
  · have available := truthful.available.mpr connected
    simp [gone] at available
  · obtain ⟨applied, last, recent⟩ := truthful.current shown current
    refine ⟨?_, applied, last, recent, fun done => truthful.named shown current done applied last⟩
    by_contra outside
    exact absurd ((truthful.gone shown outside).symm.trans current) (by decide)

/-- The frame of a response with both metrics, measured five seconds after the epoch. -/
def sampleFrame : Ipc.Bytes :=
  ((Proto.Codec.libraries.serializeResponse
    ⟨1, .running, some ⟨5000, some ⟨⟨0x403F400000000000⟩⟩, some ⟨32000, 12000⟩⟩, []⟩).bind
      Ipc.encodeFrame).getD []

/-- A first response in two reads, and a refresh. -/
def sampleInputs : List (Input × (ℕ → Int64)) :=
  [(.client .start, fun _ => 0), (.client (.connected 6), fun _ => 0),
    (.client (.readyRead (sampleFrame.take 3)), fun _ => 6000),
    (.client (.readyRead (sampleFrame.drop 3)), fun _ => 6000), (.refresh 6, fun _ => 7000)]

theorem shown_data_fresh_sample :
    ∃ gui, run (step Proto.Codec.libraries fun _ => "") initial sampleInputs = some gui ∧
      gui.model.hasSnapshot = true ∧ gui.model.dataStale = false ∧
      ∃ applied, gui.last = some applied ∧ Recent applied gui.connection := by
  have taken : (run (step Proto.Codec.libraries fun _ => "") initial sampleInputs).map
      (fun gui => (gui.model.hasSnapshot, gui.model.dataStale)) = some (true, false) := by decide +kernel
  obtain ⟨gui, reached, flags⟩ := Option.map_eq_some_iff.mp taken
  obtain ⟨shown, current⟩ := Prod.mk.inj flags
  obtain ⟨applied, last, recent, -⟩ :=
    ((shown_data_fresh Proto.Codec.documented (fun _ => "") reached).2.2 shown current).2
  exact ⟨gui, reached, shown, current, applied, last, recent⟩

end Gui

end Guardian.Desktop
