import Guardian.Desktop.Freshness

/-! # Displayed data ages

The wall clock is part of the state. Whether what is shown is stale is decided when a response arrives
and when the connection is lost; nothing decides it anew as the data grows old.
-/

namespace Guardian.Desktop

open LocalAgentClient (CanRequest Event requestFrame)
open Machine (Meets run)
open Proto (Libraries)
open SystemMetricsViewModel (isStale)

variable {Double : Type}

/-- The last snapshot with a measurement. -/
def noteShown (_ : Gui.Input) (shown : Option (LocalAgentSnapshot Double)) :
    Effect Double → Option (LocalAgentSnapshot Double)
  | .snapshotReceived snapshot => if snapshot.hasSnapshot then some snapshot else shown
  | _ => shown

/-- The client and the view model with what is shown, and the wall clock. -/
structure Aging (Double : Type) where
  watched : Watched Double (Option (LocalAgentSnapshot Double))
  now : Int64

namespace Aging

inductive Input where
  /-- Time passes; the clock is not set back. -/
  | wait (later : Int64)
  | occur (input : Gui.Input)

def Input.isPollTick : Input → Bool
  | .occur (.client (.pollTimeout _)) => true
  | _ => false

/-- A handler reads the clock, which stands still while it runs. -/
def step (lib : Libraries Double) (formatTime : Int64 → String) (aging : Aging Double) :
    Input → Option (Aging Double)
  | .wait later => if aging.now ≤ later then some { aging with now := later } else none
  | .occur input =>
      (aging.watched.step lib formatTime noteShown (input, fun _ => aging.now)).map fun watched =>
        { aging with watched := watched }

def initial [Zero Double] (start : Int64) : Aging Double := ⟨⟨Gui.initial, none⟩, start⟩

/-- What is shown and was collected more than 15 seconds ago is marked as stale. -/
def Aged (aging : Aging Double) : Prop :=
  aging.watched.gui.model.hasSnapshot = true → ∃ snapshot, aging.watched.record = some snapshot ∧
    (15000 < aging.now.toInt - snapshot.collectedAtUnixMs.toInt → aging.watched.gui.model.dataStale = true)

/-- The last response, when it came on this connection with a measurement that was recent then. -/
def current (gui : Gui Double) : Option (Applied Double) :=
  gui.last.filter fun applied => applied.connection == gui.connection && applied.snapshot.hasSnapshot &&
    !isStale applied.now applied.snapshot

/-- A poll tick comes while the last response, if it was recent when it arrived, still is; or else the tick's
request cannot be sent. -/
def prompt (aging : Aging Double) : Input → Bool
  | .occur (.client (.pollTimeout accepted)) =>
      (current aging.watched.gui).all fun applied =>
        decide (aging.now.toInt - applied.snapshot.collectedAtUnixMs.toInt ≤ 15000) ||
          decide (aging.watched.gui.client.socket = .connected ∧ accepted ≠ requestFrame.length)
  | _ => true

/-! ## When the mark is set -/

theorem current_eq_some {gui : Gui Double} {applied : Applied Double} : current gui = some applied ↔
    gui.last = some applied ∧ applied.connection = gui.connection ∧ applied.snapshot.hasSnapshot = true ∧
      isStale applied.now applied.snapshot = false := by
  simp only [current, Option.filter_eq_some_iff, Bool.and_eq_true, beq_iff_eq, Bool.not_eq_true', and_assoc]

/-- The mark is missing exactly while the last response on the connection that is up was a recent one. -/
structure Marked (state : ConnectionState) (gui : Gui Double) (shown : Option (LocalAgentSnapshot Double)) :
    Prop where
  held : gui.model.hasSnapshot = true ↔ shown ≠ none
  last : ∀ applied, gui.last = some applied → applied.connection ≤ gui.connection ∧
    (applied.snapshot.hasSnapshot = true → shown = some applied.snapshot)
  unmarked : gui.model.hasSnapshot = true → (gui.model.dataStale = false ↔
    state = .connected ∧ ∃ applied, current gui = some applied)

section Slots

variable {formatTime : Int64 → String} {state : ConnectionState} {gui : Gui Double}
  {shown : Option (LocalAgentSnapshot Double)}

theorem Marked.changed {next : ConnectionState} (marked : Marked state gui shown)
    (moved : state.move next = some next) (now : Int64) :
    Marked next (gui.apply formatTime now (.connectionStateChanged next)) shown := by
  have stale (outside : state ≠ .connected) (held : gui.model.hasSnapshot = true) :
      gui.model.dataStale ≠ false := by
    intro current
    exact outside ((marked.unmarked held).mp current).1
  cases next with
  | connecting =>
    have outside : state ≠ .connected := by rintro rfl; cases moved
    refine ⟨marked.held, marked.last, fun held => ?_⟩
    exact iff_of_false (stale outside held) fun up => by cases up.1
  | connected =>
    have outside : state ≠ .connected := by rintro rfl; cases moved
    refine ⟨marked.held, fun applied last => ?_, fun held => iff_of_false (stale outside held) ?_⟩
    · obtain ⟨before, same⟩ := marked.last applied last
      exact ⟨Nat.le_succ_of_le before, same⟩
    · rintro ⟨-, applied, answered⟩
      obtain ⟨last, new, -⟩ := current_eq_some.mp answered
      have before := (marked.last applied last).1
      exact absurd new (Nat.ne_of_lt (Nat.lt_succ_of_le before))
  | disconnected =>
    refine ⟨marked.held, marked.last, fun held => iff_of_false (fun current => ?_) fun up => by cases up.1⟩
    exact absurd (held.symm.trans current) (by decide)

theorem Marked.received (marked : Marked .connected gui shown) (snapshot : LocalAgentSnapshot Double)
    (now : Int64) :
    Marked .connected (gui.apply formatTime now (.snapshotReceived snapshot))
      (if snapshot.hasSnapshot then some snapshot else shown) := by
  cases present : snapshot.hasSnapshot with
  | false =>
    obtain ⟨-, held, stale⟩ := gui.model.applySnapshot_absent formatTime now present
    refine ⟨?_, fun applied last => ?_, fun showing => iff_of_false (fun current => ?_) ?_⟩
    · exact (iff_of_eq (congrArg (· = true) held)).trans marked.held
    · obtain rfl := Option.some.inj last
      exact ⟨le_rfl, fun carried => absurd (present.symm.trans carried) (by decide)⟩
    · have known := held.symm.trans showing
      exact absurd ((stale.symm.trans current).symm.trans known) (by decide)
    · rintro ⟨-, applied, answered⟩
      obtain ⟨last, -, carried, -⟩ := current_eq_some.mp answered
      obtain rfl := Option.some.inj last
      exact absurd (present.symm.trans carried) (by decide)
  | true =>
    obtain ⟨-, held, stale, -⟩ := gui.model.applySnapshot_present formatTime now present
    refine ⟨iff_of_true held (Option.some_ne_none _), fun applied last => ?_,
      fun _ => ⟨fun current => ?_, ?_⟩⟩
    · obtain rfl := Option.some.inj last
      exact ⟨le_rfl, fun _ => rfl⟩
    · exact ⟨rfl, _, current_eq_some.mpr ⟨rfl, rfl, present, stale.symm.trans current⟩⟩
    · rintro ⟨-, applied, answered⟩
      obtain ⟨last, -, -, recent⟩ := current_eq_some.mp answered
      obtain rfl := Option.some.inj last
      exact stale.trans recent

theorem Marked.error (marked : Marked state gui shown) (message : String) (now : Int64) :
    Marked state (gui.apply formatTime now (.protocolError message)) shown :=
  ⟨marked.held, marked.last, marked.unmarked⟩

end Slots

theorem Marked.course {lib : Libraries Double} {gui : Gui Double} {shown : Option (LocalAgentSnapshot Double)}
    {client next : LocalAgentClient} {event : Event} {effects : List (Effect Double)}
    (request : CanRequest lib)
    (tidy : client.Tidy) (course : LocalAgentClient.Course lib client event next effects)
    (marked : Marked client.connectionState gui shown) (input : Gui.Input) (formatTime : Int64 → String)
    (clock : ℕ → Int64) :
    Marked next.connectionState (gui.applyAll formatTime clock effects)
      (effects.foldl (noteShown input) shown) := by
  have path := Path.of_course request tidy course
  refine path.keeps formatTime (noteShown input) Marked ?_ ?_ ?_ ?_ gui shown marked clock
  · intro state next gui shown now moved held
    exact held.changed moved now
  · intro snapshot _ gui shown now held
    exact held.received snapshot now
  · intro message gui shown now later state moved held
    exact (held.error message now).changed moved later
  · intro state gui shown effect mute held
    cases effect <;> first | exact held | cases mute

structure Sound (aging : Aging Double) : Prop where
  coherent : aging.watched.gui.Coherent
  marked : Marked aging.watched.gui.client.connectionState aging.watched.gui aging.watched.record

theorem sound_initial [Zero Double] (start : Int64) : (initial start : Aging Double).Sound where
  coherent := Gui.coherent_initial
  marked := ⟨by simp [initial, Gui.initial], by simp [initial, Gui.initial], by simp [initial, Gui.initial]⟩

theorem Sound.step {lib : Libraries Double} (request : CanRequest lib) {formatTime : Int64 → String}
    {aging next : Aging Double} {input : Input} (sound : aging.Sound)
    (taken : aging.step lib formatTime input = some next) : next.Sound := by
  cases input with
  | wait later =>
    obtain ⟨-, same⟩ := Option.ite_none_right_eq_some.mp taken
    obtain rfl := Option.some.inj same
    exact ⟨sound.coherent, sound.marked⟩
  | occur input =>
    obtain ⟨watched, moved, rfl⟩ := Option.map_eq_some_iff.mp taken
    refine ⟨sound.coherent.watched request moved, ?_⟩
    obtain rfl | ⟨before, event, client, effects, prepared, stepped, rfl⟩ := Watched.step_cases moved
    · exact sound.marked
    · have course := LocalAgentClient.step_course sound.coherent.tidy stepped
      have marked : Marked aging.watched.gui.client.connectionState { before with client := client }
          aging.watched.record := by
        cases prepared <;> exact ⟨sound.marked.held, sound.marked.last, sound.marked.unmarked⟩
      rw [Gui.applyAll_client]
      exact marked.course request sound.coherent.tidy course input formatTime _

/-- On a connection that is up, what is shown is marked in time exactly while the last response, if it was
recent, still is. -/
theorem aged_iff {aging : Aging Double} (sound : aging.Sound)
    (connected : aging.watched.gui.client.connectionState = .connected) :
    Aged aging ↔ ∀ applied, current aging.watched.gui = some applied →
      aging.now.toInt - applied.snapshot.collectedAtUnixMs.toInt ≤ 15000 := by
  obtain ⟨held, last, unmarked⟩ := sound.marked
  constructor
  · intro aged applied answered
    obtain ⟨came, -, carried, -⟩ := current_eq_some.mp answered
    have record := (last applied came).2 carried
    have showing : aging.watched.gui.model.hasSnapshot = true := by
      apply held.mpr
      rw [record]
      exact Option.some_ne_none _
    obtain ⟨snapshot, same, old⟩ := aged showing
    obtain rfl := Option.some.inj (same.symm.trans record)
    have fresh := (unmarked showing).mpr ⟨connected, applied, answered⟩
    by_contra late
    exact absurd ((old (not_le.mp late)).symm.trans fresh) (by decide)
  · intro prompt showing
    obtain ⟨snapshot, record⟩ := Option.ne_none_iff_exists'.mp (held.mp showing)
    refine ⟨snapshot, record, fun old => ?_⟩
    by_contra fresh
    obtain ⟨-, applied, answered⟩ := (unmarked showing).mp (Bool.eq_false_iff.mpr fresh)
    obtain ⟨came, -, carried, -⟩ := current_eq_some.mp answered
    obtain rfl := Option.some.inj (record.symm.trans ((last applied came).2 carried))
    exact absurd (prompt applied answered) (not_le.mpr old)

/-- Where the connection is down, what is shown is marked. -/
theorem aged_of_down {aging : Aging Double} (sound : aging.Sound)
    (down : aging.watched.gui.client.connectionState ≠ .connected) : Aged aging := by
  intro showing
  obtain ⟨snapshot, record⟩ := Option.ne_none_iff_exists'.mp (sound.marked.held.mp showing)
  refine ⟨snapshot, record, fun _ => ?_⟩
  by_contra fresh
  exact down ((sound.marked.unmarked showing).mp (Bool.eq_false_iff.mpr fresh)).1

/-- A tick leaves aged data behind exactly when it was prompt. -/
theorem aged_tick_iff [Zero Double] [DecidableEq Double] {lib : Libraries Double}
    (documented : lib.Documented)
    {formatTime : Int64 → String} {aging next : Aging Double} {accepted : ℕ} (sound : aging.Sound)
    (taken : aging.step lib formatTime (.occur (.client (.pollTimeout accepted))) = some next) :
    Aged next ↔ prompt aging (.occur (.client (.pollTimeout accepted))) = true := by
  have after := sound.step (Gui.canRequest_of_documented documented) taken
  obtain ⟨watched, moved, rfl⟩ := Option.map_eq_some_iff.mp taken
  obtain ⟨⟨client, effects⟩, stepped, rfl⟩ := Option.map_eq_some_iff.mp moved
  obtain ⟨polling, same⟩ := Option.ite_none_right_eq_some.mp stepped
  have tidy := sound.coherent.tidy
  have connected : aging.watched.gui.client.connectionState = .connected := by
    rw [tidy.shown]
    rcases tidy.polling polling with socket | socket <;> rw [socket] <;> rfl
  have sent (whole : ¬(aging.watched.gui.client.socket = .connected ∧ accepted ≠ requestFrame.length)) :
      prompt aging (.occur (.client (.pollTimeout accepted))) = true ↔ Aged aging := by
    rw [aged_iff sound connected]
    simp only [prompt, whole, decide_false, Bool.or_false, Option.all_eq_true, decide_eq_true_eq]
  rw [LocalAgentClient.requestSnapshot_eq documented accepted tidy] at same
  split_ifs at same with idle whole
  · obtain ⟨rfl, rfl⟩ := Prod.mk.inj (Option.some.inj same)
    rw [sent fun failed => idle failed.1]
    rfl
  · obtain ⟨rfl, rfl⟩ := Prod.mk.inj (Option.some.inj same)
    rw [sent fun failed => failed.2 whole]
    rfl
  · obtain ⟨rfl, rfl⟩ := Prod.mk.inj (Option.some.inj same)
    refine iff_of_true (aged_of_down after ?_) ?_
    · rw [Gui.applyAll_client]
      exact ConnectionState.noConfusion
    · have failed : aging.watched.gui.client.socket = .connected ∧ accepted ≠ requestFrame.length :=
        ⟨not_not.mp idle, whole⟩
      simp [prompt, failed]

/-- In a run with a clock that is not set back, what is shown and is older than 15 seconds is marked as stale
after every poll tick, exactly when every tick is prompt: the last response of its connection, if it brought a
measurement that was recent on arrival, is still recent at the tick, or the tick's request cannot be sent. -/
theorem data_ages_iff [Zero Double] [DecidableEq Double] {lib : Libraries Double}
    (documented : lib.Documented)
    (formatTime : Int64 → String) (start : Int64) {inputs : List Input} {final : Aging Double}
    (reached : run (step lib formatTime) (initial start) inputs = some final) :
    (∀ early tick later aging, inputs = early ++ tick :: later → tick.isPollTick = true →
      run (step lib formatTime) (initial start) (early ++ [tick]) = some aging → Aged aging) ↔
    Meets (step lib formatTime) (fun aging input => prompt aging input = true) (initial start) inputs := by
  have request := Gui.canRequest_of_documented documented
  refine Machine.after_iff_meets _ Sound (fun _ _ _ taken sound => sound.step request taken) ?_ reached
    (sound_initial start)
  intro aging input next taken sound
  cases input with
  | wait later => simp [prompt, Input.isPollTick]
  | occur input =>
    cases input with
    | refresh accepted => simp [prompt, Input.isPollTick]
    | client event =>
      cases event with
      | pollTimeout accepted =>
        rw [← aged_tick_iff documented sound taken]
        simp [Input.isPollTick]
      | _ => simp [prompt, Input.isPollTick]

/-- A first response, and a poll tick some time after it. -/
def sampleInputs (later : Int64) : List Input :=
  [.occur (.client .start), .occur (.client (.connected 6)), .occur (.client (.readyRead Gui.sampleFrame)),
    .wait later, .occur (.client (.pollTimeout 6))]

theorem data_ages_sample :
    ∃ aging, run (step Proto.Codec.libraries fun _ => "") (initial 6000) (sampleInputs 20000) = some aging ∧
      Aged aging := by
  have taken : (run (step Proto.Codec.libraries fun _ => "") (initial 6000)
      (sampleInputs 20000)).isSome = true := by decide +kernel
  have meets : Meets (step Proto.Codec.libraries fun _ => "") (fun aging input => prompt aging input = true)
      (initial 6000) (sampleInputs 20000) := by decide +kernel
  obtain ⟨aging, reached⟩ := Option.isSome_iff_exists.mp taken
  exact ⟨aging, reached, (data_ages_iff Proto.Codec.documented (fun _ => "") 6000 reached).mpr meets
    (sampleInputs 20000).dropLast (.occur (.client (.pollTimeout 6))) [] aging rfl rfl reached⟩

/-- The Agent stays connected and is silent; a minute later its last answer is still shown as new. -/
theorem data_fresh_after_minute :
    ∃ aging, run (step Proto.Codec.libraries fun _ => "") (initial 6000) (sampleInputs 66000) = some aging ∧
      aging.watched.gui.client.connectionState = .connected ∧ aging.watched.gui.client.pollTimer = true ∧
      ¬Aged aging := by
  have taken : (run (step Proto.Codec.libraries fun _ => "") (initial 6000)
      (sampleInputs 66000)).map (fun aging =>
        (aging.watched.gui.client.connectionState, aging.watched.gui.client.pollTimer,
        aging.watched.gui.model.hasSnapshot, aging.watched.gui.model.dataStale,
        aging.watched.record.map fun snapshot => aging.now.toInt - snapshot.collectedAtUnixMs.toInt)) =
      some (.connected, true, true, false, some 61000) := by decide +kernel
  obtain ⟨aging, reached, same⟩ := Option.map_eq_some_iff.mp taken
  simp only [Prod.mk.injEq] at same
  obtain ⟨connected, polling, showing, fresh, age⟩ := same
  refine ⟨aging, reached, connected, polling, fun aged => ?_⟩
  obtain ⟨snapshot, record, old⟩ := aged showing
  rw [record, Option.map_some] at age
  have stale := old (by rw [Option.some.inj age]; decide)
  exact absurd (stale.symm.trans fresh) (by decide)

end Aging

end Guardian.Desktop
