import Guardian.Desktop.Path
import Guardian.Desktop.SystemMetricsViewModel

/-! # The client with its view model

The view model is run together with the client that drives it. An observer may keep a record of what
the client does outwardly, and what is known of the two and of the record is proved once for each kind
of effect.
-/

namespace Guardian.Desktop

open LocalAgentClient (Event)
open Machine (run)
open Proto (Libraries)

variable {Double : Type}

/-- A response that the view model has applied. -/
structure Applied (Double : Type) where
  snapshot : LocalAgentSnapshot Double
  now : Int64
  connection : ℕ

/-- The client and the view model, with the number of connections made and the last response. -/
structure Gui (Double : Type) where
  client : LocalAgentClient := {}
  model : SystemMetricsViewModel Double
  connection : ℕ := 0
  last : Option (Applied Double) := none

namespace Gui

inductive Input where
  | client (event : Event)
  | refresh (accepted : ℕ)

/-- A slot of the view model runs, and what it stands for is recorded. -/
def apply (formatTime : Int64 → String) (now : Int64) (gui : Gui Double) (effect : Effect Double) :
    Gui Double :=
  { gui with
    model := gui.model.applyEffect formatTime now effect
    connection :=
      match effect with
      | .connectionStateChanged .connected => gui.connection + 1
      | _ => gui.connection
    last :=
      match effect with
      | .snapshotReceived snapshot => some ⟨snapshot, now, gui.connection⟩
      | _ => gui.last }

/-- The clock is read anew at every effect; the reading is named by the number of effects to come. -/
def applyAll (formatTime : Int64 → String) (clock : ℕ → Int64) :
    Gui Double → List (Effect Double) → Gui Double
  | gui, [] => gui
  | gui, effect :: later => applyAll formatTime clock (gui.apply formatTime (clock later.length) effect) later

def step (lib : Libraries Double) (formatTime : Int64 → String) (gui : Gui Double) :
    Input × (ℕ → Int64) → Option (Gui Double)
  | (.client event, clock) =>
      (gui.client.step lib event).map fun (client, effects) =>
        { gui with client := client }.applyAll formatTime clock effects
  | (.refresh accepted, clock) =>
      match gui.model.beginRefresh with
      | none => some gui
      | some model =>
          let (client, effects) := gui.client.requestSnapshot lib accepted
          some ({ gui with client := client, model := model }.applyAll formatTime clock effects)

/-- The view model as it is constructed. -/
def initial [Zero Double] : Gui Double where
  model := { cpuUsage := 0 }

/-- What the client's handler finds: the view model as it was, or with a refresh begun. -/
inductive Prepared (gui : Gui Double) : Gui Double → Prop
  | same : Prepared gui gui
  | begun : Prepared gui
      { gui with model := { gui.model with refreshing := true, statusText := "Запрашиваем данные Agent..." } }

theorem applyAll_client (formatTime : Int64 → String) (clock : ℕ → Int64) (gui : Gui Double)
    (effects : List (Effect Double)) : (gui.applyAll formatTime clock effects).client = gui.client := by
  induction effects generalizing gui with
  | nil => rfl
  | cons effect effects ih => rw [applyAll, ih]; rfl

theorem apply_silent (formatTime : Int64 → String) (now : Int64) (gui : Gui Double) {effect : Effect Double}
    (silent : effect.isSilent = true) : gui.apply formatTime now effect = gui := by
  cases effect <;> first | rfl | cases silent

end Gui

/-! ## What every kind of effect keeps -/

section

variable {γ : Type} (formatTime : Int64 → String) (note : γ → Effect Double → γ)
  (holds : ConnectionState → Gui Double → γ → Prop)

/-- What is kept by the kinds of effects that a path has holds at its end. -/
theorem Path.keeps {state final : ConnectionState} {effects : List (Effect Double)}
    (path : Path state effects final)
    (changed : ∀ state next gui record now, state.move next = some next → holds state gui record →
      holds next (gui.apply formatTime now (.connectionStateChanged next))
        (note record (.connectionStateChanged next)))
    (received : ∀ snapshot, .snapshotReceived snapshot ∈ effects → ∀ gui record now,
      holds .connected gui record → holds .connected (gui.apply formatTime now (.snapshotReceived snapshot))
        (note record (.snapshotReceived snapshot)))
    (failed : ∀ message gui record now later state, state.move .disconnected = some .disconnected →
      holds state gui record →
      holds .disconnected ((gui.apply formatTime now (.protocolError message)).apply formatTime later
          (.connectionStateChanged .disconnected))
        (note (note (note record (.protocolError message)) .abort) (.connectionStateChanged .disconnected)))
    (silent : ∀ state gui record (effect : Effect Double), effect.isSilent = true → holds state gui record →
      holds state gui (note record effect))
    (gui : Gui Double) (record : γ) (held : holds state gui record) (clock : ℕ → Int64) :
    holds final (gui.applyAll formatTime clock effects) (effects.foldl note record) := by
  induction path generalizing gui record with
  | nil => exact held
  | changed moved rest ih =>
    exact ih (fun snapshot member => received snapshot (List.mem_cons_of_mem _ member)) _ _
      (changed _ _ gui record _ moved held)
  | received snapshot rest ih =>
    exact ih (fun other member => received other (List.mem_cons_of_mem _ member)) _ _
      (received snapshot (List.mem_cons_self ..) gui record _ held)
  | @failed state final later message moved rest ih =>
    have heard {snapshot : LocalAgentSnapshot Double} {effects : List (Effect Double)}
        (member : .snapshotReceived snapshot ∈ effects) : .snapshotReceived snapshot ∈
          .protocolError message :: .abort :: .connectionStateChanged .disconnected :: effects := by
      simp [member]
    exact ih (fun snapshot member => received snapshot (heard member)) _ _
      (failed message gui record (clock (later.length + 2)) (clock later.length) state moved held)
  | @silent state final effect later mute rest ih =>
    rw [Gui.applyAll, gui.apply_silent formatTime _ mute]
    exact ih (fun snapshot member => received snapshot (List.mem_cons_of_mem _ member)) _ _
      (silent state gui record effect mute held)

end

/-! ## Watching -/

/-- The client and the view model, with what an observer has noted. -/
structure Watched (Double γ : Type) where
  gui : Gui Double
  record : γ

namespace Watched

variable {γ : Type}

/-- The observer notes what the client does outwardly upon an input. -/
def step (lib : Libraries Double) (formatTime : Int64 → String) (note : Gui.Input → γ → Effect Double → γ)
    (watched : Watched Double γ) : Gui.Input × (ℕ → Int64) → Option (Watched Double γ)
  | (.client event, clock) =>
      (watched.gui.client.step lib event).map fun (client, effects) =>
        ⟨{ watched.gui with client := client }.applyAll formatTime clock effects,
          effects.foldl (note (.client event)) watched.record⟩
  | (.refresh accepted, clock) =>
      match watched.gui.model.beginRefresh with
      | none => some watched
      | some model =>
          let (client, effects) := watched.gui.client.requestSnapshot lib accepted
          some ⟨{ watched.gui with client := client, model := model }.applyAll formatTime clock effects,
            effects.foldl (note (.refresh accepted)) watched.record⟩

/-- The observer does not interfere. -/
theorem step_gui (lib : Libraries Double) (formatTime : Int64 → String)
    (note : Gui.Input → γ → Effect Double → γ) (watched : Watched Double γ)
    (input : Gui.Input × (ℕ → Int64)) :
    (watched.step lib formatTime note input).map Watched.gui = watched.gui.step lib formatTime input := by
  obtain ⟨input, clock⟩ := input
  cases input with
  | client event =>
    rw [step, Option.map_map]
    rfl
  | refresh accepted =>
    simp only [step, Gui.step]
    cases watched.gui.model.beginRefresh <;> rfl

/-- A step does nothing, or the client acts upon an event, with a refresh begun before or not. -/
theorem step_cases {lib : Libraries Double} {formatTime : Int64 → String}
    {note : Gui.Input → γ → Effect Double → γ} {watched next : Watched Double γ}
    {input : Gui.Input × (ℕ → Int64)}
    (taken : watched.step lib formatTime note input = some next) :
    next = watched ∨ ∃ before event client effects, watched.gui.Prepared before ∧
      watched.gui.client.step lib event = some (client, effects) ∧
      next = ⟨{ before with client := client }.applyAll formatTime input.2 effects,
        effects.foldl (note input.1) watched.record⟩ := by
  obtain ⟨input, clock⟩ := input
  cases input with
  | client event =>
    obtain ⟨⟨client, effects⟩, stepped, rfl⟩ := Option.map_eq_some_iff.mp taken
    exact .inr ⟨_, event, client, effects, .same, stepped, rfl⟩
  | refresh accepted =>
    simp only [step] at taken
    split at taken
    · exact .inl (Option.some.inj taken).symm
    · next model began =>
      obtain ⟨-, -, rfl⟩ := SystemMetricsViewModel.beginRefresh_eq_some began
      exact .inr ⟨_, .requestSnapshot accepted, _, _, .begun, rfl, (Option.some.inj taken).symm⟩

end Watched

end Guardian.Desktop
