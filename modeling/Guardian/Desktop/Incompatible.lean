import Guardian.Desktop.Backoff

/-! # An incompatible Agent

An Agent whose answers are refused lets every attempt to connect succeed, and `handle_connected` sets the
count of delays back before an answer has come. The delays then follow the table only as long as no other
delay was armed before a connection is rejected.
-/

namespace Guardian.Desktop

open Machine (Record logged recorded run)
open Proto (Libraries)

variable {Double : Type}

namespace LocalAgentClient

/-- The connection is up, or has begun to close. -/
def Established (client : LocalAgentClient) : Prop := client.socket = .connected ∨ client.socket = .closing

instance (client : LocalAgentClient) : Decidable client.Established := inferInstanceAs (Decidable (_ ∨ _))

theorem Established.inUse {client : LocalAgentClient} (up : client.Established) : client.socket ≠ .unconnected := by
  rcases up with up | up <;> simp [up]

/-- The step takes the socket out of use. -/
def Loses (record : Record LocalAgentClient Event (Effect Double)) : Prop :=
  record.source.socket ≠ .unconnected ∧ record.target.socket = .unconnected

/-- The step ends a connection that had been established. -/
def Rejects (record : Record LocalAgentClient Event (Effect Double)) : Prop :=
  record.source.Established ∧ record.target.socket = .unconnected

instance (record : Record LocalAgentClient Event (Effect Double)) : Decidable (Loses record) :=
  inferInstanceAs (Decidable (_ ∧ _))

instance (record : Record LocalAgentClient Event (Effect Double)) : Decidable (Rejects record) :=
  inferInstanceAs (Decidable (_ ∧ _))

/-- A step of a run without any valid response: the client is not stopped, and every connection that comes up and
ends is ended by a protocol error of `handle_ready_read`. Attempts may fail as well. -/
structure Fruitless (record : Record LocalAgentClient Event (Effect Double)) : Prop where
  unanswered : ∀ snapshot, .snapshotReceived snapshot ∉ record.emitted
  unstopped : record.input ≠ .stop
  rejected : Rejects record → ∃ data message, record.input = .readyRead data ∧ .protocolError message ∈ record.emitted
  requested : Loses record → ∀ accepted, record.input ≠ .connected accepted

/-- The delays that the steps arm, in order. -/
def delays (records : List (Record LocalAgentClient Event (Effect Double))) : List ℕ :=
  (records.flatMap Record.emitted).filterMap Effect.armed

/-- The delays are the entries of the table in turn, and its last one from there on. -/
def BacksOff (delays : List ℕ) : Prop :=
  ∀ index < delays.length, delays[index]? = reconnectDelaysMs[min index 3]?

instance (delays : List ℕ) : Decidable (BacksOff delays) := inferInstanceAs (Decidable (∀ index < _, _))

theorem delays_concat (past : List (Record LocalAgentClient Event (Effect Double)))
    (record : Record LocalAgentClient Event (Effect Double)) :
    delays (past ++ [record]) = delays past ++ record.emitted.filterMap Effect.armed := by
  rw [delays, List.flatMap_append, List.filterMap_append, List.flatMap_singleton]
  rfl

theorem backsOff_concat (delays : List ℕ) (last : ℕ) :
    BacksOff (delays ++ [last]) ↔ BacksOff delays ∧ reconnectDelaysMs[min delays.length 3]? = some last := by
  simp only [BacksOff, List.length_append, List.length_singleton]
  constructor
  · intro follows
    constructor
    · intro index inside
      rw [← follows index (by omega), List.getElem?_append_left inside]
    · rw [← follows delays.length (by omega), List.getElem?_concat_length]
  · rintro ⟨follows, next⟩ index inside
    rcases Nat.lt_succ_iff_lt_or_eq.mp inside with before | rfl
    · rw [List.getElem?_append_left before]
      exact follows index before
    · rw [List.getElem?_concat_length, next]

/-- Only the first entry of the table is the first delay. -/
theorem getElem?_first_iff (count : ℕ) : reconnectDelaysMs[min count 3]? = some (delay 0) ↔ count = 0 := by
  constructor
  · intro same
    by_contra later
    have position : min count 3 = 1 ∨ min count 3 = 2 ∨ min count 3 = 3 := by omega
    rcases position with position | position | position
    all_goals
      rw [position] at same
      revert same
      decide
  · rintro rfl
    rfl

/-- A connection is rejected only when no delay was armed before. -/
def FirstOnly (past : List (Record LocalAgentClient Event (Effect Double))) : Prop :=
  ∀ before record after, past = before ++ record :: after → Rejects record → delays before = []

theorem firstOnly_concat (past : List (Record LocalAgentClient Event (Effect Double)))
    (last : Record LocalAgentClient Event (Effect Double)) :
    FirstOnly (past ++ [last]) ↔ FirstOnly past ∧ (Rejects last → delays past = []) := by
  constructor
  · intro first
    constructor
    · intro before record after split
      exact first before record (after ++ [last]) (by rw [split, List.append_assoc, List.cons_append])
    · exact first past last [] rfl
  · rintro ⟨earlier, here⟩ before record after split rejects
    rcases List.eq_nil_or_concat after with rfl | ⟨middle, other, rfl⟩
    · obtain ⟨rfl, same⟩ := List.append_inj' split rfl
      obtain rfl := (List.cons.inj same).1
      exact here rejects
    · rw [List.concat_eq_append, ← List.cons_append, ← List.append_assoc] at split
      obtain ⟨front, -⟩ := List.append_inj' split rfl
      exact earlier before record middle front rejects

/-- What the index of the client counts in a fruitless run. -/
structure Reckoned (client : LocalAgentClient) (past : List (Record LocalAgentClient Event (Effect Double))) :
    Prop where
  idle : client.running = false → delays past = []
  reset : client.Established → client.reconnectAttempt = 0
  counted : FirstOnly past → ¬client.Established → client.reconnectAttempt = min (delays past).length 3
  exact : BacksOff (delays past) ↔ FirstOnly past

section

variable {client next : LocalAgentClient} {event : Event} {effects : List (Effect Double)}
  {past : List (Record LocalAgentClient Event (Effect Double))}

/-- A step that arms nothing and rejects nothing. -/
theorem Reckoned.quiet (reckoned : Reckoned client past) (silent : effects.filterMap Effect.armed = [])
    (kept : ¬(client.Established ∧ next.socket = .unconnected))
    (running : next.running = false → client.running = false)
    (reset : next.Established → next.reconnectAttempt = 0)
    (counted : ¬next.Established → FirstOnly past → next.reconnectAttempt = min (delays past).length 3) :
    Reckoned next (past ++ [⟨client, event, next, effects⟩]) := by
  have same : delays (past ++ [⟨client, event, next, effects⟩]) = delays past := by
    rw [delays_concat, silent, List.append_nil]
  have first : FirstOnly (past ++ [⟨client, event, next, effects⟩]) ↔ FirstOnly past := by
    rw [firstOnly_concat]
    exact and_iff_left fun rejects => absurd rejects kept
  constructor
  · intro stopped
    rw [same]
    exact reckoned.idle (running stopped)
  · exact reset
  · intro earlier down
    rw [same]
    exact counted down (first.mp earlier)
  · rw [same, first]
    exact reckoned.exact

/-- A lost socket arms the delay that the index of the client names: the first one when an established connection
is rejected, the next one otherwise. -/
theorem Reckoned.lost (reckoned : Reckoned client past) (tidy : client.Tidy)
    (inUse : client.socket ≠ .unconnected) (gone : next.socket = .unconnected)
    (armed : effects.filterMap Effect.armed = [delay client.reconnectAttempt])
    (attempt : next.reconnectAttempt = min (client.reconnectAttempt + 1) 3)
    (running : next.running = client.running) :
    Reckoned next (past ++ [⟨client, event, next, effects⟩]) := by
  have down : ¬next.Established := by simp [Established, gone]
  have more : delays (past ++ [⟨client, event, next, effects⟩]) =
      delays past ++ [delay client.reconnectAttempt] := by
    rw [delays_concat, armed]
  have entry : reconnectDelaysMs[min client.reconnectAttempt 3]? = some (delay client.reconnectAttempt) := by
    rw [getElem?_delay, Nat.min_eq_left tidy.attempt]
  refine ⟨fun stopped => ?_, fun up => absurd up down, ?_, ?_⟩
  · rw [running, tidy.running inUse] at stopped
    cases stopped
  · intro first _
    obtain ⟨earlier, here⟩ := (firstOnly_concat ..).mp first
    rw [more, List.length_append, List.length_singleton, attempt]
    by_cases up : client.Established
    · rw [reckoned.reset up, here ⟨up, gone⟩, List.length_nil]
    · rw [reckoned.counted earlier up]
      omega
  · rw [more, backsOff_concat, firstOnly_concat, reckoned.exact]
    refine and_congr_right fun earlier => ?_
    by_cases up : client.Established
    · have rejects : Rejects ⟨client, event, next, effects⟩ := ⟨up, gone⟩
      rw [imp_iff_right rejects, reckoned.reset up, getElem?_first_iff, List.length_eq_zero_iff]
    · refine iff_of_true ?_ fun rejects => absurd rejects.1 up
      rw [← entry, reckoned.counted earlier up, Nat.min_assoc, Nat.min_self]

/-- What one fruitless step does to the reckoning. -/
theorem Reckoned.step {lib : Libraries Double} (reckoned : Reckoned client past) (tidy : client.Tidy)
    (course : Course lib client event next effects) (fruitless : Fruitless ⟨client, event, next, effects⟩) :
    Reckoned next (past ++ [⟨client, event, next, effects⟩]) := by
  cases course with
  | keep buffer said ordinary idle =>
    apply reckoned.quiet (armed_of_quiet said.quiet).1
    · exact fun rejects => rejects.1.inUse rejects.2
    · exact id
    · exact reckoned.reset
    · exact fun down first => reckoned.counted first down
  | mute lost kept =>
    apply reckoned.quiet rfl
    · exact fun rejects => rejects.1.inUse rejects.2
    · exact id
    · exact reckoned.reset
    · exact fun down first => reckoned.counted first down
  | start stopped =>
    apply reckoned.quiet rfl
    · exact fun rejects => SocketState.noConfusion rejects.2
    · exact fun off => Bool.noConfusion off
    · exact fun _ => rfl
    · intro _ _
      rw [reckoned.idle stopped]
      rfl
  | retry pending =>
    have idle := (tidy.armed.mp pending).2
    apply reckoned.quiet rfl
    · exact fun rejects => SocketState.noConfusion rejects.2
    · exact fun off => Bool.noConfusion off
    · rintro (up | up) <;> cases up
    · exact fun _ first => reckoned.counted first (by simp [Established, idle])
  | establish accepted awaited said =>
    apply reckoned.quiet ((armed_changed ..).trans (armed_of_quiet said.quiet).1)
    · exact fun rejects => SocketState.noConfusion rejects.2
    · exact id
    · exact fun _ => rfl
    · exact fun down => absurd (.inl rfl) down
  | refuse accepted awaited said complains =>
    have lost : client.socket ≠ .unconnected := by rw [awaited]; decide
    exact absurd rfl (fruitless.requested ⟨lost, rfl⟩ accepted)
  | close inUse =>
    apply reckoned.quiet rfl
    · exact fun rejects => SocketState.noConfusion rejects.2
    · exact id
    · exact fun _ => reckoned.reset (.inl inUse)
    · exact fun down => absurd (.inr rfl) down
  | drop buffer inUse said complains ordinary =>
    apply reckoned.lost tidy inUse
    · rfl
    · exact (drop_shows client said complains).1
    · rfl
    · rfl
  | stop => exact absurd rfl fruitless.unstopped

end

/-- The reckoning of a whole run. -/
theorem reckoned_of_run {lib : Libraries Double} {events : List Event} {client : LocalAgentClient}
    {records : List (Record LocalAgentClient Event (Effect Double))}
    (reached : run (logged (recorded (step lib))) ({}, []) events = some (client, records))
    (fruitless : ∀ record ∈ records, Fruitless record) : Reckoned client records := by
  have held := Machine.recorded_invariant (fun client records => client.Tidy ∧
    ((∀ record ∈ records, Fruitless record) → Reckoned client records)) ?_ reached ⟨Tidy.initial, fun _ => ?_⟩
  · exact held.2 fruitless
  · rintro source past event target emitted taken ⟨tidy, earlier⟩
    have course := step_course tidy taken
    refine ⟨tidy.course course, fun fruitless => ?_⟩
    have reckoned := earlier fun record member => fruitless record (List.mem_append_left _ member)
    exact reckoned.step tidy course (fruitless _ (List.mem_append_right _ (List.mem_singleton_self _)))
  · constructor
    · exact fun _ => rfl
    · rintro (up | up) <;> cases up
    · exact fun _ _ => rfl
    · refine iff_of_true (fun index inside => absurd inside (Nat.not_lt_zero _)) ?_
      intro before record after split
      simp at split

/-- A client whose socket is in use is running, and goes on to do so unless it is stopped. -/
theorem Course.running {lib : Libraries Double} {client next : LocalAgentClient} {event : Event}
    {effects : List (Effect Double)} (course : Course lib client event next effects) (tidy : client.Tidy)
    (inUse : client.socket ≠ .unconnected) (unstopped : event ≠ .stop) : next.running = true := by
  cases course with
  | stop => exact absurd rfl unstopped
  | start => rfl
  | retry => rfl
  | _ => exact tidy.running inUse

/-- A step arms a delay exactly when it takes the socket out of use, a stop apart. -/
theorem armed_eq_nil_iff {lib : Libraries Double} {record : Record LocalAgentClient Event (Effect Double)}
    (tidy : record.source.Tidy)
    (taken : step lib record.source record.input = some (record.target, record.emitted))
    (unstopped : record.input ≠ .stop) : record.emitted.filterMap Effect.armed = [] ↔ ¬Loses record := by
  have course := step_course tidy taken
  have summary := course.summary tidy
  rw [summary.armed]
  split
  · next lost => exact iff_of_false (by simp) fun kept => kept ⟨lost.1, lost.2.1⟩
  · next kept => exact iff_of_true rfl fun lost => kept ⟨lost.1, lost.2, course.running tidy lost.1 unstopped⟩

/-- No connection is rejected after an attempt has failed or another connection was rejected. -/
def AtFirst (records : List (Record LocalAgentClient Event (Effect Double))) : Prop :=
  ∀ before rejected after, records = before ++ rejected :: after → Rejects rejected →
    ∀ earlier ∈ before, ¬Loses earlier

theorem firstOnly_iff_atFirst {lib : Libraries Double} {events : List Event} {client : LocalAgentClient}
    {records : List (Record LocalAgentClient Event (Effect Double))}
    (reached : run (logged (recorded (step lib))) ({}, []) events = some (client, records))
    (fruitless : ∀ record ∈ records, Fruitless record) : FirstOnly records ↔ AtFirst records := by
  obtain ⟨-, taken⟩ := records_taken reached
  have unarmed {before after : List (Record LocalAgentClient Event (Effect Double))}
      {record : Record LocalAgentClient Event (Effect Double)} (split : records = before ++ record :: after) :
      delays before = [] ↔ ∀ earlier ∈ before, ¬Loses earlier := by
    rw [delays, List.filterMap_flatMap, List.flatMap_eq_nil_iff]
    refine forall₂_congr fun earlier member => ?_
    have inside : earlier ∈ records := split ▸ List.mem_append_left _ member
    obtain ⟨tidy, step⟩ := taken earlier inside
    exact armed_eq_nil_iff tidy step (fruitless earlier inside).unstopped
  constructor
  · intro first before rejected after split rejects
    exact (unarmed split).mp (first before rejected after split rejects)
  · intro first before rejected after split rejects
    exact (unarmed split).mpr (first before rejected after split rejects)

/-- Backoff with an incompatible Agent. In a run without any valid response, in which every connection that
comes up and ends is ended by a protocol error, the delays follow the table exactly when no connection is
rejected after another attempt was lost. -/
theorem backs_off_iff (lib : Libraries Double) {events : List Event} {client : LocalAgentClient}
    {records : List (Record LocalAgentClient Event (Effect Double))}
    (reached : run (logged (recorded (step lib))) ({}, []) events = some (client, records))
    (fruitless : ∀ record ∈ records, Fruitless record) : BacksOff (delays records) ↔ AtFirst records := by
  rw [← firstOnly_iff_atFirst reached fruitless]
  exact (reckoned_of_run reached fruitless).exact

/-- The index is zero for as long as a connection is established. -/
theorem Course.reset {lib : Libraries Double} {client next : LocalAgentClient} {event : Event}
    {effects : List (Effect Double)} (course : Course lib client event next effects)
    (reset : client.Established → client.reconnectAttempt = 0) :
    next.Established → next.reconnectAttempt = 0 := by
  cases course with
  | keep | mute => exact reset
  | establish => exact fun _ => rfl
  | close inUse => exact fun _ => reset (.inl inUse)
  | _ => rintro (up | up) <;> cases up

theorem Course.rejected {lib : Libraries Double} {client next : LocalAgentClient} {event : Event}
    {effects : List (Effect Double)} (course : Course lib client event next effects)
    (reset : client.reconnectAttempt = 0) (up : client.Established) (gone : next.socket = .unconnected)
    (unstopped : event ≠ .stop) : effects.filterMap Effect.armed = [500] := by
  have inUse := up.inUse
  cases course with
  | drop buffer _ said complains ordinary =>
    rw [(drop_shows client said complains).1, reset]
    rfl
  | stop => exact absurd rfl unstopped
  | keep | mute => exact absurd gone inUse
  | refuse accepted awaited => rcases up with up | up <;> exact absurd (up.symm.trans awaited) (by decide)
  | _ => cases gone

/-- In every run, the end of an established connection arms the shortest delay. -/
theorem rejected_delay {lib : Libraries Double} {events : List Event} {client : LocalAgentClient}
    {records : List (Record LocalAgentClient Event (Effect Double))}
    (reached : run (logged (recorded (step lib))) ({}, []) events = some (client, records)) :
    ∀ record ∈ records, Rejects record → record.input ≠ .stop →
      record.emitted.filterMap Effect.armed = [500] := by
  have held := Machine.recorded_invariant (fun client records => client.Tidy ∧
    (client.Established → client.reconnectAttempt = 0) ∧ ∀ record ∈ records, Rejects record →
      record.input ≠ .stop → record.emitted.filterMap Effect.armed = [500]) ?_ reached
    ⟨Tidy.initial, by simp [Established], by simp⟩
  · exact held.2.2
  · rintro source past event target emitted taken ⟨tidy, reset, earlier⟩
    have course := step_course tidy taken
    refine ⟨tidy.course course, course.reset reset, fun record member rejects unstopped => ?_⟩
    rcases List.mem_append.mp member with before | last
    · exact earlier record before rejects unstopped
    · obtain rfl := List.mem_singleton.mp last
      exact course.rejected (reset rejects.1) rejects.1 rejects.2 unstopped

/-- Whether a step is fruitless. -/
def isFruitless (record : Record LocalAgentClient Event (Effect Double)) : Bool :=
  record.emitted.all (fun effect => match effect with | .snapshotReceived _ => false | _ => true) &&
    decide (record.input ≠ .stop) &&
    (!decide (Rejects record) ||
      (match record.input with | .readyRead _ => true | _ => false) &&
        record.emitted.any fun effect => match effect with | .protocolError _ => true | _ => false) &&
    (!decide (Loses record) || match record.input with | .connected _ => false | _ => true)

theorem fruitless_of_isFruitless {record : Record LocalAgentClient Event (Effect Double)}
    (found : isFruitless record = true) : Fruitless record := by
  simp only [isFruitless, Bool.and_eq_true, Bool.or_eq_true, Bool.not_eq_true', decide_eq_false_iff_not,
    List.all_eq_true, List.any_eq_true, decide_eq_true_eq] at found
  obtain ⟨⟨⟨unanswered, unstopped⟩, rejected⟩, requested⟩ := found
  refine ⟨fun snapshot member => ?_, unstopped, fun rejects => ?_, fun lost accepted same => ?_⟩
  · exact Bool.noConfusion (unanswered _ member)
  · obtain ⟨read, effect, member, complains⟩ := rejected.resolve_left (not_not.mpr rejects)
    cases input : record.input with
    | readyRead data =>
      cases effect with
      | protocolError message => exact ⟨data, message, rfl, member⟩
      | _ => cases complains
    | _ => rw [input] at read; cases read
  · have other := requested.resolve_left (not_not.mpr lost)
    rw [same] at other
    cases other

/-- A response of another protocol version. -/
def incompatibleFrame : Ipc.Bytes :=
  ((Proto.Codec.libraries.serializeResponse ⟨2, .running, none, []⟩).bind Ipc.encodeFrame).getD []

/-- A first connection that is rejected, and attempts that fail. -/
def fruitlessEvents : List Event :=
  [.start, .connected 6, .readyRead incompatibleFrame] ++
    (List.replicate 4 [.reconnectTimeout, .errorOccurred true]).flatten

theorem backs_off_sample :
    ∃ client records,
      run (logged (recorded (step Proto.Codec.libraries))) ({}, []) fruitlessEvents = some (client, records) ∧
        delays records = [500, 1000, 2000, 5000, 5000] ∧ AtFirst records := by
  have taken : (run (logged (recorded (step Proto.Codec.libraries))) ({}, []) fruitlessEvents).map
      (fun entry => (delays entry.2, entry.2.all isFruitless)) = some ([500, 1000, 2000, 5000, 5000], true) := by
    decide +kernel
  obtain ⟨⟨client, records⟩, reached, same⟩ := Option.map_eq_some_iff.mp taken
  obtain ⟨armed, fruitless⟩ := Prod.mk.inj same
  have fruitless : ∀ record ∈ records, Fruitless record := fun record member =>
    fruitless_of_isFruitless (List.all_eq_true.mp fruitless record member)
  refine ⟨client, records, reached, armed, (backs_off_iff Proto.Codec.libraries reached fruitless).mp ?_⟩
  rw [armed]
  decide

/-- An incompatible Agent that is tried four times. -/
def incompatibleEvents : List Event :=
  .start :: (List.replicate 4 [.connected 6, .readyRead incompatibleFrame, .reconnectTimeout]).flatten

/-- Each of its rejections is followed by the shortest delay. -/
theorem rejected_at_once :
    ∃ client records,
      run (logged (recorded (step Proto.Codec.libraries))) ({}, []) incompatibleEvents = some (client, records) ∧
        (∀ record ∈ records, Fruitless record) ∧ delays records = [500, 500, 500, 500] ∧
          ¬BacksOff (delays records) := by
  have taken : (run (logged (recorded (step Proto.Codec.libraries))) ({}, []) incompatibleEvents).map
      (fun entry => (delays entry.2, entry.2.all isFruitless)) = some ([500, 500, 500, 500], true) := by
    decide +kernel
  obtain ⟨⟨client, records⟩, reached, same⟩ := Option.map_eq_some_iff.mp taken
  obtain ⟨armed, fruitless⟩ := Prod.mk.inj same
  refine ⟨client, records, reached, fun record member => ?_, armed, ?_⟩
  · exact fruitless_of_isFruitless (List.all_eq_true.mp fruitless record member)
  · rw [armed]
    decide

end LocalAgentClient

end Guardian.Desktop
