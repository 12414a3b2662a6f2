import Guardian.Desktop.Backoff

/-! # The order of a client's effects

What a handler does outwardly leads from one connection state to another: responses come only while
the client is connected, and a protocol error is followed by the end of the connection. An invariant of
whoever listens to the client is proved once for each kind of effect.
-/

namespace Guardian.Desktop

open Proto (Libraries)

variable {Double : Type}

/-- Effects to which no slot is connected. -/
def Effect.isSilent : Effect Double → Bool
  | .connectToServer | .write _ | .parse _ | .startReconnectTimer _ | .abort => true
  | _ => false

inductive Path : ConnectionState → List (Effect Double) → ConnectionState → Prop
  | nil (state : ConnectionState) : Path state [] state
  | changed {state next final : ConnectionState} {later : List (Effect Double)}
      (moved : state.move next = some next) (rest : Path next later final) :
      Path state (.connectionStateChanged next :: later) final
  | received {final : ConnectionState} {later : List (Effect Double)} (snapshot : LocalAgentSnapshot Double)
      (rest : Path .connected later final) : Path .connected (.snapshotReceived snapshot :: later) final
  | failed {state final : ConnectionState} {later : List (Effect Double)} (message : String)
      (moved : state.move .disconnected = some .disconnected) (rest : Path .disconnected later final) :
      Path state (.protocolError message :: .abort :: .connectionStateChanged .disconnected :: later) final
  | silent {state final : ConnectionState} {effect : Effect Double} {later : List (Effect Double)}
      (silent : effect.isSilent = true) (rest : Path state later final) : Path state (effect :: later) final

namespace Path

theorem append {first middle last : ConnectionState} {early later : List (Effect Double)}
    (left : Path first early middle) (right : Path middle later last) : Path first (early ++ later) last := by
  induction left with
  | nil => exact right
  | changed moved _ ih => exact .changed moved (ih right)
  | received snapshot _ ih => exact .received snapshot (ih right)
  | failed message moved _ ih => exact .failed message moved (ih right)
  | silent silent _ ih => exact .silent silent (ih right)

open LocalAgentClient (CanRequest Complains Course Event Talk Tidy)

/-- What is said on a connection stays in its state. -/
theorem talk {lib : Libraries Double} {client : LocalAgentClient} {talk : List (Effect Double)}
    {state : ConnectionState} (request : CanRequest lib) (said : Talk lib client talk)
    (heard : (∃ snapshot, .snapshotReceived snapshot ∈ talk) → state = .connected) :
    Path state talk state := by
  have quiet := said.quiet
  have calm := said.calm request
  clear said
  induction talk with
  | nil => exact .nil state
  | cons effect talk ih =>
    have rest := ih (fun ⟨snapshot, member⟩ => heard ⟨snapshot, List.mem_cons_of_mem _ member⟩)
      (fun other member => quiet other (List.mem_cons_of_mem _ member))
      (fun message member => calm message (List.mem_cons_of_mem _ member))
    cases effect with
    | snapshotReceived snapshot =>
      obtain rfl := heard ⟨snapshot, List.mem_cons_self ..⟩
      exact .received snapshot rest
    | protocolError message => exact absurd (List.mem_cons_self ..) (calm message)
    | connectionStateChanged next => cases quiet _ (List.mem_cons_self ..)
    | connectToServer => exact .silent rfl rest
    | write bytes => exact .silent rfl rest
    | parse payload => exact .silent rfl rest
    | startReconnectTimer delayMs => exact .silent rfl rest
    | abort => exact .silent rfl rest

/-- A drop ends the connection, whatever was complained about before. -/
theorem drop {state : ConnectionState} (moved : state.move .disconnected = some .disconnected)
    {complaint : List (Effect Double)} (complains : Complains complaint) (client : LocalAgentClient) :
    Path state (complaint ++ client.dropEffects) .disconnected := by
  let armed : Effect Double := .startReconnectTimer (LocalAgentClient.delay client.reconnectAttempt)
  have timer : Path .disconnected [armed] .disconnected := .silent rfl (.nil _)
  rcases complains with rfl | ⟨message, rfl⟩
  · exact .changed moved timer
  · exact .failed message moved timer

/-- Every course takes the path to the connection state that the client is left in. -/
theorem of_course {lib : Libraries Double} (request : CanRequest lib) {client next : LocalAgentClient}
    (tidy : client.Tidy) {event : Event} {effects : List (Effect Double)}
    (course : Course lib client event next effects) :
    Path client.connectionState effects next.connectionState := by
  have live {talk : List (Effect Double)} (said : Talk lib client talk) :
      (∃ snapshot, .snapshotReceived snapshot ∈ talk) → client.connectionState = .connected := by
    rintro ⟨snapshot, member⟩
    rcases said.heard snapshot member with socket | socket <;> rw [tidy.shown, socket] <;> rfl
  have leaves (inUse : client.socket ≠ .unconnected) :
      client.connectionState.move .disconnected = some .disconnected := by
    have shown := LocalAgentClient.connectionState_ne tidy inUse
    cases state : client.connectionState <;> first | rfl | exact absurd state shown
  have begins (idle : client.socket = .unconnected) :
      Path client.connectionState
        ([.connectionStateChanged .connecting, .connectToServer] : List (Effect Double)) .connecting := by
    apply Path.changed
    · rw [tidy.shown, idle]
      rfl
    · exact .silent rfl (.nil _)
  have joins (awaited : client.socket = .connecting) :
      client.connectionState.move .connected = some .connected := by
    rw [tidy.shown, awaited]
    rfl
  cases course with
  | keep buffer said ordinary idle => exact talk request said (live said)
  | mute lost kept => exact .nil _
  | start stopped => exact begins (tidy.idle stopped).1
  | retry pending => exact begins (tidy.armed.mp pending).2
  | establish accepted awaited said => exact .changed (joins awaited) (talk request said fun _ => rfl)
  | refuse accepted awaited said complains =>
    rw [List.append_assoc]
    exact .changed (joins awaited) ((talk request said fun _ => rfl).append (drop rfl complains _))
  | close inUse => exact .nil _
  | drop buffer inUse said complains ordinary =>
    rw [List.append_assoc]
    exact (talk request said (live said)).append (drop (leaves inUse) complains client)
  | stop =>
    by_cases idle : client.socket = .unconnected
    · rw [if_pos idle, tidy.shown, idle]
      exact .silent rfl (.nil _)
    · rw [if_neg idle]
      exact .silent rfl (.changed (leaves idle) (.nil _))

end Path

end Guardian.Desktop
