import MotionServer.Clients.PythonClient
import MotionServer.Clients.NodeRedClient

/-!
# Connections of the reference clients

A client that has reconnected may still hear of its earlier socket.

* `MotionServerClient.Isolated`, `MotionServerConnectionNode.Isolated`: an event of an earlier socket
  leaves the current connection, its reported state and its requests alone;
* `MotionServerClient.StaleSendFailure`, `MotionServerConnectionNode.StaleWriteError`: a write to an
  earlier socket fails after the client has reconnected;
* **`connections_isolated`**: in every run of either client the steps are isolated exactly if none is
  such a failure.
-/

namespace MotionServer

variable {F : Type}

/-! ## The Python client -/

/-- The thread of `_connection_loop` has no socket yet, or no longer. -/
def ReceiveLoop.Unconnected : ReceiveLoop → Prop
  | .dead | .checking | .connecting | .opened _ | .pausing => True
  | _ => False

namespace MotionServerClient

/-- The step belongs to an earlier socket than the current one, or it is the rest of a section that
has taken requests out. -/
def OfEarlierSocket (client : MotionServerClient F) (current : ℕ) : ClientEvent F → Prop
  | .call c _ => ∃ id sock phase, client.calls c = .running id sock phase ∧ sock ≠ current
  | .loop _ => client.round ≠ some current
  | .work _ => True
  | _ => False

/-- A request that was sent on the socket. -/
def SentOn (client : MotionServerClient F) (sock id : ℕ) : Prop :=
  ∃ c phase, client.calls c = .running id sock phase

/-- An event of an earlier socket leaves the current connection, its reported state and its requests
alone. -/
def Isolated (setup : ClientSetup F) (client : MotionServerClient F) (event : ClientEvent F) : Prop :=
  ∀ current, client.socket = some current → client.OfEarlierSocket current event →
    (client.step setup event).socket = some current ∧
    (client.step setup event).connected = client.connected ∧
    (client.step setup event).lastError = client.lastError ∧
    ∀ id, client.SentOn current id → (client.step setup event).table.Doomed id →
      client.table.Doomed id

/-- A call whose `sendall` has failed calls `_disconnect` while another socket is current. -/
def StaleSendFailure (client : MotionServerClient F) (event : ClientEvent F) : Prop :=
  ∃ c id sock error current, event = .call c .disconnect ∧
    client.calls c = .running id sock (.sendFailed error) ∧ client.socket = some current ∧
      sock ≠ current

/-- The loop has opened the current socket, and goes back to connecting without one. -/
structure LoopOwns (client : MotionServerClient F) : Prop where
  current : client.socket = none ∨ client.socket = client.round
  unconnected : client.receiveLoop.Unconnected → client.socket = none
  opened : ∀ sock, client.receiveLoop = .opened sock → client.round = some sock

variable {setup : ClientSetup F} {client next : MotionServerClient F}

theorem loopOwns_init : (init : MotionServerClient F).LoopOwns :=
  ⟨Or.inl rfl, fun _ => rfl, fun _ h => nomatch h⟩

/-- A thread other than the loop may only close the current socket. -/
theorem LoopOwns.of_closed (h : client.LoopOwns)
    (hsocket : next.socket = none ∨ next.socket = client.socket) (hround : next.round = client.round)
    (hloop : next.receiveLoop = client.receiveLoop) : next.LoopOwns where
  current := by
    rcases hsocket with hnone | hsame
    · exact Or.inl hnone
    · rw [hsame, hround]
      exact h.current
  unconnected hphase := by
    rcases hsocket with hnone | hsame
    · exact hnone
    · rw [hsame]
      exact h.unconnected (hloop ▸ hphase)
  opened sock hopened := by
    rw [hround]
    exact h.opened sock (hloop ▸ hopened)

theorem loopOwns_request (h : client.LoopOwns) (c : ℕ) (submission : Submission) :
    (client.request c submission).LoopOwns := by
  unfold request
  split
  · exact h.of_closed (Or.inr rfl) rfl rfl
  split
  · split
    · exact h.of_closed (Or.inr rfl) rfl rfl
    · exact h.of_closed (Or.inr rfl) rfl rfl
  · exact h.of_closed (Or.inr rfl) rfl rfl

theorem loopOwns_actCall (h : client.LoopOwns) {c id sock : ℕ} {phase : Phase} {step : CallStep}
    (hact : client.actCall c id sock phase step = some next) : next.LoopOwns := by
  unfold actCall at hact
  split at hact
  · cases hact
    exact h.of_closed (Or.inr rfl) rfl rfl
  · cases hact
    exact h.of_closed (Or.inr rfl) rfl rfl
  · cases hact
    exact h.of_closed (Or.inl rfl) rfl rfl
  · split at hact <;> cases hact
    exact h.of_closed (Or.inr rfl) rfl rfl
  · split at hact <;> cases hact
    exact h.of_closed (Or.inr rfl) rfl rfl
  · split at hact <;> cases hact
    exact h.of_closed (Or.inr rfl) rfl rfl
  · cases hact
    exact h.of_closed (Or.inr rfl) rfl rfl
  · split at hact <;> cases hact
    · exact h.of_closed (Or.inr rfl) rfl rfl
    · exact h.of_closed (Or.inr rfl) rfl rfl
  · cases hact

/-- The loop at a phase in which it may have a socket. -/
theorem LoopOwns.goTo (h : client.LoopOwns) (phase : ReceiveLoop) (hphase : ¬ phase.Unconnected) :
    { client with receiveLoop := phase }.LoopOwns where
  current := h.current
  unconnected hunconnected := absurd hunconnected hphase
  opened sock hopened := by
    subst hopened
    exact absurd trivial hphase

/-- The loop without a socket, at a phase that opens none. -/
theorem loopOwns_of_none (hnone : next.socket = none)
    (hopened : ∀ sock, next.receiveLoop ≠ .opened sock) : next.LoopOwns :=
  ⟨Or.inl hnone, fun _ => hnone, fun sock h => absurd h (hopened sock)⟩

theorem loopOwns_proceed (h : client.LoopOwns) (hact : client.proceed = some next) :
    next.LoopOwns := by
  unfold proceed at hact
  split at hact
  · rename_i hphase
    cases hact
    refine loopOwns_of_none (h.unconnected (by rw [hphase]; trivial)) fun sock => ?_
    dsimp only
    split <;> exact fun hcontra => nomatch hcontra
  · rename_i sock hphase
    split at hact <;> cases hact
    · exact h.goTo _ fun hcontra => hcontra
    · exact ⟨Or.inr (h.opened sock hphase).symm, fun hcontra => hcontra.elim,
        fun _ hcontra => nomatch hcontra⟩
  · cases hact
    refine h.goTo _ ?_
    split <;> exact fun hcontra => hcontra
  · cases hact
    refine h.goTo _ ?_
    split <;> exact fun hcontra => hcontra
  · cases hact
    exact loopOwns_of_none rfl fun _ hcontra => nomatch hcontra
  · rename_i alive _
    cases hact
    cases hsocket : client.socket with
    | some sock =>
      have hclosing := h.goTo (.closing alive) fun hcontra => hcontra
      rwa [hsocket] at hclosing
    | none =>
      refine loopOwns_of_none rfl fun sock => ?_
      dsimp only
      split <;> exact fun hcontra => nomatch hcontra
  · cases hact
    refine loopOwns_of_none rfl fun sock => ?_
    dsimp only
    split <;> exact fun hcontra => nomatch hcontra
  · rename_i hphase
    cases hact
    exact loopOwns_of_none (h.unconnected (by rw [hphase]; trivial)) fun _ hcontra => nomatch hcontra
  · cases hact

theorem loopOwns_actLoop (h : client.LoopOwns) {step : LoopStep F}
    (hact : client.actLoop setup step = some next) : next.LoopOwns := by
  cases step with
  | proceed => exact loopOwns_proceed h hact
  | connected =>
    simp only [actLoop] at hact
    split at hact <;> cases hact
    rename_i hphase
    have hnone : client.socket = none := h.unconnected (by rw [hphase]; trivial)
    refine ⟨Or.inl hnone, fun _ => hnone, fun sock hopened => ?_⟩
    cases hopened
    rfl
  | message message =>
    simp only [actLoop] at hact
    split at hact <;> cases hact
    unfold routeMessage
    split
    · exact h.of_closed (Or.inr rfl) rfl rfl
    · exact h
  | connectFails _ | received | receiveFails _ | chunkDone | protocolError _ | crash =>
    simp only [actLoop] at hact
    split at hact <;> cases hact
    exact h.goTo _ fun hcontra => hcontra

theorem loopOwns_act (h : client.LoopOwns) {event : ClientEvent F}
    (hact : client.act setup event = some next) : next.LoopOwns := by
  unfold act at hact
  split at hact
  · split at hact <;> cases hact
    exact loopOwns_request h _ _
  · split at hact
    · exact loopOwns_actCall h hact
    · cases hact
  · split at hact <;> cases hact
    exact h.of_closed (Or.inr rfl) rfl rfl
  · split at hact
    · exact loopOwns_actLoop h hact
    · cases hact
  · split at hact <;> cases hact
    rename_i hphase
    exact loopOwns_of_none (h.unconnected (by rw [hphase]; trivial)) fun _ hcontra => nomatch hcontra
  · cases hact
    exact h.of_closed (Or.inr rfl) rfl rfl
  · split at hact <;> cases hact
    exact h.of_closed (Or.inl rfl) rfl rfl

theorem loopOwns_step (h : client.LoopOwns) (event : ClientEvent F) :
    (client.step setup event).LoopOwns := by
  unfold step
  cases hact : client.act setup event with
  | none => exact h
  | some next => exact loopOwns_act h hact

/-- The steps of a call that leave the connection alone: all but `_disconnect`. -/
theorem actCall_frame {c id sock : ℕ} {phase : Phase} {step : CallStep}
    (hact : client.actCall c id sock phase step = some next) :
    (∃ error, phase = .sendFailed error ∧ step = .disconnect) ∨
      next.socket = client.socket ∧ next.connected = client.connected ∧
        next.lastError = client.lastError ∧ next.table.tasks = client.table.tasks ∧
          next.table.requests = client.table.requests := by
  unfold actCall at hact
  split at hact
  · cases hact
    exact Or.inr ⟨rfl, rfl, rfl, rfl, rfl⟩
  · cases hact
    exact Or.inr ⟨rfl, rfl, rfl, rfl, rfl⟩
  · exact Or.inl ⟨_, rfl, rfl⟩
  · split at hact <;> cases hact
    exact Or.inr ⟨rfl, rfl, rfl, rfl, rfl⟩
  · split at hact <;> cases hact
    exact Or.inr ⟨rfl, rfl, rfl, rfl, rfl⟩
  · split at hact <;> cases hact
    exact Or.inr ⟨rfl, rfl, rfl, rfl, rfl⟩
  · cases hact
    exact Or.inr ⟨rfl, rfl, rfl, rfl, rfl⟩
  · split at hact <;> cases hact
    · exact Or.inr ⟨rfl, rfl, rfl, rfl, rfl⟩
    · exact Or.inr ⟨rfl, rfl, rfl, rfl, rfl⟩
  · cases hact

theorem not_isolated_of_stale {event : ClientEvent F} (hstale : client.StaleSendFailure event) :
    ¬ client.Isolated setup event := by
  obtain ⟨c, id, sock, error, current, rfl, hcall, hsocket, hne⟩ := hstale
  intro hisolated
  have hkept := (hisolated current hsocket ⟨id, sock, _, hcall, hne⟩).1
  simp [step, act, hcall, actCall, disconnect, setCall] at hkept

theorem isolated_of_not_stale (h : client.LoopOwns) {event : ClientEvent F}
    (hfresh : ¬ client.StaleSendFailure event) : client.Isolated setup event := by
  intro current hsocket hearlier
  cases hact : client.act setup event with
  | none =>
    have hstep : client.step setup event = client := by
      rw [step, hact]
      rfl
    rw [hstep]
    exact ⟨hsocket, rfl, rfl, fun _ _ hdoomed => hdoomed⟩
  | some next =>
    have hstep : client.step setup event = next := by
      rw [step, hact]
      rfl
    rw [hstep]
    cases event with
    | call c callStep =>
      obtain ⟨id, sock, phase, hcall, hne⟩ := hearlier
      simp only [act, hcall] at hact
      rcases actCall_frame hact with ⟨error, rfl, rfl⟩ | ⟨hsame, hconnected, herror, htasks, hrequests⟩
      · exact absurd ⟨c, id, sock, error, current, rfl, hcall, hsocket, hne⟩ hfresh
      · refine ⟨hsame.trans hsocket, hconnected, herror, fun id' _ hdoomed => ?_⟩
        unfold PendingTable.Doomed at hdoomed
        rwa [htasks, hrequests] at hdoomed
    | work caller =>
      simp only [act] at hact
      split at hact <;> cases hact
      exact ⟨hsocket, rfl, rfl, fun _ _ hdoomed => PendingTable.doomed_of_work hdoomed⟩
    | loop loopStep =>
      rcases h.current with hnone | hround
      · rw [hsocket] at hnone
        cases hnone
      · exact absurd (hround.symm.trans hsocket) hearlier
    | request | start | stop | stopDisconnect => exact hearlier.elim

/-- **A step is isolated exactly if it is no late failure of a send.** -/
theorem isolated_iff (h : client.LoopOwns) (event : ClientEvent F) :
    client.Isolated setup event ↔ ¬ client.StaleSendFailure event :=
  ⟨fun hisolated hstale => not_isolated_of_stale hstale hisolated, isolated_of_not_stale h⟩

end MotionServerClient

/-! ## The Node-RED client -/

namespace MotionServerConnectionNode

/-- The event belongs to an earlier socket than the current one. -/
def OfEarlierSocket (node : MotionServerConnectionNode) (current : ℕ) : NodeEvent → Prop
  | .socket sock _ => sock ≠ current
  | .requestTimeout id => node.sentOn id ≠ some current
  | _ => False

/-- An event of an earlier socket leaves the current connection, its reported state and its requests
alone. -/
def Isolated (node : MotionServerConnectionNode) (event : NodeEvent) : Prop :=
  ∀ current, node.socket = some current → node.OfEarlierSocket current event →
    (node.step event).socket = some current ∧ (node.step event).connected = node.connected ∧
      (node.step event).lastError = node.lastError ∧
        ∀ id, node.sentOn id = some current → (node.step event).outcomes id = node.outcomes id

/-- A write to an earlier socket fails. -/
def StaleWriteError (node : MotionServerConnectionNode) (event : NodeEvent) : Prop :=
  ∃ sock error current, event = .socket sock (.written (some error)) ∧ sock < node.nextSocket ∧
    node.socket = some current ∧ sock ≠ current

variable {node : MotionServerConnectionNode} {event : NodeEvent}

theorem socket_callbacks (code message : String) (ids : List ℕ) (node : MotionServerConnectionNode) :
    (ids.foldl (fun node id => node.callback id (.clientError code message)) node).socket =
      node.socket := by
  induction ids generalizing node with
  | nil => rfl
  | cons id ids ih => exact ih _

theorem socket_disconnect (message : String) : (node.disconnect message).socket = none :=
  socket_callbacks _ _ _ _

/-- A reconnection is scheduled beside the connection. -/
theorem scheduleReconnect_frame (node : MotionServerConnectionNode) :
    node.scheduleReconnect.socket = node.socket ∧
      node.scheduleReconnect.connected = node.connected ∧
        node.scheduleReconnect.lastError = node.lastError ∧
          node.scheduleReconnect.outcomes = node.outcomes := by
  unfold scheduleReconnect
  split <;> exact ⟨rfl, rfl, rfl, rfl⟩

theorem not_isolated_of_stale (hstale : node.StaleWriteError event) : ¬ node.Isolated event := by
  obtain ⟨sock, error, current, rfl, hcreated, hsocket, hne⟩ := hstale
  intro hisolated
  have hkept := (hisolated current hsocket hne).1
  simp only [step, if_pos hcreated, socketEvent, socket_disconnect] at hkept
  cases hkept

theorem isolated_of_not_stale (hfresh : ¬ node.StaleWriteError event) : node.Isolated event := by
  intro current hsocket hearlier
  cases event with
  | socket sock socketEvent' =>
    have hcurrent : node.socket ≠ some sock := by
      rw [hsocket]
      exact fun hsame => hearlier (Option.some.inj hsame).symm
    by_cases hcreated : sock < node.nextSocket
    · simp only [step, if_pos hcreated]
      cases socketEvent' with
      | connect =>
        rw [socketEvent, if_pos (Or.inl hcurrent)]
        exact ⟨hsocket, rfl, rfl, fun _ _ => rfl⟩
      | data lines =>
        rw [socketEvent, if_neg hcurrent]
        exact ⟨hsocket, rfl, rfl, fun _ _ => rfl⟩
      | error message =>
        rw [socketEvent, if_neg hcurrent]
        exact ⟨hsocket, rfl, rfl, fun _ _ => rfl⟩
      | close =>
        rw [socketEvent, if_neg hcurrent]
        obtain ⟨hsame, hconnected, herror, houtcomes⟩ := scheduleReconnect_frame node
        exact ⟨hsame.trans hsocket, hconnected, herror, fun id _ => by rw [houtcomes]⟩
      | written error =>
        cases error with
        | none => exact ⟨hsocket, rfl, rfl, fun _ _ => rfl⟩
        | some error =>
          exact absurd ⟨sock, error, current, rfl, hcreated, hsocket, hearlier⟩ hfresh
    · have hstep : node.step (.socket sock socketEvent') = node := if_neg hcreated
      rw [hstep]
      exact ⟨hsocket, rfl, rfl, fun _ _ => rfl⟩
  | requestTimeout id =>
    simp only [step, requestTimeout]
    split
    · refine ⟨hsocket, rfl, rfl, fun id' hsent => ?_⟩
      have hid : id' ≠ id := by
        rintro rfl
        exact hearlier hsent
      exact Function.update_of_ne hid _ _
    · exact ⟨hsocket, rfl, rfl, fun _ _ => rfl⟩
  | request | reconnect | control | close => exact hearlier.elim

/-- **A handler is isolated exactly if it is no late failure of a write.** -/
theorem isolated_iff (node : MotionServerConnectionNode) (event : NodeEvent) :
    node.Isolated event ↔ ¬ node.StaleWriteError event :=
  ⟨fun hisolated hstale => not_isolated_of_stale hstale hisolated, isolated_of_not_stale⟩

end MotionServerConnectionNode

/-! ## Both clients -/

/-- **The connections of the reference clients are isolated** in exactly the runs in which no write to
an earlier socket fails after a reconnection. -/
theorem connections_isolated (setup : ClientSetup F) :
    (∀ events : List (MotionServerClient.ClientEvent F),
      Runs.Allowed (MotionServerClient.step setup) (MotionServerClient.Isolated setup)
          MotionServerClient.init events ↔
        Runs.Allowed (MotionServerClient.step setup)
          (fun client event => ¬ client.StaleSendFailure event) MotionServerClient.init events) ∧
    ∀ (host : String) (port : ℕ) (autoConnect : Bool) (creation : Option String)
      (events : List NodeEvent),
      Runs.Allowed MotionServerConnectionNode.step MotionServerConnectionNode.Isolated
          (.init host port autoConnect creation) events ↔
        Runs.Allowed MotionServerConnectionNode.step
          (fun node event => ¬ node.StaleWriteError event)
          (.init host port autoConnect creation) events := by
  constructor
  · intro events
    exact Runs.allowed_congr (P := MotionServerClient.LoopOwns)
      (fun _ event h => MotionServerClient.loopOwns_step h event)
      (fun _ event h => MotionServerClient.isolated_iff h event)
      MotionServerClient.loopOwns_init events
  · intro host port autoConnect creation events
    exact Runs.allowed_congr (P := fun _ => True) (fun _ _ _ => trivial)
      (fun node event _ => MotionServerConnectionNode.isolated_iff node event) trivial events

/-- A request is registered, its connection is lost, the loop reconnects, and only then the request
comes to its `sendall`. -/
def staleSendEvents : List (MotionServerClient.ClientEvent Unit) :=
  [.start, .loop .proceed, .loop .connected, .loop .proceed, .request 0 .valid, .loop .proceed,
    .loop .proceed, .loop (.receiveFails "[Errno 104]"), .loop .proceed, .work .loop, .work .loop,
    .work .loop, .loop .proceed, .loop .proceed, .loop .proceed, .loop .connected, .loop .proceed,
    .call 0 (.sent (some "[Errno 9]")), .call 0 .disconnect]

/-- A request is written, the endpoint changes, and the write to the old socket fails. -/
def staleWriteEvents : List NodeEvent :=
  [.socket 0 .connect, .request (.valid none), .control (.connect "127.0.0.1" 15001) none,
    .socket 0 (.written (some "write ECANCELED"))]

/-- Both clients close the connection that they have just opened. -/
theorem connections_not_isolated :
    ¬ Runs.Allowed (MotionServerClient.step (.ofToken "0"))
        (MotionServerClient.Isolated (.ofToken "0")) .init staleSendEvents ∧
      ¬ Runs.Allowed MotionServerConnectionNode.step MotionServerConnectionNode.Isolated
        (.init "127.0.0.1" 15000 true none) staleWriteEvents := by
  constructor
  · intro hallowed
    have hsplit : staleSendEvents = staleSendEvents.dropLast ++ [.call 0 .disconnect] := rfl
    rw [hsplit] at hallowed
    have hlast := (Runs.allowed_append.mp hallowed).2.1
    refine MotionServerClient.not_isolated_of_stale ?_ hlast
    exact ⟨0, 1, 0, "Motion Server connection lost: [Errno 9]", 1, rfl, rfl, rfl, by decide⟩
  · intro hallowed
    have hsplit : staleWriteEvents = staleWriteEvents.dropLast ++
        [.socket 0 (.written (some "write ECANCELED"))] := rfl
    rw [hsplit] at hallowed
    have hlast := (Runs.allowed_append.mp hallowed).2.1
    refine MotionServerConnectionNode.not_isolated_of_stale ?_ hlast
    exact ⟨0, "write ECANCELED", 1, rfl, by decide, rfl, by decide⟩

end MotionServer
