import MotionServer.Lib.Liveness
import MotionServer.Lib.PendingTable
import MotionServer.Python.Text

/-!
# The Python reference client

Threads call `request`, one thread receives and reconnects, and anybody may stop the client. Each
section that holds the state lock is one step, and so is what a thread does between two of them.

* `Caller`: the threads; `Call`, `ReceiveLoop`: where they are; `MotionServerClient`: what they share;
* `routeKey`: the request that a message answers;
* `ClientEvent`, **`act`, `step`**: the steps of the threads, in any order;
* `Ready`, `schedule`: the threads that wait for nobody.

The feedback queue is left out, and a socket is known by its number.
-/

namespace MotionServer

variable {F : Type}

/-- `str(value)` of floats, lists and objects: the text is a number, or it starts with a bracket. -/
structure ValueTexts (F : Type) where
  repr : Value F → String
  head_ne : ∀ value, (repr value).toList.head? ≠ some 'p'

/-- What stays over the life of a client. -/
structure ClientSetup (F : Type) extends ValueTexts F where
  /-- `_session_prefix`, after `python-`. -/
  token : String

/-- A setup in which each text of a float, list or object is `0`. -/
def ClientSetup.ofToken (token : String) : ClientSetup Unit where
  repr _ := "0"
  head_ne _ := by simp
  token := token

/-- The errors of `MotionServerClient.request`. -/
inductive ClientError
  | invalidClientRequest (text : String)
  | notConnected
  | requestTimeout
  | connectionLost (text : String)
  deriving DecidableEq, Repr

/-- The threads that take pending requests out of the table. -/
inductive Caller
  /-- The thread of `_connection_loop`. -/
  | loop
  /-- A thread in a call of `request`. -/
  | call (c : ℕ)
  /-- A thread in a call of `stop`. -/
  | stopper (k : ℕ)
  deriving DecidableEq, Repr

/-- How a call of `request` ends: the answers are numbered. -/
inductive Outcome (F : Type)
  | response (number : ℕ) (message : Message F)
  | raised (error : ClientError)

/-- Where a registered call of `request` is. -/
inductive Phase
  /-- Before or in `sock.sendall(payload)`. -/
  | sending
  /-- `sendall` raised, `_disconnect` is to be called. -/
  | sendFailed (error : String)
  /-- In `_disconnect`, after the section that takes the pending requests. -/
  | disconnecting (error : String)
  /-- In `pending.event.wait(timeout_value)`. -/
  | waiting
  /-- The wait has timed out, the entry is to be removed. -/
  | timedOut
  /-- Somebody else has taken the entry: in `pending.event.wait()`. -/
  | late
  deriving DecidableEq, Repr

/-- A call of `request`. -/
inductive Call (F : Type)
  | idle
  | running (id sock : ℕ) (phase : Phase)
  | ended (id : Option ℕ) (outcome : Outcome F)

/-- Where the thread of `_connection_loop` is. -/
inductive ReceiveLoop
  | dead
  /-- At the `while` of `_connection_loop`. -/
  | checking
  /-- In `socket.create_connection`. -/
  | connecting
  /-- Before the section of `_connect` that publishes the socket. -/
  | opened (sock : ℕ)
  /-- At the `while` of `_receive_loop`. -/
  | receiving
  /-- Before the section that reads `self._socket`. -/
  | fetching
  /-- In `sock.recv`. -/
  | reading (sock : ℕ)
  /-- Among the lines of a chunk. -/
  | routing (sock : ℕ)
  /-- In an `except` clause, before `_disconnect`. -/
  | failed (sock : Option ℕ) (error : String)
  /-- At the `finally`; `alive` unless an exception that is not caught ends the thread. -/
  | leaving (alive : Bool)
  /-- In the `finally`, before `_disconnect`. -/
  | closing (alive : Bool)
  /-- In `_stop_event.wait(RECONNECT_PERIOD)`. -/
  | pausing
  deriving DecidableEq, Repr

/-- `MotionServerClient`, with its threads. -/
structure MotionServerClient (F : Type) where
  /-- `_socket` -/
  socket : Option ℕ
  /-- `_connected_event` -/
  connected : Bool
  /-- `_stop_event` -/
  stopEvent : Bool
  lastError : String
  nextSocket : ℕ
  /-- The last socket that the loop has opened. -/
  round : Option ℕ
  /-- `_request_sequence`, `_pending` and the requests -/
  table : PendingTable Caller (Message F) ClientError
  calls : ℕ → Call F
  receiveLoop : ReceiveLoop
  stopping : ℕ → Bool

namespace MotionServerClient

/-- `MotionServerClient(…)`. -/
def init : MotionServerClient F where
  socket := none
  connected := false
  stopEvent := false
  lastError := ""
  nextSocket := 0
  round := none
  table := .empty
  calls _ := .idle
  receiveLoop := .dead
  stopping _ := false

/-! ## Requests and their answers -/

/-- `_next_request_id()`, by the number. -/
def requestId (setup : ClientSetup F) (id : ℕ) : String :=
  "python-" ++ setup.token ++ "-" ++ toString id

/-- `message.get("type") == "system/feedback" and "request_id" not in message`. -/
def isFeedback (message : Message F) : Bool :=
  match message.get? "type" with
  | some (.str type) => type == "system/feedback" && !message.has "request_id"
  | _ => false

/-- The key that `_route_message` looks up in `_pending`. -/
def routeKey (setup : ClientSetup F) (message : Message F) : Option String :=
  if isFeedback message then none
  else match message.get? "request_id" with
    | none | some .null => none
    | some value => some (value.pyStr setup.repr)

/-- The message answers the request. -/
def Names (setup : ClientSetup F) (message : Message F) (id : ℕ) : Prop :=
  routeKey setup message = some (requestId setup id)

instance (setup : ClientSetup F) (message : Message F) (id : ℕ) :
    Decidable (Names setup message id) :=
  inferInstanceAs (Decidable (_ = _))

/-- The pending request that a message answers. -/
def answered (setup : ClientSetup F) (client : MotionServerClient F) (message : Message F) :
    Option ℕ :=
  client.table.pending.find? fun id => Names setup message id

/-! ### The texts of the numbers -/

variable {setup : ClientSetup F} {client : MotionServerClient F} {message : Message F}

theorem head_requestId (setup : ClientSetup F) (id : ℕ) :
    (requestId setup id).toList.head? = some 'p' := by
  simp [requestId, String.toList_append]

theorem toString_nat_injective {id id' : ℕ} (h : toString id = toString id') : id = id' := by
  have hdigits : Nat.toDigits 10 id = Nat.toDigits 10 id' := by
    rw [← Nat.toList_repr, ← Nat.toList_repr]
    exact congrArg String.toList h
  rw [← Nat.ofDigitChars_ten_toDigits (n := id), hdigits, Nat.ofDigitChars_ten_toDigits]

/-- No two requests have one id. -/
theorem requestId_injective {id id' : ℕ} (h : requestId setup id = requestId setup id') :
    id = id' := by
  apply toString_nat_injective
  have hlist := congrArg String.toList h
  simp only [requestId, String.toList_append, List.append_cancel_left_eq] at hlist
  exact String.toList_inj.mp hlist

theorem head_toString_nat (n : ℕ) : (toString n).toList.head? ≠ some 'p' := by
  intro hhead
  have hmem : 'p' ∈ Nat.toDigits 10 n := by
    rw [← Nat.toList_repr]
    exact List.mem_of_head? hhead
  have hdigit := Nat.isDigit_of_mem_toDigits (by decide) (by decide) hmem
  exact absurd hdigit (by decide)

theorem head_toString_int (i : ℤ) : (toString i).toList.head? ≠ some 'p' := by
  cases i with
  | ofNat n => exact head_toString_nat n
  | negSucc n =>
    intro h
    simp [toString, Int.repr, String.toList_append] at h

/-- A message that answers a request carries its id. -/
theorem request_id_of_names {id : ℕ} (h : Names setup message id) :
    message.get? "request_id" = some (.str (requestId setup id)) := by
  unfold Names routeKey at h
  split at h
  · cases h
  · split at h
    · cases h
    · cases h
    · rename_i value hnull hvalue
      have htext : value.pyStr setup.repr = requestId setup id := Option.some.inj h
      have hhead := head_requestId setup id
      rw [← htext] at hhead
      rw [hvalue]
      cases value with
      | str s => exact congrArg (fun s => some (Value.str s)) htext
      | null => simp at hnull
      | bool b => cases b <;> simp [Value.pyStr] at hhead
      | int i => exact absurd hhead (head_toString_int i)
      | float _ | list _ | dict _ => exact absurd hhead (setup.head_ne _)
/-- The entry is popped by its key. -/
theorem answered_eq_some_iff {id : ℕ} :
    client.answered setup message = some id ↔ id ∈ client.table.pending ∧ Names setup message id := by
  constructor
  · intro h
    exact ⟨List.mem_of_find?_eq_some h, by simpa using List.find?_some h⟩
  · rintro ⟨hmem, hnames⟩
    have hsome : ((client.answered setup message).isSome : Prop) := by
      rw [answered, List.find?_isSome]
      exact ⟨id, hmem, by simpa using hnames⟩
    obtain ⟨id', hid'⟩ := Option.isSome_iff_exists.mp hsome
    have hnames' : Names setup message id' := by simpa using List.find?_some hid'
    rw [hid', requestId_injective (Option.some.inj (hnames'.symm.trans hnames))]

/-! ## Steps -/

/-- The section of `_disconnect` that holds the lock: what follows is the task of the caller. -/
def disconnect (client : MotionServerClient F) (caller : Caller) (error : String) :
    MotionServerClient F :=
  { client with
    socket := none
    connected := false
    lastError := if !client.stopEvent || client.connected then error else client.lastError
    table := client.table.failAll caller (.connectionLost error) }

/-- The call goes on. -/
def setCall (client : MotionServerClient F) (c : ℕ) (call : Call F) : MotionServerClient F :=
  { client with calls := Function.update client.calls c call }

/-- What `request` is called with. -/
inductive Submission
  /-- `validated_request` or `positive_number` raises. -/
  | invalid (text : String)
  /-- `json.dumps` raises. -/
  | unserializable (text : String)
  | valid
  deriving DecidableEq, Repr

/-- The section of `request` that registers the call. -/
def request (client : MotionServerClient F) (c : ℕ) : Submission → MotionServerClient F
  | .invalid text => client.setCall c (.ended none (.raised (.invalidClientRequest text)))
  | submission =>
    match client.socket, client.connected with
    | some sock, true =>
      match submission with
      | .unserializable text =>
        { client with table := client.table.skip }.setCall c
          (.ended none (.raised (.invalidClientRequest text)))
      | _ =>
        { client with table := client.table.register }.setCall c
          (.running (client.table.sequence + 1) sock .sending)
    | _, _ => client.setCall c (.ended none (.raised .notConnected))

/-- What `request` returns once the event is set. -/
def outcome (client : MotionServerClient F) (id : ℕ) : Outcome F :=
  match (client.table.requests id).error, (client.table.requests id).response with
  | some error, _ => .raised error
  | none, none => .raised (.connectionLost "Motion Server request ended without a response")
  | none, some response => .response response.1 response.2

/-- The steps of a call after its registration. -/
inductive CallStep
  /-- `sendall` returns or raises. -/
  | sent (error : Option String)
  /-- The locked section of `_disconnect` after a failed `sendall`. -/
  | disconnect
  /-- `raise error` at the end of `_disconnect`. -/
  | raise
  /-- The wait returns because the event is set. -/
  | wake
  /-- `wait(timeout_value)` returns `False`. -/
  | expire
  /-- The section that removes the entry of a request that has timed out. -/
  | withdraw
  deriving DecidableEq, Repr

/-- A step of a call that runs. -/
def actCall (client : MotionServerClient F) (c id sock : ℕ) :
    Phase → CallStep → Option (MotionServerClient F)
  | .sending, .sent none => some (client.setCall c (.running id sock .waiting))
  | .sending, .sent (some error) =>
    some (client.setCall c
      (.running id sock (.sendFailed ("Motion Server connection lost: " ++ error))))
  | .sendFailed error, .disconnect =>
    some ((client.disconnect (.call c) error).setCall c (.running id sock (.disconnecting error)))
  | .disconnecting error, .raise =>
    match client.table.tasks (.call c) with
    | .free => some (client.setCall c (.ended (some id) (.raised (.connectionLost error))))
    | _ => none
  | .waiting, .wake | .late, .wake =>
    if (client.table.requests id).event then
      some (client.setCall c (.ended (some id) (client.outcome id)))
    else none
  | .waiting, .expire => some (client.setCall c (.running id sock .timedOut))
  | .timedOut, .withdraw =>
    if id ∈ client.table.pending then
      some ({ client with table := client.table.withdraw id }.setCall c
        (.ended (some id) (.raised .requestTimeout)))
    else some (client.setCall c (.running id sock .late))
  | _, _ => none

/-- What the thread of `_connection_loop` sees. -/
inductive LoopStep (F : Type)
  /-- It goes on by itself. -/
  | proceed
  /-- `create_connection` returns a socket. -/
  | connected
  /-- `create_connection` raises. -/
  | connectFails (error : String)
  /-- `recv` returns a chunk. -/
  | received
  /-- `recv` raises, or the server has closed the connection. -/
  | receiveFails (error : String)
  /-- A line of the chunk is a message. -/
  | message (message : Message F)
  /-- The chunk has no further line. -/
  | chunkDone
  /-- A line of the chunk is no message. -/
  | protocolError (error : String)
  /-- A line of the chunk raises an exception that is not caught. -/
  | crash

/-- A step of `_connection_loop` by itself. -/
def proceed (client : MotionServerClient F) : Option (MotionServerClient F) :=
  match client.receiveLoop with
  | .checking =>
    some { client with receiveLoop := if client.stopEvent then .dead else .connecting }
  | .opened sock =>
    if client.stopEvent then some { client with receiveLoop := .receiving }
    else some { client with
      socket := some sock, lastError := "", connected := true, receiveLoop := .receiving }
  | .receiving =>
    some { client with receiveLoop := if client.stopEvent then .leaving true else .fetching }
  | .fetching =>
    some { client with
      receiveLoop := match client.socket with
        | none => .leaving true
        | some sock => .reading sock }
  | .failed _ error => some { client.disconnect .loop error with receiveLoop := .leaving true }
  | .leaving alive =>
    some { client with
      receiveLoop := match client.socket with
        | some _ => .closing alive
        | none => if alive then .pausing else .dead }
  | .closing alive =>
    some { client.disconnect .loop "Motion Server disconnected" with
      receiveLoop := if alive then .pausing else .dead }
  | .pausing => some { client with receiveLoop := .checking }
  | _ => none

/-- `_route_message`, up to the pop of the entry. -/
def routeMessage (setup : ClientSetup F) (client : MotionServerClient F) (message : Message F) :
    MotionServerClient F :=
  match client.answered setup message with
  | some id => { client with table := client.table.answer .loop id message }
  | none => client

/-- A step of the thread of `_connection_loop`. -/
def actLoop (setup : ClientSetup F) (client : MotionServerClient F) :
    LoopStep F → Option (MotionServerClient F)
  | .proceed => client.proceed
  | .connected => match client.receiveLoop with
    | .connecting => some { client with
        receiveLoop := .opened client.nextSocket
        nextSocket := client.nextSocket + 1
        round := some client.nextSocket }
    | _ => none
  | .connectFails error => match client.receiveLoop with
    | .connecting => some { client with
        receiveLoop := .failed none ("Motion Server connection lost: " ++ error) }
    | _ => none
  | .received => match client.receiveLoop with
    | .reading sock => some { client with receiveLoop := .routing sock }
    | _ => none
  | .receiveFails error => match client.receiveLoop with
    | .reading sock => some { client with
        receiveLoop := .failed (some sock) ("Motion Server connection lost: " ++ error) }
    | _ => none
  | .message message => match client.receiveLoop with
    | .routing _ => some (client.routeMessage setup message)
    | _ => none
  | .chunkDone => match client.receiveLoop with
    | .routing _ => some { client with receiveLoop := .receiving }
    | _ => none
  | .protocolError error => match client.receiveLoop with
    | .routing sock => some { client with
        receiveLoop := .failed (some sock) ("Motion Server protocol error: " ++ error) }
    | _ => none
  | .crash => match client.receiveLoop with
    | .routing _ => some { client with receiveLoop := .leaving false }
    | _ => none

/-- A step of some thread. -/
inductive ClientEvent (F : Type)
  | request (c : ℕ) (submission : Submission)
  | call (c : ℕ) (step : CallStep)
  /-- The rest of `_route_message` or of `_disconnect`. -/
  | work (caller : Caller)
  | loop (step : LoopStep F)
  | start
  /-- `stop` sets the event. -/
  | stop (k : ℕ)
  /-- `stop` calls `_disconnect`. -/
  | stopDisconnect (k : ℕ)

/-- **A step of some thread**, if it can take it. -/
def act (setup : ClientSetup F) (client : MotionServerClient F) :
    ClientEvent F → Option (MotionServerClient F)
  | .request c submission => match client.calls c with
    | .idle => some (client.request c submission)
    | _ => none
  | .call c step => match client.calls c with
    | .running id sock phase => client.actCall c id sock phase step
    | _ => none
  | .work caller => match client.table.tasks caller with
    | .free => none
    | _ => some { client with table := client.table.work caller }
  | .loop step => match client.table.tasks .loop with
    | .free => client.actLoop setup step
    | _ => none
  | .start => match client.receiveLoop with
    | .dead => some { client with stopEvent := false, receiveLoop := .checking }
    | _ => none
  | .stop k =>
    some { client with stopEvent := true, stopping := Function.update client.stopping k true }
  | .stopDisconnect k => match client.table.tasks (.stopper k), client.stopping k with
    | .free, true =>
      some { client.disconnect (.stopper k) "Motion Server client stopped" with
        stopping := Function.update client.stopping k false }
    | _, _ => none

/-- The client after a step. A step that no thread can take changes nothing. -/
def step (setup : ClientSetup F) (client : MotionServerClient F) (event : ClientEvent F) :
    MotionServerClient F :=
  (client.act setup event).getD client

/-- The thread that takes a step and goes on whatever the network does. -/
def caller : ClientEvent F → Option Caller
  | .call c _ => some (.call c)
  | .work caller => some caller
  | _ => none

/-- The thread waits for nobody else: it has a task, or it is in a call that goes on after its
timeout at the latest. -/
def Ready (client : MotionServerClient F) (caller : Caller) : Prop :=
  client.table.tasks caller ≠ .free ∨
    ∃ c id sock phase, caller = .call c ∧ client.calls c = .running id sock phase ∧
      (phase = .late → (client.table.requests id).event = true)

/-- The client as a schedule. -/
def schedule (setup : ClientSetup F) :
    Schedule (MotionServerClient F) (ClientEvent F) Caller where
  step := step setup
  Happens client event := (client.act setup event).isSome
  actor := caller
  Ready := Ready

end MotionServerClient

end MotionServer
