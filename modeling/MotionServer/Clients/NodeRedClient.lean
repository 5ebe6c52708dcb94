import Mathlib.Data.List.Basic
import Mathlib.Logic.Function.Basic

/-!
# The connection node of the Node-RED client

One thread runs the handlers of sockets, timers and messages one after the other.

* `NodeSocketEvent`, `NodeEvent`: what the handlers are called with;
* `MotionServerConnectionNode`: the node;
* **`MotionServerConnectionNode.step`**: the handlers, for any events of any sockets.

A socket is known by its number, and a request by that in its id. Listeners, the feedback, and the
split of the data into lines are left out.
-/

namespace MotionServer

/-- How a request ends. -/
inductive NodeOutcome
  | response
  /-- `clientError(code, message, …)` -/
  | clientError (code message : String)
  deriving DecidableEq, Repr

/-- A line that `consumeData` takes off the buffer. -/
inductive NodeLine
  /-- A message, with the request that its `request_id` names. -/
  | message (id : Option ℕ)
  /-- No JSON object. -/
  | broken (error : String)
  deriving DecidableEq, Repr

/-- The events of a socket. -/
inductive NodeSocketEvent
  | connect
  | data (lines : List NodeLine)
  | error (message : String)
  | close
  /-- The callback of `socket.write`. -/
  | written (error : Option String)
  deriving DecidableEq, Repr

/-- What `request` is called with. -/
inductive NodeRequest
  | invalid (message : String)
  | unserializable (message : String)
  /-- `socket.write` may raise. -/
  | valid (writeError : Option String)
  deriving DecidableEq, Repr

/-- The payload of the connection control node. -/
inductive NodeControl
  | disconnect
  /-- A checked endpoint. -/
  | connect (host : String) (port : ℕ)
  deriving DecidableEq, Repr

/-- What the handlers of the node are called with. `creation` is the error that
`net.createConnection` raises, if the handler comes to it and it does. -/
inductive NodeEvent
  | request (request : NodeRequest)
  | requestTimeout (id : ℕ)
  | socket (sock : ℕ) (event : NodeSocketEvent)
  | reconnect (creation : Option String)
  | control (message : NodeControl) (creation : Option String)
  | close
  deriving DecidableEq, Repr

/-- `MotionServerConnectionNode`. -/
structure MotionServerConnectionNode where
  host : String
  port : ℕ
  desiredConnected : Bool
  connected : Bool
  lastError : String
  socket : Option ℕ
  /-- The keys of `node.pending`. -/
  pending : List ℕ
  requestSequence : ℕ
  reconnectTimer : Bool
  stopped : Bool
  nextSocket : ℕ
  /-- The socket that a request was written to. -/
  sentOn : ℕ → Option ℕ
  outcomes : ℕ → Option NodeOutcome

namespace MotionServerConnectionNode

/-- The callback of a request. -/
def callback (node : MotionServerConnectionNode) (id : ℕ) (outcome : NodeOutcome) :
    MotionServerConnectionNode :=
  { node with outcomes := Function.update node.outcomes id (some outcome) }

/-- `node.setConnectionState(connected, lastError)`. -/
def setConnectionState (node : MotionServerConnectionNode) (connected : Bool) (lastError : String) :
    MotionServerConnectionNode :=
  { node with connected := connected, lastError := lastError }

/-- `node.failPending(code, message)`. -/
def failPending (node : MotionServerConnectionNode) (code message : String) :
    MotionServerConnectionNode :=
  node.pending.foldl (fun node id => node.callback id (.clientError code message))
    { node with pending := [] }

/-- `node.disconnect(message)`. -/
def disconnect (node : MotionServerConnectionNode) (message : String) : MotionServerConnectionNode :=
  ({ node with socket := none }.setConnectionState false message).failPending "connection_lost" message

/-- `node.scheduleReconnect()`. -/
def scheduleReconnect (node : MotionServerConnectionNode) : MotionServerConnectionNode :=
  if node.stopped || !node.desiredConnected || node.connected || node.reconnectTimer then node
  else { node with reconnectTimer := true }

/-- `node.connect()`. -/
def connect (node : MotionServerConnectionNode) (creation : Option String) :
    MotionServerConnectionNode :=
  if node.stopped || !node.desiredConnected || node.socket.isSome then node
  else match creation with
    | some error => { node with lastError := error }.scheduleReconnect
    | none => { node with socket := some node.nextSocket, nextSocket := node.nextSocket + 1 }

/-- The node of a configuration. -/
def init (host : String) (port : ℕ) (autoConnect : Bool) (creation : Option String) :
    MotionServerConnectionNode :=
  let node : MotionServerConnectionNode :=
    { host, port, desiredConnected := autoConnect, connected := false, lastError := ""
      socket := none, pending := [], requestSequence := 0, reconnectTimer := false, stopped := false
      nextSocket := 0, sentOn := fun _ => none, outcomes := fun _ => none }
  if autoConnect then node.connect creation else node

/-- `node.request(message, timeout, callback)`. -/
def request (node : MotionServerConnectionNode) (request : NodeRequest) :
    MotionServerConnectionNode :=
  let id := node.requestSequence + 1
  let node := { node with requestSequence := id }
  match request with
  | .invalid message => node.callback id (.clientError "invalid_client_request" message)
  | _ =>
    match node.connected, node.socket with
    | true, some sock =>
      match request with
      | .unserializable message => node.callback id (.clientError "invalid_client_request" message)
      | .valid writeError =>
        let node := { node with
          pending := node.pending ++ [id], sentOn := Function.update node.sentOn id (some sock) }
        match writeError with
        | some error => node.disconnect ("Motion Server connection lost: " ++ error)
        | none => node
      | .invalid _ => node
    | _, _ => node.callback id (.clientError "not_connected" "Motion Server is not connected")

/-- The timer of a request. -/
def requestTimeout (node : MotionServerConnectionNode) (id : ℕ) : MotionServerConnectionNode :=
  if id ∈ node.pending then
    { node with pending := node.pending.erase id }.callback id
      (.clientError "request_timeout" "Motion Server request timed out")
  else node

/-- `node.routeMessage(message)`, by the request that the message names. -/
def routeMessage (node : MotionServerConnectionNode) : Option ℕ → MotionServerConnectionNode
  | some id =>
    if id ∈ node.pending then { node with pending := node.pending.erase id }.callback id .response
    else node
  | none => node

/-- `node.consumeData(chunk)`, on the lines of the chunk. -/
def consumeData (node : MotionServerConnectionNode) : List NodeLine → MotionServerConnectionNode
  | [] => node
  | .broken error :: _ => node.disconnect ("Motion Server protocol error: " ++ error)
  | .message id :: lines => (node.routeMessage id).consumeData lines

/-- The handlers of a socket. -/
def socketEvent (node : MotionServerConnectionNode) (sock : ℕ) :
    NodeSocketEvent → MotionServerConnectionNode
  | .connect =>
    if node.socket ≠ some sock ∨ node.stopped then node
    else { node with reconnectTimer := false }.setConnectionState true ""
  | .data lines => if node.socket = some sock then node.consumeData lines else node
  | .error message => if node.socket = some sock then { node with lastError := message } else node
  | .close =>
    if node.socket = some sock then
      (node.disconnect (if node.lastError = "" then "Motion Server connection closed"
        else node.lastError)).scheduleReconnect
    else node.scheduleReconnect
  -- This handler does not ask which socket the node has.
  | .written (some error) => node.disconnect ("Motion Server connection lost: " ++ error)
  | .written none => node

/-- `node.controlConnection(message)`. -/
def controlConnection (node : MotionServerConnectionNode) (creation : Option String) :
    NodeControl → MotionServerConnectionNode
  | .disconnect =>
    { node with desiredConnected := false, reconnectTimer := false }.disconnect
      "Disconnected by user"
  | .connect host port =>
    let endpointChanged := node.host ≠ host ∨ node.port ≠ port
    let node' := { node with host, port, desiredConnected := true, reconnectTimer := false }
    if node.socket.isSome ∧ ¬ endpointChanged then node'
    else if node.socket.isSome then
      (node'.disconnect "Motion Server endpoint changed").connect creation
    else node'.connect creation

/-- **A handler runs.** Only a socket that has been created has events, and a timer runs out only if
it is set. -/
def step (node : MotionServerConnectionNode) : NodeEvent → MotionServerConnectionNode
  | .request request => node.request request
  | .requestTimeout id => node.requestTimeout id
  | .socket sock event => if sock < node.nextSocket then node.socketEvent sock event else node
  | .reconnect creation =>
    if node.reconnectTimer then { node with reconnectTimer := false }.connect creation else node
  | .control message creation => node.controlConnection creation message
  | .close =>
    { node with stopped := true, reconnectTimer := false }.disconnect
      "Motion Server connection stopped"

end MotionServerConnectionNode

end MotionServer
