import Mathlib.Data.Nat.Find
import MotionServer.App.Server

/-!
# Clients that come and go

The server loops keep the list of the connected clients. A server whose start has failed runs the
degraded loop, which knows few requests, until a reconnect gives it a runtime.

* `allocateClientId`: the id of a new client;
* `ServerLoop`: the ids of the connected clients, and the server;
* `validateDegraded`, `degradedHandler`: the requests of the degraded loop;
* **`LoopEvent`, `loopStep`, `serve`**: connections, requests, drops and cycles in any order.
-/

namespace MotionServer

variable {n : ℕ} {F : Type}

/-! ## Ids -/

theorem exists_free_id (clients : List ℕ) : ∃ id, 0 < id ∧ id ∉ clients := by
  obtain ⟨id, hid⟩ := Infinite.exists_notMem_finset (insert 0 clients.toFinset)
  rw [Finset.mem_insert, List.mem_toFinset, not_or] at hid
  exact ⟨id, Nat.pos_of_ne_zero hid.1, hid.2⟩

/-- `allocate_client_id`: the first id from 1 on that no client has. -/
def allocateClientId (clients : List ℕ) : ℕ := Nat.find (exists_free_id clients)

theorem allocateClientId_notMem (clients : List ℕ) : allocateClientId clients ∉ clients :=
  (Nat.find_spec (exists_free_id clients)).2

/-! ## The loops -/

/-- A server loop. `nextClientId` is there in the degraded loop only; then nothing but the owner of
the authority is used of the world. -/
structure ServerLoop (n : ℕ) (F : Type) where
  clients : List ℕ
  nextClientId : Option ℕ
  world : World n F

namespace ServerLoop

/-- A loop without clients; the degraded one counts its ids from 1. -/
def start (world : World n F) (degraded : Bool) : ServerLoop n F where
  clients := []
  nextClientId := if degraded then some 1 else none
  world := { world with commandAuthorityOwner := none }

/-- The owner of the authority. -/
def owner (l : ServerLoop n F) : Option ℕ := l.world.commandAuthorityOwner

/-- A new client: the main loop takes the first free id, the degraded loop the next one. -/
def accept (l : ServerLoop n F) : ServerLoop n F :=
  match l.nextClientId with
  | none => { l with clients := l.clients ++ [allocateClientId l.clients] }
  | some id => { l with clients := l.clients ++ [id], nextClientId := some (id + 1) }

end ServerLoop

/-- A program of the server, run in a loop. -/
def onWorld {α : Type} (m : Server n F α) : Prog PyExc (ServerLoop n F) α := fun l =>
  ((m l.world).1, { l with world := (m l.world).2 })

/-! ## The degraded loop -/

/-- `degraded_allowed`. -/
def Command.degradedAllowed : Command → Bool
  | serverFaultReset | busFaultReset | busReconnect | authorityRequest | authorityRelease => true
  | _ => false

/-- `validate_command` without a runtime. A reconnect is a recovery of some failures only. -/
def validateDegraded (w : World n F) (recoverable : Bool) (client : ℕ) (command : Command)
    (message : Message F) : Except PyExc Unit :=
  if command.advancedOnly ∧ !w.advancedMode then
    .error (.motionServer (.unsupportedOperation (commandName message) "advanced_only"))
  else if command.degradedAllowed = false then .error (.motionServer .serverNotReady)
  else if command = .busReconnect ∧ recoverable = false then
    .error (.motionServer (.invalidState (commandName message) "initialization"))
  else if !command.isAuthority ∧ ¬ w.HasAuthority client then
    .error (.motionServer (match w.commandAuthorityOwner with
      | none => .authorityRequired
      | some owner => .authorityBusy owner))
  else .ok ()

/-- `reconnect_failed_initialization`: `recovery` makes a new state, which is given the owner of the
authority. -/
def reconnectFailedInitialization (recovery : ℕ → Except PyExc (World n F)) :
    Prog PyExc (ServerLoop n F) Unit := do
  match ← onWorld (access recovery) with
  | .error e => throw e
  | .ok world => Prog.modify fun l => { l with
      nextClientId := none
      world := { world with commandAuthorityOwner := l.owner } }

/-- The handlers of the degraded loop. -/
def degradedHandler (recovery : ℕ → Except PyExc (World n F)) (client : ℕ) :
    Command → Prog PyExc (ServerLoop n F) Unit
  | .authorityRequest => onWorld (acquireAuthority client)
  | .authorityRelease => onWorld (releaseAuthority client)
  | .busReconnect => reconnectFailedInitialization recovery
  | _ => pure ()

/-- A request of the degraded loop. -/
def degradedRequest (recovery : ℕ → Except PyExc (World n F)) (recoverable : Bool) (client : ℕ)
    (message : Message F) : Prog PyExc (ServerLoop n F) Unit :=
  tryCatch (do
      match commandOf (commandName message) with
      | none => throw (.motionServer (.unknownCommand (commandName message)))
      | some command =>
        let l ← Prog.get
        Prog.lift (validateDegraded l.world recoverable client command message)
        degradedHandler recovery client command)
    fun _ => pure ()

/-! ## Runs -/

/-- What happens to a loop. Several clients that are dropped in one pass are dropped in turn. -/
inductive LoopEvent (F : Type)
  | accept
  | request (client : ℕ) (message : Message F)
  | drop (client : ℕ)
  | cycle

variable [PyFloat F]

/-- A request of a client that is connected. -/
def serveRequest (env : Env n F) (recovery : ℕ → Except PyExc (World n F)) (recoverable : Bool)
    (client : ℕ) (message : Message F) : Prog PyExc (ServerLoop n F) Unit := do
  let l ← Prog.get
  Prog.onlyIf (client ∈ l.clients) <|
    match l.nextClientId with
    | none => onWorld (step env (.request client message))
    | some _ => degradedRequest recovery recoverable client message

/-- `close_client` and the removal of a client that is connected. -/
def dropClient (env : Env n F) (client : ℕ) : Prog PyExc (ServerLoop n F) Unit := do
  let l ← Prog.get
  Prog.onlyIf (client ∈ l.clients) do
    onWorld (step env (.disconnect client))
    Prog.modify fun l => { l with clients := l.clients.erase client }

/-- A cycle: the degraded loop has none. -/
def loopCycle (env : Env n F) : Prog PyExc (ServerLoop n F) Unit := do
  let l ← Prog.get
  Prog.onlyIf (l.nextClientId = none) (onWorld (step env .cycle))

/-- One event. -/
def loopStep (env : Env n F) (recovery : ℕ → Except PyExc (World n F)) (recoverable : Bool) :
    LoopEvent F → Prog PyExc (ServerLoop n F) Unit
  | .accept => Prog.modify ServerLoop.accept
  | .request client message => serveRequest env recovery recoverable client message
  | .drop client => dropClient env client
  | .cycle => loopCycle env

/-- A run of a loop: events until one of them ends the server. -/
def serve (env : Env n F) (recovery : ℕ → Except PyExc (World n F)) (recoverable : Bool)
    (events : List (LoopEvent F)) : Prog PyExc (ServerLoop n F) Unit :=
  events.forM (loopStep env recovery recoverable)

end MotionServer
