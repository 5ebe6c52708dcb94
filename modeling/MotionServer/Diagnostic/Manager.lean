import MotionServer.Lib.Dict
import MotionServer.Lib.Prog
import MotionServer.Python.Value

/-!
# The diagnostic manager

A status is one object that both tables of the manager refer to: `byKey` by its code and source,
`byId` by its id. Statuses are kept in a heap, the tables hold references into it.

* `DiagnosticDefinition`, `DiagnosticSource`: definitions and sources that can be built;
* `DiagnosticStatus`, `DiagnosticStatus.clearedAt`;
* **`DiagnosticManager`**, with `detect`, `acknowledge`, `acknowledgeFaults` and `resolve`;
* `hasActiveFault`: what the gates ask.
-/

namespace MotionServer

/-! ## Statuses -/

inductive DiagnosticLevel
  | normal
  | alarm
  | fault
  deriving DecidableEq

inductive DiagnosticSourceType
  | server
  | bus
  | axis
  | io
  deriving DecidableEq

/-- A definition: it has a code and is no `NORMAL`. -/
structure DiagnosticDefinition where
  code : String
  level : DiagnosticLevel
  title : String
  description : String
  latching : Bool
  code_ne : pyStrip code ≠ ""
  level_ne : level ≠ .normal
  deriving DecidableEq

/-- A source: the server and the bus have the index zero. -/
structure DiagnosticSource where
  type : DiagnosticSourceType
  index : ℕ
  index_eq : type = .server ∨ type = .bus → index = 0
  deriving DecidableEq

/-- `DiagnosticHistory`, with times in `T`. -/
structure DiagnosticHistory (T : Type) where
  occurredAt : T
  acknowledgedAt : Option T
  resolvedAt : Option T

structure DiagnosticStatus (T : Type) where
  diagnosticId : String
  definition : DiagnosticDefinition
  source : DiagnosticSource
  history : DiagnosticHistory T
  detail : Option String

/-- What `_key` makes of a code and a source. -/
abbrev DiagnosticKey : Type := String × DiagnosticSourceType × ℕ

/-- `_key`. -/
def diagnosticKey (code : String) (source : DiagnosticSource) : DiagnosticKey :=
  (code, source.type, source.index)

namespace DiagnosticStatus

variable {T : Type}

/-- The key a status is stored under. -/
def key (status : DiagnosticStatus T) : DiagnosticKey :=
  diagnosticKey status.definition.code status.source

/-- `cleared_at`. -/
def clearedAt [LT T] [DecidableLT T] (status : DiagnosticStatus T) : Option T :=
  match status.history.resolvedAt with
  | none => none
  | some resolvedAt =>
    if status.definition.latching = false then some resolvedAt
    else status.history.acknowledgedAt.map fun acknowledgedAt =>
      if resolvedAt < acknowledgedAt then acknowledgedAt else resolvedAt

def setAcknowledged (status : DiagnosticStatus T) (at' : T) : DiagnosticStatus T :=
  { status with history := { status.history with acknowledgedAt := some at' } }

def setResolved (status : DiagnosticStatus T) (at' : Option T) : DiagnosticStatus T :=
  { status with history := { status.history with resolvedAt := at' } }

@[simp] theorem setAcknowledged_key (status : DiagnosticStatus T) (at' : T) :
    (status.setAcknowledged at').key = status.key := rfl

@[simp] theorem setResolved_key (status : DiagnosticStatus T) (at' : Option T) :
    (status.setResolved at').key = status.key := rfl

/-- A status is cleared when it is resolved and, if it latches, acknowledged. -/
theorem clearedAt_eq_none_iff [LT T] [DecidableLT T] {status : DiagnosticStatus T} :
    status.clearedAt = none ↔ status.history.resolvedAt = none ∨
      status.definition.latching = true ∧ status.history.acknowledgedAt = none := by
  unfold clearedAt
  cases status.history.resolvedAt with
  | none => simp
  | some resolvedAt =>
    cases status.definition.latching with
    | false => simp
    | true => simp

end DiagnosticStatus

/-! ## The manager -/

/-- `DiagnosticManager`. The heap holds every status that was ever stored. -/
structure DiagnosticManager (T : Type) where
  heap : List (DiagnosticStatus T)
  byKey : Dict DiagnosticKey ℕ
  byId : Dict String ℕ
  usedIds : List String

namespace DiagnosticManager

variable {T : Type}

/-- `__init__`. -/
def init : DiagnosticManager T where
  heap := []
  byKey := .empty
  byId := .empty
  usedIds := []

/-- `active_statuses`, as references. -/
def activeRefs (m : DiagnosticManager T) : List ℕ := m.byKey.values

/-- `active_statuses`. -/
def activeStatuses (m : DiagnosticManager T) : List (DiagnosticStatus T) :=
  m.activeRefs.filterMap fun r => m.heap[r]?

/-- A selection of faults: of one source, of one type of source, or all of them. -/
inductive FaultSelection
  | all
  | source (chosen : DiagnosticSource)
  | sourceType (type : DiagnosticSourceType)

/-- Whether a status is a fault of the selection. -/
def FaultSelection.Selects (selection : FaultSelection) (status : DiagnosticStatus T) : Prop :=
  status.definition.level = .fault ∧ match selection with
    | .all => True
    | .source chosen => status.source = chosen
    | .sourceType type => status.source.type = type

instance (selection : FaultSelection) (status : DiagnosticStatus T) :
    Decidable (selection.Selects status) := by
  unfold FaultSelection.Selects
  cases selection <;> infer_instance

/-- `has_active_fault`. -/
def hasActiveFault (m : DiagnosticManager T) (selection : FaultSelection) : Bool :=
  m.activeStatuses.any fun status => decide (selection.Selects status)

/-- `current_level`. -/
def currentLevel (m : DiagnosticManager T) : DiagnosticLevel :=
  if m.activeStatuses.any (·.definition.level = .fault) then .fault
  else if m.activeStatuses.any (·.definition.level = .alarm) then .alarm
  else .normal

/-- A reference to a status. No table holds another one. -/
def statusAt (r : ℕ) : Prog PyExc (DiagnosticManager T) (DiagnosticStatus T) := do
  let m ← Prog.get
  match m.heap[r]? with
  | some status => pure status
  | none => throw .keyError

def writeStatus (r : ℕ) (f : DiagnosticStatus T → DiagnosticStatus T) :
    Prog PyExc (DiagnosticManager T) Unit :=
  Prog.modify fun m => { m with heap := m.heap.modify r f }

/-- The part of `detect` that makes and stores a new status. `newId` is what the id factory gives,
`now` what the clock shows. -/
def create (definition : DiagnosticDefinition) (source : DiagnosticSource) (detail : Option String)
    (at? : Option T) (newId : Except PyExc String) (now : T) :
    Prog PyExc (DiagnosticManager T) ℕ := do
  let diagnosticId ← Prog.lift newId
  let m ← Prog.get
  if diagnosticId = "" ∨ diagnosticId ∈ m.usedIds then throw .valueError
  else
    Prog.modify fun m =>
      { heap := m.heap ++ [
          { diagnosticId := diagnosticId
            definition := definition
            source := source
            history := { occurredAt := at?.getD now, acknowledgedAt := none, resolvedAt := none }
            detail := detail }]
        byKey := m.byKey.set (diagnosticKey definition.code source) m.heap.length
        byId := m.byId.set diagnosticId m.heap.length
        usedIds := diagnosticId :: m.usedIds }
    pure m.heap.length

/-- `detect`. -/
def detect (definition : DiagnosticDefinition) (source : DiagnosticSource) (detail : Option String)
    (at? : Option T) (newId : Except PyExc String) (now : T) :
    Prog PyExc (DiagnosticManager T) ℕ := do
  let m ← Prog.get
  match m.byKey.get? (diagnosticKey definition.code source) with
  | some r =>
    let active ← statusAt r
    if active.definition ≠ definition then throw .valueError
    else
      writeStatus r (·.setResolved none)
      pure r
  | none => create definition source detail at? newId now

variable [LT T] [DecidableLT T]

/-- `_clear_if_ready`. -/
def clearIfReady (r : ℕ) : Prog PyExc (DiagnosticManager T) ℕ := do
  let status ← statusAt r
  if status.clearedAt = none then pure r
  else
    Prog.modify fun m => { m with
      byKey := m.byKey.erase status.key
      byId := m.byId.erase status.diagnosticId }
    pure r

/-- `acknowledge`. -/
def acknowledge (diagnosticId : String) (at? : Option T) (now : T) :
    Prog PyExc (DiagnosticManager T) ℕ := do
  let m ← Prog.get
  match m.byId.get? diagnosticId with
  | none => throw .keyError
  | some r =>
    let status ← statusAt r
    Prog.onlyIf (status.history.acknowledgedAt = none)
      (writeStatus r (·.setAcknowledged (at?.getD now)))
    clearIfReady r

/-- The references of the statuses that `acknowledge_faults` selects. -/
def selectedRefs (m : DiagnosticManager T) (selection : FaultSelection) : List ℕ :=
  m.activeRefs.filter fun r => m.heap[r]?.any fun status => decide (selection.Selects status)

/-- The acknowledgement of one selected status. -/
def acknowledgeRef (at? : Option T) (now : T) (r : ℕ) :
    Prog PyExc (DiagnosticManager T) Unit := do
  let status ← statusAt r
  let _ ← acknowledge status.diagnosticId at? now
  pure ()

/-- `acknowledge_faults`: all faults, or those of one source or of one type of source. -/
def acknowledgeFaults (source : Option DiagnosticSource) (sourceType : Option DiagnosticSourceType)
    (at? : Option T) (now : T) : Prog PyExc (DiagnosticManager T) (List ℕ) := do
  let m ← Prog.get
  match source, sourceType with
  | some _, some _ => throw .valueError
  | _, _ =>
    let selection : FaultSelection := match source, sourceType with
      | some source, _ => .source source
      | none, some type => .sourceType type
      | none, none => .all
    (m.selectedRefs selection).forM (acknowledgeRef at? now)
    pure (m.selectedRefs selection)

/-- `resolve`. -/
def resolve (code : String) (source : DiagnosticSource) (at? : Option T) (now : T) :
    Prog PyExc (DiagnosticManager T) ℕ := do
  let m ← Prog.get
  match m.byKey.get? (diagnosticKey code source) with
  | none => throw .keyError
  | some r =>
    let status ← statusAt r
    Prog.onlyIf (status.history.resolvedAt = none)
      (writeStatus r (·.setResolved (some (at?.getD now))))
    clearIfReady r

end DiagnosticManager

end MotionServer
