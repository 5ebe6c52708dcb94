import Mathlib.Data.Int.Bitwise
import MotionServer.Python.Exception

/-!
# Drives

The process data of a drive and its profile.

* `MotionMode`, `MotionMode.code`: the motion modes and their codes;
* `RxField`, `PdoConfiguration`, `RxPDO`: what the server sends to a drive, field by field;
* `TxPDO`: what a drive sends back, as it was decoded from the wire;
* `encodeRxpdo`: the fields that the configuration maps are packed into their wire types.
-/

namespace MotionServer

/-- A motion mode of an axis. Requests may ask for any but `homing`. -/
inductive MotionMode
  | pp
  | pv
  | jog
  | csp
  | homing
  deriving DecidableEq, Repr

namespace MotionMode

/-- `mode_code`. -/
def code : MotionMode → ℤ
  | pp => 1
  | pv => 3
  | jog => -3
  | csp => 8
  | homing => 6

/-- The keys of `MOTION_MODES`. -/
def ofName : String → Option MotionMode
  | "pp" => some pp
  | "pv" => some pv
  | "jog" => some jog
  | "csp" => some csp
  | _ => none

/-- `mode in MOTION_MODES`. -/
def isMotionMode (mode : MotionMode) : Bool := mode ≠ homing

theorem code_injective : Function.Injective code := by
  intro a b h
  cases a <;> cases b <;> first | rfl | exact absurd h (by decide)

theorem code_eq_csp {mode : MotionMode} : mode.code = 8 ↔ mode = csp :=
  ⟨fun h => code_injective h, fun h => h ▸ rfl⟩

end MotionMode

/-! ## Receive process data -/

/-- The integer types of the object dictionary that the process data uses. -/
inductive OdDataType
  | int8
  | int16
  | uint16
  | int32
  | uint32
  deriving DecidableEq

/-- Whether `struct.pack` takes the value. -/
def OdDataType.holds : OdDataType → ℤ → Bool
  | int8, value => -2 ^ 7 ≤ value && value < 2 ^ 7
  | int16, value => -2 ^ 15 ≤ value && value < 2 ^ 15
  | uint16, value => 0 ≤ value && value < 2 ^ 16
  | int32, value => -2 ^ 31 ≤ value && value < 2 ^ 31
  | uint32, value => 0 ≤ value && value < 2 ^ 32

/-- The fields of the receive process data. -/
inductive RxField
  | controlword
  | modeOfOperation
  | targetPosition
  | profileVelocity
  | targetVelocity
  | targetTorque
  | velocityOffset
  | torqueOffset
  deriving DecidableEq

def RxField.dataType : RxField → OdDataType
  | controlword => .uint16
  | modeOfOperation => .int8
  | targetPosition | targetVelocity | velocityOffset => .int32
  | profileVelocity => .uint32
  | targetTorque | torqueOffset => .int16

/-- `CMMT_PDO_CONFIGURATIONS`. -/
inductive PdoConfiguration
  | motionServerDefault
  | profilePositionBasic
  | cspBasic
  deriving DecidableEq

/-- `rxpdo_items`. -/
def PdoConfiguration.rxFields : PdoConfiguration → List RxField
  | motionServerDefault =>
    [.controlword, .modeOfOperation, .targetPosition, .profileVelocity, .targetVelocity,
      .targetTorque, .velocityOffset, .torqueOffset]
  | profilePositionBasic => [.controlword, .modeOfOperation, .targetPosition, .profileVelocity]
  | cspBasic => [.controlword, .modeOfOperation, .targetPosition, .velocityOffset]

/-- The receive process data of an axis: Python integers, of any size until they are packed. -/
structure RxPDO where
  configuration : PdoConfiguration
  controlword : ℤ
  modeOfOperation : ℤ
  targetPosition : ℤ
  profileVelocity : ℤ
  targetVelocity : ℤ
  targetTorque : ℤ
  velocityOffset : ℤ
  torqueOffset : ℤ
  deriving DecidableEq

namespace RxPDO

/-- `reset_values`. -/
def init (configuration : PdoConfiguration) : RxPDO where
  configuration := configuration
  controlword := 0
  modeOfOperation := 8
  targetPosition := 0
  profileVelocity := 0
  targetVelocity := 0
  targetTorque := 0
  velocityOffset := 0
  torqueOffset := 0

/-- `getattr`. -/
def field (rx : RxPDO) : RxField → ℤ
  | .controlword => rx.controlword
  | .modeOfOperation => rx.modeOfOperation
  | .targetPosition => rx.targetPosition
  | .profileVelocity => rx.profileVelocity
  | .targetVelocity => rx.targetVelocity
  | .targetTorque => rx.targetTorque
  | .velocityOffset => rx.velocityOffset
  | .torqueOffset => rx.torqueOffset

/-- `has_field`. -/
def hasField (rx : RxPDO) (f : RxField) : Bool := rx.configuration.rxFields.contains f

/-- Every mapped field holds a value of its wire type. -/
def Encodable (rx : RxPDO) : Prop :=
  ∀ f ∈ rx.configuration.rxFields, f.dataType.holds (rx.field f) = true

instance (rx : RxPDO) : Decidable rx.Encodable := inferInstanceAs (Decidable (∀ _ ∈ _, _))

/-- `encode_rxpdo`: whether it packs the fields or raises. -/
def encode (rx : RxPDO) : Except PyExc Unit :=
  if rx.Encodable then .ok () else .error .structError

/-- `controlword |= bit`. -/
def setBit (rx : RxPDO) (bit : ℕ) : RxPDO :=
  { rx with controlword := Int.lor rx.controlword (2 ^ bit) }

/-- `controlword &= ~bit`. -/
def clearBit (rx : RxPDO) (bit : ℕ) : RxPDO :=
  { rx with controlword := Int.ldiff rx.controlword (2 ^ bit) }

end RxPDO

/-- `MODE_RXPDO_FIELDS` after `COMMON_RXPDO_FIELDS`. -/
def modeRxFields : MotionMode → List RxField
  | .pp => [.controlword, .modeOfOperation, .targetPosition, .profileVelocity]
  | .pv => [.controlword, .modeOfOperation, .targetVelocity]
  | .csp => [.controlword, .modeOfOperation, .targetPosition]
  | .homing | .jog => [.controlword, .modeOfOperation]

/-! ## Transmit process data -/

/-- The transmit process data of an axis. -/
structure TxPDO where
  statusword : BitVec 16
  actualPosition : BitVec 32
  deriving DecidableEq

namespace TxPDO

/-- `reset_values`. -/
def init : TxPDO where
  statusword := 0x0040
  actualPosition := 0

variable (tx : TxPDO)

/-- `statusword & 0x0008`. -/
def faulted : Bool := tx.statusword.getLsbD 3

/-- `statusword & 0x0004`. -/
def operationEnabled : Bool := tx.statusword.getLsbD 2

/-- `PP_SETPOINT_ACK_MASK`. -/
def setpointAck : Bool := tx.statusword.getLsbD 12

/-- `HOMING_ERROR_MASK`. -/
def homingError : Bool := tx.statusword.getLsbD 13

/-- `HOMING_REFERENCED_MASK`. -/
def referenced : Bool := tx.statusword.getLsbD 15

end TxPDO

/-- `HALT_BIT`. -/
def haltBit : ℕ := 8

/-- `HOMING_START_BIT`. -/
def homingStartBit : ℕ := 4

end MotionServer
