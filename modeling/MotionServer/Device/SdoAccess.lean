import MotionServer.Device.PdoCodec
import MotionServer.Lib.Prog

/-!
# Typed access to the objects of a drive

* `SdoTransport`: the raw accesses of a master to a drive in a state `D`;
* `TypedSdoAccess`: the accesses by type, which pack and unpack the payload;
* `TypedSdoAccess.writeUint32`, `TypedSdoAccess.readUint32`, …: the types that the limits of an
  axis have.
-/

namespace MotionServer

/-- The raw accesses of a master. What a drive makes of them is not part of the program. -/
structure SdoTransport (D : Type) where
  writeSdo (index subindex : ℕ) (payload : List Byte) : Prog PyExc D Unit
  readSdo (index subindex size : ℕ) : Prog PyExc D (List Byte)

/-- `SdoAccess`, bound to the slave of an axis. -/
structure TypedSdoAccess (F D : Type) [PyFloat F] where
  codec : Float32Codec F
  transport : SdoTransport D

namespace TypedSdoAccess

variable {F D : Type} [PyFloat F] (sdo : TypedSdoAccess F D) (index subindex : ℕ)

/-- `_write`: the value is packed before the transport is called. -/
def write (format : StructFormat) (value : OdValue F) : Prog PyExc D Unit := do
  let payload ← Prog.lift (structPack sdo.codec format value)
  sdo.transport.writeSdo index subindex payload

/-- `_read`. -/
def read (format : StructFormat) : Prog PyExc D (OdValue F) := do
  let payload ← sdo.transport.readSdo index subindex format.size
  Prog.raiseIf (payload.length < format.size)
    (.motionServer (.deviceAccess "sdo_read_short_payload"))
  Prog.lift (structUnpack sdo.codec format (payload.take format.size))

/-- `write_int32`. -/
def writeInt32 (value : ℤ) : Prog PyExc D Unit :=
  sdo.write index subindex (.integer true 4) (.int value)

/-- `write_uint32`. -/
def writeUint32 (value : ℤ) : Prog PyExc D Unit :=
  sdo.write index subindex (.integer false 4) (.int value)

/-- `write_float32`. -/
def writeFloat32 (value : F) : Prog PyExc D Unit := sdo.write index subindex .float (.float value)

/-- `read_int32`. -/
def readInt32 : Prog PyExc D ℤ := do
  let value ← sdo.read index subindex (.integer true 4)
  Prog.lift value.toInt

/-- `read_uint32`. -/
def readUint32 : Prog PyExc D ℤ := do
  let value ← sdo.read index subindex (.integer false 4)
  Prog.lift value.toInt

/-- `read_float32`. -/
def readFloat32 : Prog PyExc D F := do
  let value ← sdo.read index subindex .float
  Prog.lift value.toFloat

end TypedSdoAccess

end MotionServer
