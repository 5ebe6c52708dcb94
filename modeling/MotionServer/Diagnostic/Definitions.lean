import MotionServer.Diagnostic.Manager

/-!
# The diagnostics of the server

* `serverSource`, `busSource`, `axisSource`;
* the definitions: all but the drive warning are faults that latch.
-/

namespace MotionServer

/-- `SERVER_SOURCE`. -/
def serverSource : DiagnosticSource := ⟨.server, 0, fun _ => rfl⟩

/-- `BUS_SOURCE`. -/
def busSource : DiagnosticSource := ⟨.bus, 0, fun _ => rfl⟩

def axisSource (axisIndex : ℕ) : DiagnosticSource := ⟨.axis, axisIndex, by simp⟩

def serverInitializationFailed : DiagnosticDefinition where
  code := "SERVER_INITIALIZATION_FAILED"
  level := .fault
  title := "Motion Server initialization failed"
  description := "A required startup operation failed and Motion Server entered degraded mode."
  latching := true
  code_ne := by decide
  level_ne := by decide

def busProcessDataIncomplete : DiagnosticDefinition where
  code := "BUS_PROCESS_DATA_INCOMPLETE"
  level := .fault
  title := "EtherCAT process data is incomplete"
  description := "The EtherCAT working counter remained below its expected value."
  latching := true
  code_ne := by decide
  level_ne := by decide

def busConnectionLost : DiagnosticDefinition where
  code := "BUS_CONNECTION_LOST"
  level := .fault
  title := "EtherCAT connection lost"
  description := "Cyclic EtherCAT transport communication was interrupted."
  latching := true
  code_ne := by decide
  level_ne := by decide

def busReconnectFailed : DiagnosticDefinition where
  code := "BUS_RECONNECT_FAILED"
  level := .fault
  title := "EtherCAT reconnect failed"
  description := "The EtherCAT transport could not complete reconnection."
  latching := true
  code_ne := by decide
  level_ne := by decide

def axisDriveFault : DiagnosticDefinition where
  code := "AXIS_DRIVE_FAULT"
  level := .fault
  title := "Axis drive fault"
  description := "The axis statusword reports the CiA 402 fault bit."
  latching := true
  code_ne := by decide
  level_ne := by decide

def axisRestartFailed : DiagnosticDefinition where
  code := "AXIS_RESTART_FAILED"
  level := .fault
  title := "Axis restart failed"
  description := "The Axis device did not complete restart and process image recovery."
  latching := true
  code_ne := by decide
  level_ne := by decide

def parameterRefreshFailed : DiagnosticDefinition where
  code := "PARAMETER_REFRESH_FAILED"
  level := .fault
  title := "Runtime parameter refresh failed"
  description :=
    "Motion Server could not refresh required runtime parameter cache values from the device."
  latching := true
  code_ne := by decide
  level_ne := by decide

def axisDriveWarning : DiagnosticDefinition where
  code := "AXIS_DRIVE_WARNING"
  level := .alarm
  title := "Axis drive warning"
  description := "The axis statusword reports the CiA 402 warning bit."
  latching := false
  code_ne := by decide
  level_ne := by decide

end MotionServer
