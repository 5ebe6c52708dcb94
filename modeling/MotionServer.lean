import MotionServer.Lib.Prog
import MotionServer.Diagnostic.Calls
import MotionServer.Runs.RuntimeState
import MotionServer.Runs.TrajectoryStatus
import MotionServer.Runs.Authority
import MotionServer.Runs.Enabling
import MotionServer.Runs.Transport
import MotionServer.Runs.FaultGate
import MotionServer.Runs.Halt
import MotionServer.Python.ExtRat
import MotionServer.Control.PointMovePlayback
import MotionServer.Control.SegmentPeaks
import MotionServer.Control.UnitConsistency
import MotionServer.Control.FeedForward
import MotionServer.Runs.IoAccess
import MotionServer.Runs.ParameterCache
import MotionServer.App.ClientTransport
import MotionServer.Device.IoddDecoding
import MotionServer.Device.VirtualOdBridge
import MotionServer.Device.ServoHoming
import MotionServer.Device.CpxConfig
import MotionServer.Clients.RequestTermination
import MotionServer.Clients.SocketIsolation
import MotionServer.Runs.MovePairing
import MotionServer.Runs.MoveAtomicity
import MotionServer.Runs.LimitReconciliation
import MotionServer.Handlers.ParameterKeys
import MotionServer.Device.OdValueCodec
import MotionServer.Ethercat.DistributedClock
import MotionServer.Device.IoIdentity
import MotionServer.Runs.BusDetection
import MotionServer.Control.TrapezoidMove
import MotionServer.Control.QuinticMove
import MotionServer.Control.Retargeting
import MotionServer.Device.ServoMove
import MotionServer.Lib.Hex
import MotionServer.Python.HexText
import MotionServer.Handlers.ParameterPayload
import MotionServer.Handlers.PayloadRoundTrip
import MotionServer.Handlers.IoOutputWrite
import MotionServer.Runs.OutputAccounting
import MotionServer.Lib.Lockstep
import MotionServer.Ethercat.MasterParity
import MotionServer.Runs.SetpointHandshake
import MotionServer.Runs.HomingCompletion
import MotionServer.Runs.GatewayCalls
