import Mathlib.Data.Int.Notation
import Mathlib.Data.Nat.Notation
import Mathlib.Tactic.Common

/-!
# Exceptions

The exception classes the program raises, catches by class, or lets through. The texts of Python's
own exceptions are not kept: the program only tests their class.
-/

namespace MotionServer

/-- `MotionServerException` and its subclasses, with the values their texts are built from.
`resourceMissing` is `ResourceNotFoundException` with an identifier that is a text. -/
inductive MotionServerException
  | invalidRequest (reason : String)
  | invalidArgument (field reason : String)
  | invalidState (operation state : String)
  | unknownCommand (command : String)
  | unsupportedOperation (operation feature : String)
  | resourceNotFound (resource : String) (identifier : ℤ)
  | resourceMissing (resource identifier : String)
  | permissionDenied (operation : String)
  | authorityRequired
  | authorityBusy (owner : ℕ)
  | serverNotReady
  | communication (operation : String)
  | deviceAccess (operation : String)
  | operation (operation : String)
  deriving DecidableEq, Repr

/-- A raised Python exception, by class. -/
inductive PyExc
  | valueError
  | unicodeDecodeError
  | jsonDecodeError
  | typeError
  | attributeError
  | keyError
  | indexError
  | overflowError
  | structError
  | runtimeError
  | recursionError
  | osError
  | connectionError
  | motionServer (e : MotionServerException)
  deriving DecidableEq, Repr

namespace PyExc

/-- `except ValueError`: the decoding errors are subclasses of `ValueError`. -/
def isValueError : PyExc → Bool
  | valueError | unicodeDecodeError | jsonDecodeError => true
  | _ => false

/-- `except (TypeError, ValueError)`. -/
def isTypeOrValueError (e : PyExc) : Bool := e == typeError || e.isValueError

/-- `except OSError`: `ConnectionError` is a subclass of `OSError`. -/
def isOSError : PyExc → Bool
  | osError | connectionError => true
  | _ => false

/-- `except MotionServerException`. -/
def isMotionServer : PyExc → Bool
  | motionServer _ => true
  | _ => false

/-- `except CommunicationException`. -/
def isCommunication : PyExc → Bool
  | motionServer (.communication _) => true
  | _ => false

end PyExc

end MotionServer
