import MotionServer.Python.Value

/-!
# Texts and integers of a request

* `Value.pyStr`: `str(value)`, with the texts of floats, lists and objects left open;
* `PyInt`: an integer of a request, where `True` and `False` are integers too;
* `isDigitText`, `hexText`: `s.isdigit()` and the format `{:0wX}`.
-/

namespace MotionServer

variable {F : Type}

/-! ## Texts -/

/-- `str(value)`. `repr` gives the texts of floats, lists and objects. -/
def Value.pyStr (repr : Value F → String) : Value F → String
  | .null => "None"
  | .bool true => "True"
  | .bool false => "False"
  | .int i => toString i
  | .str s => s
  | value => repr value

/-- `c.isdecimal()`: the digits that `int` reads. -/
def isDecimalChar (c : Char) : Bool := decimalZeros.any fun z => z ≤ c.toNat && c.toNat < z + 10

/-- The digits of Unicode that are no decimal digits: superscripts, circled digits and the like. -/
def otherDigits : List (ℕ × ℕ) :=
  [(0xB2, 0xB3), (0xB9, 0xB9), (0x1369, 0x1371), (0x19DA, 0x19DA), (0x2070, 0x2070),
    (0x2074, 0x2079), (0x2080, 0x2089), (0x2460, 0x2468), (0x2474, 0x247C), (0x2488, 0x2490),
    (0x24EA, 0x24EA), (0x24F5, 0x24FD), (0x24FF, 0x24FF), (0x2776, 0x277E), (0x2780, 0x2788),
    (0x278A, 0x2792), (0x10A40, 0x10A43), (0x10E60, 0x10E68), (0x11052, 0x1105A),
    (0x1F100, 0x1F10A)]

/-- `c.isdigit()`. -/
def isDigitChar (c : Char) : Bool :=
  isDecimalChar c || otherDigits.any fun range => range.1 ≤ c.toNat && c.toNat ≤ range.2

/-- `s.isdigit()`. -/
def isDigitText (s : String) : Bool := s ≠ "" && s.toList.all isDigitChar

/-- The format `{:0wX}` of a number that is not negative. -/
def hexText (width number : ℕ) : String :=
  String.ofList (((Nat.toDigits 16 number).map Char.toUpper).leftpad width '0')

/-! ## Integers -/

/-- An instance of `int`: `bool` is a subclass. -/
inductive PyInt
  | int (i : ℤ)
  | bool (b : Bool)
  deriving DecidableEq

namespace PyInt

/-- The number. -/
def val : PyInt → ℤ
  | int i => i
  | bool b => b.toNat

/-- `isinstance(value, bool)`. -/
def isBool : PyInt → Bool
  | int _ => false
  | bool _ => true

/-- The integer as a value of a request. -/
def toValue : PyInt → Value F
  | int i => .int i
  | bool b => .bool b

end PyInt

/-- `value is None`. -/
def Value.isNull : Value F → Bool
  | .null => true
  | _ => false

/-- `isinstance(value, int)`. -/
def Value.asInt? : Value F → Option PyInt
  | .int i => some (.int i)
  | .bool b => some (.bool b)
  | _ => none

/-- `parse_int`, which hands an integer through as it is. -/
def Value.parsePyInt (repr : Value F → String) (value : Value F) : Except PyExc PyInt :=
  match value.asInt? with
  | some i => .ok i
  | none => match parseIntLiteral true (value.pyStr repr) with
    | some i => .ok (.int i)
    | none => .error .valueError

end MotionServer
