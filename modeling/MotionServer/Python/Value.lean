import MotionServer.Python.Float

/-!
# Request values

A request is a JSON object. Its values are converted by Python's `int`, `float` and `str`.

* `Value`: what the JSON parser makes;
* `Value.toInt`, `Value.toFloat`, `Value.text`, `Value.iterate`: the built-in conversions with the
  exceptions they raise;
* `parseIntLiteral`, `parseFloatLiteral`: the numerals that `int(s, base)` and `float(s)` read.
-/

namespace MotionServer

/-- A JSON value. -/
inductive Value (F : Type)
  | null
  | bool (b : Bool)
  | int (i : ℤ)
  | float (x : F)
  | str (s : String)
  | list (items : List (Value F))
  | dict (entries : List (String × Value F))

/-- A JSON object: the keys are distinct, as the parser keeps the last of equal keys. -/
abbrev Message (F : Type) := List (String × Value F)

/-! ## Strings -/

/-- The characters that `str.strip` removes. -/
def isPySpace (c : Char) : Bool :=
  let n := c.toNat
  (0x09 ≤ n && n ≤ 0x0D) || (0x1C ≤ n && n ≤ 0x20) || n == 0x85 || n == 0xA0 || n == 0x1680 ||
    (0x2000 ≤ n && n ≤ 0x200A) || n == 0x2028 || n == 0x2029 || n == 0x202F || n == 0x205F ||
    n == 0x3000

/-- `s.strip()` on the characters of `s`. -/
def stripChars (l : List Char) : List Char :=
  ((l.dropWhile isPySpace).reverse.dropWhile isPySpace).reverse

/-- `s.strip()`. -/
def pyStrip (s : String) : String := String.ofList (stripChars s.toList)

/-- `s.lower()` of ASCII letters. No name the program compares a lowered text with has a letter that
another character is lowered to. -/
def pyLower (s : String) : String :=
  String.ofList (s.toList.map fun c => if 'A' ≤ c ∧ c ≤ 'Z' then Char.ofNat (c.toNat + 32) else c)

/-! ## Numerals -/

/-- The zeros of the decimal digits of Unicode, each followed by the other nine digits. -/
def decimalZeros : List ℕ :=
  [0x30, 0x660, 0x6F0, 0x7C0, 0x966, 0x9E6, 0xA66, 0xAE6, 0xB66, 0xBE6, 0xC66, 0xCE6, 0xD66, 0xDE6,
    0xE50, 0xED0, 0xF20, 0x1040, 0x1090, 0x17E0, 0x1810, 0x1946, 0x19D0, 0x1A80, 0x1A90, 0x1B50,
    0x1BB0, 0x1C40, 0x1C50, 0xA620, 0xA8D0, 0xA900, 0xA9D0, 0xA9F0, 0xAA50, 0xABF0, 0xFF10, 0x104A0,
    0x10D30, 0x11066, 0x110F0, 0x11136, 0x111D0, 0x112F0, 0x11450, 0x114D0, 0x11650, 0x116C0,
    0x11730, 0x118E0, 0x11950, 0x11C50, 0x11D50, 0x11DA0, 0x11F50, 0x16A60, 0x16AC0, 0x16B50,
    0x1D7CE, 0x1D7D8, 0x1D7E2, 0x1D7EC, 0x1D7F6, 0x1E140, 0x1E2F0, 0x1E4F0, 0x1E950, 0x1FBF0]

/-- The value of a digit or letter in the bases up to 36. -/
def digitValue (c : Char) : Option ℕ :=
  let n := c.toNat
  match decimalZeros.find? fun z => z ≤ n && n < z + 10 with
  | some z => some (n - z)
  | none =>
    if 'a' ≤ c ∧ c ≤ 'z' then some (n - 87) else if 'A' ≤ c ∧ c ≤ 'Z' then some (n - 55) else none

/-- Digits in the given base, with single underscores between them: their number and their value.
`afterDigit` tells whether an underscore may follow. -/
def parseDigits (base : ℕ) : (afterDigit : Bool) → (count value : ℕ) → List Char → Option (ℕ × ℕ)
  | afterDigit, count, value, [] => if afterDigit then some (count, value) else none
  | afterDigit, count, value, c :: rest =>
    if c = '_' then if afterDigit then parseDigits base false count value rest else none
    else match digitValue c with
      | some d => if d < base then parseDigits base true (count + 1) (value * base + d) rest else none
      | none => none

/-- `sys.int_info.default_max_str_digits`: `int(s)` refuses longer decimal numerals. -/
def maxStrDigits : ℕ := 4300

def parseDecimalDigits (l : List Char) : Option ℕ :=
  match parseDigits 10 false 0 0 l with
  | some (count, value) => if count ≤ maxStrDigits then some value else none
  | none => none

/-- The digits of `int(s, 0)`: with a base prefix, or decimal without leading zeros. -/
def parsePrefixedDigits : List Char → Option ℕ
  | '0' :: c :: rest =>
    let digits (base : ℕ) : Option ℕ :=
      (parseDigits base false 0 0 (if rest.head? = some '_' then rest.tail else rest)).map (·.2)
    if c = 'x' ∨ c = 'X' then digits 16
    else if c = 'o' ∨ c = 'O' then digits 8
    else if c = 'b' ∨ c = 'B' then digits 2
    else (parseDecimalDigits ('0' :: c :: rest)).filter (· = 0)
  | l => parseDecimalDigits l

/-- An optional sign, then what `digits` reads. -/
def parseSigned (digits : List Char → Option ℕ) : List Char → Option ℤ
  | '-' :: rest => (digits rest).map fun value => -(value : ℤ)
  | '+' :: rest => (digits rest).map fun value => (value : ℤ)
  | l => (digits l).map fun value => (value : ℤ)

/-- `int(s)` and, with `anyBase`, `int(s, 0)`. -/
def parseIntLiteral (anyBase : Bool) (s : String) : Option ℤ :=
  parseSigned (if anyBase then parsePrefixedDigits else parseDecimalDigits) (stripChars s.toList)

/-- The integer part, fraction and exponent of a decimal numeral as a rational. -/
def parseDecimal (l : List Char) : Option ℚ :=
  let mantissa := l.takeWhile fun c => c ≠ 'e' ∧ c ≠ 'E'
  let exponent? : Option ℤ := match l.drop mantissa.length with
    | [] => some 0
    | _ :: rest => parseSigned (fun l => (parseDigits 10 false 0 0 l).map (·.2)) rest
  let whole := mantissa.takeWhile (· ≠ '.')
  let fraction := (mantissa.drop whole.length).tail
  let digits? (l : List Char) : Option (ℕ × ℕ) := if l = [] then some (0, 0) else parseDigits 10 false 0 0 l
  match exponent?, digits? whole, digits? fraction with
  | some exponent, some (n, i), some (k, f) =>
    if n + k = 0 then none
    else some (((i * 10 ^ k + f : ℕ) : ℚ) / 10 ^ k *
      (if exponent < 0 then 1 / 10 ^ exponent.natAbs else 10 ^ exponent.natAbs))
  | _, _, _ => none

/-- What `float(s)` reads after an optional sign. -/
def parseUnsignedFloat (negative : Bool) (l : List Char) : Option FloatLiteral :=
  let word := pyLower (String.ofList l)
  if word = "inf" ∨ word = "infinity" then some (.infinity negative)
  else if word = "nan" then some .nan
  else (parseDecimal l).map fun q => .rational (if negative then -q else q)

/-- `float(s)`. -/
def parseFloatLiteral (s : String) : Option FloatLiteral :=
  match stripChars s.toList with
  | '-' :: rest => parseUnsignedFloat true rest
  | '+' :: rest => parseUnsignedFloat false rest
  | l => parseUnsignedFloat false l

/-! ## Conversions -/

namespace Value

variable {F : Type} [PyFloat F]

/-- `int(value)`. -/
def toInt : Value F → Except PyExc ℤ
  | bool b => .ok b.toNat
  | int i => .ok i
  | float x => PyFloat.truncInt x
  | str s => match parseIntLiteral false s with
    | some i => .ok i
    | none => .error .valueError
  | _ => .error .typeError

/-- `float(value)`. -/
def toFloat : Value F → Except PyExc F
  | bool b => .ok (PyFloat.ofInt b.toNat)
  | int i => floatOfInt i
  | float x => .ok x
  | str s => match parseFloatLiteral s with
    | some l => .ok (PyFloat.ofLiteral l)
    | none => .error .valueError
  | _ => .error .typeError

omit [PyFloat F] in
/-- `str(value)`. Of a float, list or object only that it is no blank, no name and no integer
matters: its text is kept as an example of its kind. -/
def text : Value F → String
  | null => "None"
  | bool true => "True"
  | bool false => "False"
  | int i => toString i
  | float _ => "0.0"
  | str s => s
  | list _ => "[]"
  | dict _ => "\x7b\x7d"

omit [PyFloat F] in
/-- `for item in value`. -/
def iterate : Value F → Except PyExc (List (Value F))
  | list items => .ok items
  | str s => .ok (s.toList.map fun c => str (String.ofList [c]))
  | dict entries => .ok (entries.map fun entry => str entry.1)
  | _ => .error .typeError

/-- `bool(value)`. -/
def truthy : Value F → Bool
  | null => false
  | bool b => b
  | int i => i ≠ 0
  | float x => !pyEq x 0.0
  | str s => s ≠ ""
  | list items => !items.isEmpty
  | dict entries => !entries.isEmpty

end Value

namespace Message

variable {F : Type}

/-- `message.get(key)`, or no entry. -/
def get? (message : Message F) (key : String) : Option (Value F) :=
  (message.find? fun entry => entry.1 == key).map (·.2)

/-- `key in message`. -/
def has (message : Message F) (key : String) : Bool := (message.get? key).isSome

/-- `message.get(key, default)`. -/
def getD (message : Message F) (key : String) (default : Value F) : Value F :=
  (message.get? key).getD default

/-- `message[key] = value` on a copy. The order of the keys is not kept. -/
def set (message : Message F) (key : String) (value : Value F) : Message F :=
  (key, value) :: message.filter fun entry => entry.1 ≠ key

@[simp] theorem get?_set_self (message : Message F) (key : String) (value : Value F) :
    (message.set key value).get? key = some value := by
  simp [get?, set]

theorem get?_set_of_ne (message : Message F) {key other : String} (value : Value F)
    (h : other ≠ key) : (message.set key value).get? other = message.get? other := by
  rw [get?, get?, set, List.find?_cons_of_neg (by simpa using h.symm), List.find?_filter]
  congr 2
  funext entry
  by_cases he : entry.1 = other <;> simp [he, h]

end Message

end MotionServer
