import Orchestration.Number.Reading
import Orchestration.Error

/-!
Arithmetic on values.

Whole numbers have any size. A whole number meets a floating number as a floating number. Text and
lists can be joined, and repeated a whole number of times.
-/

namespace Orchestration.Value

def unsupported (symbol : String) (v w : Value) : Error :=
  .broken .type ("unsupported operand type(s) for " ++ symbol ++ ": '" ++ v.typeName ++ "' and '" ++
    w.typeName ++ "'")

def tooLarge : Error := .broken .overflow "int too large to convert to float"

/-- A number as a floating number, if it is not too large for one. -/
def Numeric.asFloat : Numeric → Except Error Float
  | .real x => .ok x
  | .whole n =>
    let x := Number.ofInt n
    if Number.isFinite x then .ok x else .error tooLarge

def onNumbers (symbol : String) (whole : Int → Int → Except Error Value)
    (real : Float → Float → Except Error Value) (v w : Value) : Except Error Value :=
  match numeric? v, numeric? w with
  | some (.whole m), some (.whole n) => whole m n
  | some a, some b => do
    let x ← a.asFloat
    let y ← b.asFloat
    real x y
  | _, _ => .error (unsupported symbol v w)

def cannotJoin (kind : String) (w : Value) : Error :=
  .broken .type ("can only concatenate " ++ kind ++ " (not \"" ++ w.typeName ++ "\") to " ++ kind)

def add (v w : Value) : Except Error Value :=
  match v, w with
  | .str s, .str t => .ok (.str (s ++ t))
  | .list xs, .list ys => .ok (.list (xs ++ ys))
  | .tuple xs, .tuple ys => .ok (.tuple (xs ++ ys))
  | .str _, _ => .error (cannotJoin "str" w)
  | .list _, _ => .error (cannotJoin "list" w)
  | .tuple _, _ => .error (cannotJoin "tuple" w)
  | _, _ => onNumbers "+" (fun m n => .ok (.int (m + n))) (fun x y => .ok (.float (x + y))) v w

def sub (v w : Value) : Except Error Value :=
  match v, w with
  | .set xs, .set ys => .ok (.set (xs.filter fun x => !ys.any (· == x)))
  | _, _ => onNumbers "-" (fun m n => .ok (.int (m - n))) (fun x y => .ok (.float (x - y))) v w

/-- The items repeated `n` times; never a negative number of times. -/
def repeatItems {α : Type} (items : List α) (n : Int) : List α :=
  (List.replicate n.toNat items).flatten

def repeatText (s : String) (n : Int) : String := String.ofList (repeatItems s.toList n)

def cannotRepeat (w : Value) : Error :=
  .broken .type ("can't multiply sequence by non-int of type '" ++ w.typeName ++ "'")

def repeat? (v w : Value) : Option (Except Error Value) :=
  let times (make : Int → Value) : Except Error Value :=
    match w.asInt? with
    | some n => .ok (make n)
    | none => .error (cannotRepeat w)
  match v with
  | .str s => some (times fun n => .str (repeatText s n))
  | .list items => some (times fun n => .list (repeatItems items n))
  | .tuple items => some (times fun n => .tuple (repeatItems items n))
  | _ => none

def mul (v w : Value) : Except Error Value :=
  match repeat? v w with
  | some answer => answer
  | none =>
    match repeat? w v with
    | some answer => answer
    | none => onNumbers "*" (fun m n => .ok (.int (m * n))) (fun x y => .ok (.float (x * y))) v w

def zeroDivision (text : String) : Error := .broken .zeroDivision text

def divide (v w : Value) : Except Error Value :=
  onNumbers "/"
    (fun m n =>
      if n == 0 then .error (zeroDivision "division by zero")
      else
        let x := Number.ofRatio (if n < 0 then -m else m) n.natAbs
        if m == 0 then .ok (.float (if n < 0 then -0.0 else 0.0))
        else if Number.isFinite x then .ok (.float x)
        else .error (.broken .overflow "integer division result too large for a float"))
    (fun x y => if y == 0.0 then .error (zeroDivision "float division by zero") else .ok (.float (x / y)))
    v w

def floorDivide (v w : Value) : Except Error Value :=
  onNumbers "//"
    (fun m n =>
      if n == 0 then .error (zeroDivision "integer division or modulo by zero") else .ok (.int (m.fdiv n)))
    (fun x y =>
      if y == 0.0 then .error (zeroDivision "float floor division by zero")
      else .ok (.float (Number.floorDivide x y).1))
    v w

def modulo (v w : Value) : Except Error Value :=
  onNumbers "%"
    (fun m n => if n == 0 then .error (zeroDivision "integer modulo by zero") else .ok (.int (m.fmod n)))
    (fun x y =>
      if y == 0.0 then .error (zeroDivision "float modulo") else .ok (.float (Number.floorDivide x y).2))
    v w

def powerFloat (x y : Float) : Except Error Value :=
  if x == 0.0 && y < 0.0 then .error (zeroDivision "0.0 cannot be raised to a negative power")
  else
    let z := Float.pow x y
    if Number.isFinite x && Number.isFinite y && !Number.isFinite z then
      if z == z then .error (.broken .overflow "(34, 'Numerical result out of range')")
      else .ok (.object "complex")
    else .ok (.float z)

def power (v w : Value) : Except Error Value :=
  onNumbers "** or pow()"
    (fun m n => if n ≥ 0 then .ok (.int (Int.pow m n.toNat)) else do
      let x ← (Numeric.whole m).asFloat
      let y ← (Numeric.whole n).asFloat
      powerFloat x y)
    powerFloat v w

def negate (v : Value) : Except Error Value :=
  match v with
  | .float x => .ok (.float (-x))
  | _ =>
    match v.asInt? with
    | some n => .ok (.int (-n))
    | none => .error (.broken .type ("bad operand type for unary -: '" ++ v.typeName ++ "'"))

def affirm (v : Value) : Except Error Value :=
  match v with
  | .float x => .ok (.float x)
  | _ =>
    match v.asInt? with
    | some n => .ok (.int n)
    | none => .error (.broken .type ("bad operand type for unary +: '" ++ v.typeName ++ "'"))

def absolute (v : Value) : Except Error Value :=
  match v with
  | .float x => .ok (.float x.abs)
  | _ =>
    match v.asInt? with
    | some n => .ok (.int n.natAbs)
    | none => .error (.broken .type ("bad operand type for abs(): '" ++ v.typeName ++ "'"))

/-- The whole number a value stands for: a number is cut, a text is read. -/
def toWhole (v : Value) : Except Error Int :=
  match v with
  | .int n => .ok n
  | .bool b => .ok (if b then 1 else 0)
  | .float x =>
    match Number.truncate? x with
    | some n => .ok n
    | none =>
      if x == x then .error (.broken .overflow "cannot convert float infinity to integer")
      else .error (.broken .value "cannot convert float NaN to integer")
  | .str s =>
    match Number.readWhole? s with
    | some n => .ok n
    | none => .error (.broken .value ("invalid literal for int() with base 10: " ++ v.shown))
  | _ => .error (.broken .type
      ("int() argument must be a string, a bytes-like object or a real number, not '" ++ v.typeName ++ "'"))

def toReal (v : Value) : Except Error Float :=
  match v with
  | .str s =>
    match Number.readFloat? s with
    | some x => .ok x
    | none => .error (.broken .value ("could not convert string to float: " ++ v.shown))
  | _ =>
    match numeric? v with
    | some a => a.asFloat
    | none => .error (.broken .type
        ("float() argument must be a string or a real number, not '" ++ v.typeName ++ "'"))

/-- A fraction rounded to the nearest whole number, a half to the even one. -/
def roundHalfEven (numerator : Int) (denominator : Nat) : Int :=
  let low := numerator.fdiv denominator
  let rest := 2 * (numerator - low * denominator)
  if rest < denominator then low
  else if rest > denominator then low + 1
  else if low % 2 == 0 then low else low + 1

/-- A finite number that is not zero, rounded to some places behind the point. -/
def roundFloat (x : Float) (numerator : Int) (denominator : Nat) (places : Int) :
    Except Error Value :=
  if places > 323 then .ok (.float x)
  else if places < -308 then .ok (.float (if x < 0.0 then -0.0 else 0.0))
  else
    let scaled := if places ≥ 0 then roundHalfEven (numerator * Int.pow 10 places.toNat) denominator
      else roundHalfEven numerator (denominator * Nat.pow 10 (-places).toNat)
    let back := if scaled == 0 then 0.0
      else if places ≥ 0 then Number.ofRatio scaled (Nat.pow 10 places.toNat)
      else Number.ofInt (scaled * Int.pow 10 (-places).toNat)
    if Number.isFinite back then .ok (.float (if back == 0.0 && x < 0.0 then -0.0 else back))
    else .error (.broken .overflow "rounded value too large to represent")

/-- A number rounded to some places behind the point, or before it if there are fewer than none. -/
def round (v : Value) (places : Int) : Except Error Value :=
  match v with
  | .float x =>
    match Number.toFraction? x with
    | none => .ok v
    | some (n, d) => if n == 0 then .ok v else roundFloat x n d places
  | _ =>
    match v.asInt? with
    | some n => .ok (.int (if places ≥ 0 then n
        else roundHalfEven n (Nat.pow 10 (-places).toNat) * Int.pow 10 (-places).toNat))
    | none => .error (.broken .type ("type " ++ v.typeName ++ " doesn't define __round__ method"))

end Orchestration.Value
