/-!
Binary floating numbers, taken apart exactly.

Every finite number is a whole number times a power of two. Comparison with whole numbers,
rounding to whole numbers and remainders are decided on these parts, so none of them rounds.
-/

namespace Orchestration.Number

/-- A finite number stands for `mantissa * 2 ^ exponent` with its sign. -/
inductive Parts where
  | nan
  | infinite (negative : Bool)
  | finite (negative : Bool) (mantissa : Nat) (exponent : Int)
  deriving DecidableEq, Repr

def parts (x : Float) : Parts :=
  let bits := x.toBits.toNat
  let negative := bits / Nat.pow 2 63 == 1
  let biased : Nat := bits / Nat.pow 2 52 % Nat.pow 2 11
  let fraction : Nat := bits % Nat.pow 2 52
  if biased == 2047 then
    if fraction == 0 then .infinite negative else .nan
  else if biased == 0 then .finite negative fraction (-1074)
  else .finite negative (fraction + Nat.pow 2 52) ((biased : Int) - 1075)

def isFinite (x : Float) : Bool :=
  match parts x with
  | .finite .. => true
  | _ => false

/-- The number as a fraction `(numerator, denominator)`, the denominator a power of two. -/
def toFraction? (x : Float) : Option (Int × Nat) :=
  match parts x with
  | .finite negative mantissa exponent =>
    let sign : Int := if negative then -1 else 1
    if exponent ≥ 0 then some (sign * (mantissa * Nat.pow 2 exponent.toNat : Nat), 1)
    else some (sign * (mantissa : Int), Nat.pow 2 (-exponent).toNat)
  | _ => none

/-- How `x` compares with the whole number `n`; nothing compares with a number that is none. -/
def compareWhole? (x : Float) (n : Int) : Option Ordering :=
  match parts x with
  | .nan => none
  | .infinite negative => some (if negative then .lt else .gt)
  | .finite .. =>
    match toFraction? x with
    | some (numerator, denominator) => some (compare numerator (n * denominator))
    | none => none

/-- The greatest whole number not above `x`. -/
def floor? (x : Float) : Option Int :=
  (toFraction? x).map fun (numerator, denominator) => numerator.fdiv denominator

/-- The whole part of `x`, cut toward zero. -/
def truncate? (x : Float) : Option Int :=
  (toFraction? x).map fun (numerator, denominator) => numerator.tdiv denominator

def isWhole (x : Float) : Bool :=
  match toFraction? x with
  | some (numerator, denominator) => numerator.tmod denominator == 0
  | none => false

/-- The nearest binary number to a whole number. -/
def ofInt (n : Int) : Float :=
  match n with
  | .ofNat k => Float.ofScientific k false 0
  | .negSucc k => -Float.ofScientific (k + 1) false 0

/-- The remainder of `x` by `y` with the sign of `x`; it is always exact. -/
def remainder (x y : Float) : Float :=
  match parts x, parts y with
  | .finite negative m e, .finite _ n f =>
    if n == 0 then 0.0 / 0.0
    else
      let low := min e f
      let left := m * Nat.pow 2 (e - low).toNat
      let right := n * Nat.pow 2 (f - low).toNat
      let magnitude := (Float.ofScientific (left % right) false 0).scaleB low
      if negative then -magnitude else magnitude
  | .finite .., .infinite _ => x
  | _, _ => 0.0 / 0.0

/-- `x` has a minus sign; zero may have one too. -/
def isNegative (x : Float) : Bool :=
  match parts x with
  | .finite negative .. | .infinite negative => negative
  | .nan => false

/-- Quotient rounded down and the remainder that goes with it, which has the sign of `y`. -/
def floorDivide (x y : Float) : Float × Float :=
  let rest := remainder x y
  let quotient := (x - rest) / y
  let (rest, quotient) :=
    if rest != 0.0 then
      if (y < 0.0) != (rest < 0.0) then (rest + y, quotient - 1.0) else (rest, quotient)
    else (if y < 0.0 then -0.0 else 0.0, quotient)
  if quotient != 0.0 then
    let floored := quotient.floor
    (if quotient - floored > 0.5 then floored + 1.0 else floored, rest)
  else (if isNegative x != isNegative y then -0.0 else 0.0, rest)

end Orchestration.Number
