import Orchestration.Number.Binary

/-!
The shortest decimal that reads back as a given binary number.

A decimal reads back when it lies in the interval of reals that round to the number; the ends
belong to it when the mantissa is even. Of 1, 2, ... 17 digits the first grid with such a decimal
is taken, and on it the one nearest to the number.
-/

namespace Orchestration.Number

/-- `digits * 10 ^ exponent`. -/
structure Decimal where
  digits : Nat
  exponent : Int
  deriving DecidableEq, Repr

namespace Shortest

/-- `a * 10 ^ s` compared with `b / c`. -/
def compareScaled (a : Nat) (s : Int) (b c : Nat) : Ordering :=
  if s ≥ 0 then compare (a * Nat.pow 10 s.toNat * c) b
  else compare (a * c) (b * Nat.pow 10 (-s).toNat)

/-- The interval of a number in quarters of its last place: `(low, value, high)` over `scale`. -/
structure Interval where
  low : Nat
  value : Nat
  high : Nat
  scale : Nat
  closed : Bool

def interval (mantissa : Nat) (exponent : Int) : Interval :=
  let lower :=
    if mantissa == Nat.pow 2 52 && exponent > -1074 then 4 * mantissa - 1 else 4 * mantissa - 2
  let up := if exponent ≥ 0 then Nat.pow 2 exponent.toNat else 1
  let down := if exponent ≥ 0 then 1 else Nat.pow 2 (-exponent).toNat
  { low := lower * up, value := 4 * mantissa * up, high := (4 * mantissa + 2) * up,
    scale := 4 * down, closed := mantissa % 2 == 0 }

def Interval.holds (i : Interval) (a : Nat) (s : Int) : Bool :=
  let aboveLow := compareScaled a s i.low i.scale
  let belowHigh := compareScaled a s i.high i.scale
  (aboveLow == .gt || (i.closed && aboveLow == .eq)) &&
    (belowHigh == .lt || (i.closed && belowHigh == .eq))

def digitCount : Nat → Nat → Nat
  | 0, _ => 0
  | fuel + 1, n => if n == 0 then 0 else digitCount fuel (n / 10) + 1

/-- The least `p` with `value < 10 ^ p`, for a value below one. -/
def smallMagnitude : Nat → Nat → Nat → Int
  | 0, _, _ => 0
  | fuel + 1, value, scale =>
    if value * 10 ≥ scale then 0 else smallMagnitude fuel (value * 10) scale - 1

def magnitude (i : Interval) : Int :=
  if i.value ≥ i.scale then digitCount 400 (i.value / i.scale)
  else smallMagnitude 400 i.value i.scale

def floorScaled (i : Interval) (s : Int) : Nat :=
  if s ≥ 0 then i.value / (i.scale * Nat.pow 10 s.toNat)
  else i.value * Nat.pow 10 (-s).toNat / i.scale

/-- Whether the number lies nearer to `a + 1` than to `a` on the grid `10 ^ s`; a tie goes to the
even one. -/
def roundsUp (i : Interval) (a : Nat) (s : Int) : Bool :=
  match compareScaled (2 * a + 1) s (2 * i.value) i.scale with
  | .lt => true
  | .gt => false
  | .eq => a % 2 == 1

def search (i : Interval) (top : Int) : Nat → Nat → Decimal
  | 0, count =>
    let s := top - count
    ⟨floorScaled i s, s⟩
  | fuel + 1, count =>
    let s := top - count
    let a := floorScaled i s
    let lowHit := a != 0 && i.holds a s
    let highHit := i.holds (a + 1) s
    if lowHit && highHit then ⟨if roundsUp i a s then a + 1 else a, s⟩
    else if lowHit then ⟨a, s⟩
    else if highHit then ⟨a + 1, s⟩
    else search i top fuel (count + 1)

def trim : Nat → Decimal → Decimal
  | 0, d => d
  | fuel + 1, d =>
    if d.digits != 0 && d.digits % 10 == 0 then trim fuel ⟨d.digits / 10, d.exponent + 1⟩ else d

end Shortest

/-- The shortest decimal for `mantissa * 2 ^ exponent`, without zeros at its end. -/
def shortest (mantissa : Nat) (exponent : Int) : Decimal :=
  let i := Shortest.interval mantissa exponent
  Shortest.trim 400 (Shortest.search i (Shortest.magnitude i) 17 1)

/-- Where positional writing ends and how an exponent is written. -/
structure Layout where
  smallestPositional : Int
  largestPositional : Int
  keepPoint : Bool
  exponentWidth : Nat

def padLeft (width : Nat) (s : String) : String :=
  String.ofList (List.replicate (width - s.length) '0') ++ s

def Layout.write (layout : Layout) (d : Decimal) : String :=
  let digits := toString d.digits
  let point : Int := digits.length + d.exponent
  if layout.smallestPositional < point && point ≤ layout.largestPositional then
    if point ≤ 0 then "0." ++ padLeft (digits.length + (-point).toNat) digits
    else if point ≥ digits.length then
      digits ++ String.ofList (List.replicate (point.toNat - digits.length) '0') ++
        (if layout.keepPoint then ".0" else "")
    else String.ofList (digits.toList.take point.toNat) ++ "." ++
      String.ofList (digits.toList.drop point.toNat)
  else
    let e := point - 1
    let mantissa := match digits.toList with
      | [] => "0"
      | [c] => String.ofList [c]
      | c :: rest => String.ofList (c :: '.' :: rest)
    mantissa ++ "e" ++ (if e < 0 then "-" else "+") ++ padLeft layout.exponentWidth (toString e.natAbs)

/-- Numbers are positional from `0.0001` up to `10 ^ 16`, keep their point, and have an exponent of
at least two digits otherwise. -/
def plainLayout : Layout :=
  { smallestPositional := -4, largestPositional := 16, keepPoint := true, exponentWidth := 2 }

def floatText (x : Float) : String :=
  match parts x with
  | .nan => "nan"
  | .infinite negative => if negative then "-inf" else "inf"
  | .finite negative mantissa exponent =>
    let body := if mantissa == 0 then "0.0" else plainLayout.write (shortest mantissa exponent)
    if negative then "-" ++ body else body

end Orchestration.Number
