import Orchestration.Number.Shortest

/-!
Numbers written with a given number of digits.

A number is rounded on its exact value, a half to the even digit. `fixed` gives some digits behind
the point, `scientific` gives one digit before the point, some behind it and an exponent, and
`general` takes the shorter of the two.
-/

namespace Orchestration.Number

/-- A fraction rounded to the nearest whole number, a half to the even one. -/
def nearest (numerator denominator : Nat) : Nat :=
  let low := numerator / denominator
  let rest := 2 * (numerator % denominator)
  if rest < denominator then low
  else if rest > denominator then low + 1
  else if low % 2 == 0 then low else low + 1

def withPoint (places n : Nat) (keepsPoint : Bool) : String :=
  let digits := padLeft (places + 1) (toString n)
  let head := String.ofList (digits.toList.take (digits.length - places))
  let tail := String.ofList (digits.toList.drop (digits.length - places))
  if places == 0 then (if keepsPoint then head ++ "." else head) else head ++ "." ++ tail

def fixed (numerator denominator places : Nat) (keepsPoint : Bool) : String :=
  withPoint places (nearest (numerator * Nat.pow 10 places) denominator) keepsPoint

/-- A fraction times a power of ten, rounded. -/
def scaledBy (numerator denominator : Nat) (power : Int) : Nat :=
  if power ≥ 0 then nearest (numerator * Nat.pow 10 power.toNat) denominator
  else nearest numerator (denominator * Nat.pow 10 (-power).toNat)

/-- The power of ten of the first digit of a fraction that is not zero. -/
def magnitude (numerator denominator : Nat) : Int :=
  let guess : Int := (toString numerator).length - (toString denominator).length
  let reaches (e : Int) : Bool :=
    if e ≥ 0 then numerator ≥ denominator * Nat.pow 10 e.toNat
    else numerator * Nat.pow 10 (-e).toNat ≥ denominator
  if reaches guess then guess else guess - 1

/-- The first `count` digits of a fraction as a whole number, and the power of ten of the first of
them. -/
def leading (numerator denominator count : Nat) : Nat × Int :=
  if numerator == 0 then (0, 0)
  else
    let e := magnitude numerator denominator
    let found := scaledBy numerator denominator (count - 1 - e)
    if found ≥ Nat.pow 10 count then (found / 10, e + 1) else (found, e)

def exponentText (e : Int) : String :=
  "e" ++ (if e < 0 then "-" else "+") ++ padLeft 2 (toString e.natAbs)

def scientific (numerator denominator places : Nat) (keepsPoint : Bool) : String :=
  let (digits, e) := leading numerator denominator (places + 1)
  withPoint places digits keepsPoint ++ exponentText e

/-- Removes zeros at the end of the digits behind a point, and the point if nothing is left. -/
def dropZeros (s : String) : String :=
  if s.toList.contains '.' then
    let kept := s.toList.reverse.dropWhile (· == '0')
    String.ofList (match kept with
      | '.' :: rest => rest.reverse
      | _ => kept.reverse)
  else s

/-- The shorter of both forms with `precision` digits. `below` is how much less than `precision` the
number of digits before the point must be for the form without an exponent; there at least one digit
behind the point is kept if `keepsDigit`. -/
def general (numerator denominator precision below : Nat) (keepsZeros keepsDigit : Bool) : String :=
  let count := max precision 1
  let (digits, e) := leading numerator denominator count
  let trimmed (s : String) : String := if keepsZeros then s else dropZeros s
  if -4 ≤ e && e < (count : Int) - below then
    let places := ((count : Int) - 1 - e).toNat
    let body := trimmed (if e ≥ 0 then withPoint places digits keepsZeros
      else fixed numerator denominator places keepsZeros)
    if keepsDigit && !body.toList.contains '.' then body ++ ".0" else body
  else trimmed (withPoint (count - 1) digits keepsZeros) ++ exponentText e

end Orchestration.Number
