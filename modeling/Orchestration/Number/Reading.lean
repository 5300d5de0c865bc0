import Orchestration.Text.Word
import Orchestration.Text.Blank
import Orchestration.Text.Case
import Orchestration.Number.Binary

/-!
Numbers read from text.

A whole number is a sign and decimal digits of any script; single underscores may set digits apart.
A floating number may have a point, an exponent, or be one of the words for infinity and for no
number.
-/

namespace Orchestration.Number

def splitSign : List Char → Bool × List Char
  | '-' :: rest => (true, rest)
  | '+' :: rest => (false, rest)
  | cs => (false, cs)

/-- The digits of a run in which single underscores stand between digits. -/
def digitRun? (afterDigit : Bool) : List Char → Option (List Nat)
  | [] => if afterDigit then some [] else none
  | c :: rest =>
    if c == '_' then if afterDigit then digitRun? false rest else none
    else
      match Text.digitValue? c with
      | some d => (digitRun? true rest).map (d :: ·)
      | none => none

def ofDigits (digits : List Nat) : Nat := digits.foldl (fun n d => n * 10 + d) 0

def readWhole? (s : String) : Option Int :=
  let (negative, body) := splitSign (Text.trim s).toList
  (digitRun? false body).map fun digits =>
    let n : Int := ofDigits digits
    if negative then -n else n

/-- `digits * 10 ^ exponent`, rounded to the nearest binary number. -/
def ofDecimal (digits : Nat) (exponent : Int) : Float :=
  if digits == 0 then 0.0
  else if exponent > 400 then 1.0 / 0.0
  else if exponent ≥ 0 then Float.ofScientific digits false exponent.toNat
  else if exponent < -100000 then 0.0
  else Float.ofScientific digits true (-exponent).toNat

def digitsOrNone? (cs : List Char) : Option (List Nat) :=
  if cs.isEmpty then some [] else digitRun? false cs

def readScaled? (mantissa : List Char) (exponent : Option (List Char)) : Option Float := do
  let whole := mantissa.takeWhile (· != '.')
  let fraction := (mantissa.dropWhile (· != '.')).drop 1
  let wholeDigits ← digitsOrNone? whole
  let fractionDigits ← digitsOrNone? fraction
  if wholeDigits.isEmpty && fractionDigits.isEmpty then none
  else
    let power ← match exponent with
      | none => some 0
      | some written =>
        let (negative, body) := splitSign written
        (digitRun? false body).map fun digits =>
          let n : Int := ofDigits digits
          if negative then -n else n
    some (ofDecimal (ofDigits (wholeDigits ++ fractionDigits)) (power - fractionDigits.length))

def readFloat? (s : String) : Option Float :=
  let (negative, body) := splitSign (Text.trim s).toList
  let word := Text.lower (String.ofList body)
  let magnitude : Option Float :=
    if word == "inf" || word == "infinity" then some (1.0 / 0.0)
    else if word == "nan" then some (0.0 / 0.0)
    else
      let mantissa := body.takeWhile fun c => c != 'e' && c != 'E'
      let tail := body.dropWhile fun c => c != 'e' && c != 'E'
      readScaled? mantissa (if tail.isEmpty then none else some (tail.drop 1))
  magnitude.map fun x => if negative then -x else x

/-- The binary number nearest to a fraction. -/
def ofRatio (numerator : Int) (denominator : Nat) : Float :=
  let n := numerator.natAbs
  let shift : Int := 64 + (Nat.log2 denominator : Int) - (Nat.log2 n : Int)
  let scaledTop := if shift ≥ 0 then n * Nat.pow 2 shift.toNat else n
  let scaledBottom := if shift ≥ 0 then denominator else denominator * Nat.pow 2 (-shift).toNat
  let quotient := scaledTop / scaledBottom
  let sticky := if scaledTop % scaledBottom == 0 then quotient else quotient ||| 1
  let magnitude := (Float.ofScientific sticky false 0).scaleB (-shift)
  if numerator < 0 then -magnitude else magnitude

end Orchestration.Number
