import Orchestration.Query.Library.Operators

/-!
Functions of queries on numbers, and on what can be made a number or a truth value.
-/

namespace Orchestration.Query

namespace Numbers

open Overload (required optional fixed onOne wrongCall)

def wholeOr (fallback : Int) : Argument → Int
  | .term t => t.whole?.getD fallback
  | _ => fallback

/-- The value of a term that is made a number; what is computed on demand is known by its type. -/
def valueFor (t : Term) : Eval Value := do
  match t with
  | .atom v => return v
  | _ => return .object (← Eval.typeName t)

def toWhole (t : Term) : Eval Term := do
  if t.isNull then return .int 0 else return .int (← (← valueFor t).toWhole)

def toReal (t : Term) : Eval Term := do
  if t.isNull then return .atom (.float 0.0) else return .atom (.float (← (← valueFor t).toReal))

def sign (v : Value) : Except Error Term := do
  if ← Value.compares .greater v (.int 0) then .ok (.int 1)
  else if ← Value.compares .less v (.int 0) then .ok (.int (-1))
  else .ok (.int 0)

/-- The greater of two terms; of two that are the same, the first. -/
def greater (s t : Term) : Eval Term := do if ← Eval.isGreater t s then return t else return s

/-- The lesser of two terms; of two that are the same, the second. -/
def lesser (s t : Term) : Eval Term := do if ← Eval.isGreater t s then return s else return t

def power (s t : Value) (modulus : Argument) : Except Error Value :=
  match modulus with
  | .term (.atom (.int m)) =>
    match s.asInt?, t.asInt? with
    | some a, some b =>
      if m == 0 then .error (.broken .value "pow() 3rd argument cannot be 0")
      else if b < 0 then .error (.broken .value "base is not invertible for the given modulus")
      else .ok (.int ((Int.pow a b.toNat).fmod m))
    | _, _ =>
      .error (.broken .type "pow() 3rd argument not allowed unless all arguments are integers")
  | _ => s.power t

def testForm (name parameter : String) (p : Term → Bool) : Overload :=
  onOne name .function parameter .any fun t => return .bool (p t)

def isWholeNumber : Term → Bool
  | .atom (.int _) => true
  | _ => false

def isAnyNumber : Term → Bool
  | .atom (.int _) | .atom (.float _) => true
  | _ => false

def isTruthValue : Term → Bool
  | .atom (.bool _) => true
  | _ => false

end Numbers

open Numbers Overload in
def numberFunctions : List Overload :=
  [onOne "int" .function "value" .any toWhole,
   onOne "float" .function "value" .any toReal,
   testForm "bool" "value" Term.truthy,
   testForm "isInteger" "value" isWholeNumber,
   testForm "isNumber" "value" isAnyNumber,
   testForm "isBoolean" "value" isTruthValue,
   onOne "abs" .function "op" .number fun t => do return .atom (← t.plain.absolute),
   onOne "sign" .function "num" .number fun t => do sign t.plain,
   fixed "round" .function [required "number" .number, optional "ndigits" .whole] fun
     | [.term t, places] => do return .atom (← t.plain.round (wholeOr 0 places))
     | _ => wrongCall,
   fixed "pow" .function [required "a" .number, required "b" .number, optional "c" .numberOrNull] fun
     | [.term s, .term t, modulus] => do return .atom (← power s.plain t.plain modulus)
     | _ => wrongCall,
   onTwo "max" .function (required "a" .any) (required "b" .any) greater,
   onTwo "min" .function (required "a" .any) (required "b" .any) lesser]

end Orchestration.Query
