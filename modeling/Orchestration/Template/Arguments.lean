import Orchestration.Template.Member

/-!
What methods make of their arguments.

A method says how many arguments it takes and whether they may be given by name, and it turns down
arguments of a wrong kind. Error texts name the method, and some of them the type that it belongs
to.
-/

namespace Orchestration.Template

namespace Given

def wrong (text : String) : Error := .broken .type text

def plural (n : Nat) : String := if n == 1 then "" else "s"

/-- The arguments in order, if none is given by name. -/
def inOrder (title : String) (given : Given) : Except Error (List Item) :=
  if given.named.isEmpty then .ok given.positional
  else .error (wrong (title ++ "() takes no keyword arguments"))

def nothing (title : String) (given : Given) : Except Error Unit := do
  let items ← given.inOrder title
  if items.isEmpty then .ok ()
  else .error (wrong (title ++ "() takes no arguments (" ++ toString items.length ++ " given)"))

def single (title : String) (given : Given) : Except Error Item := do
  match ← given.inOrder title with
  | [item] => .ok item
  | items => .error (wrong (title ++ "() takes exactly one argument (" ++ toString items.length ++ " given)"))

/-- Between `low` and `high` arguments of a method with a name and a title. -/
def between (title name : String) (low high : Nat) (given : Given) : Except Error (List Item) := do
  let items ← given.inOrder title
  let n := items.length
  let expected (bound : String) (limit : Nat) : Error :=
    wrong (name ++ " expected " ++ bound ++ toString limit ++ " argument" ++ plural limit ++ ", got " ++ toString n)
  if n < low then .error (expected (if low == high then "" else "at least ") low)
  else if n > high then .error (expected (if low == high then "" else "at most ") high)
  else .ok items

/-- Between one and three arguments: a word and the bounds of the part that is looked at. -/
def bounded (name : String) (given : Given) : Except Error (List Item) := do
  let items ← given.inOrder name
  let n := items.length
  if n < 1 then .error (wrong (name ++ "() takes at least 1 argument (" ++ toString n ++ " given)"))
  else if n > 3 then .error (wrong (name ++ "() takes at most 3 arguments (" ++ toString n ++ " given)"))
  else .ok items

/-- Arguments that may be given in order or by name. -/
def keyed (name : String) (parameters : List String) (required : Nat) (given : Given) :
    Except Error (List (Option Item)) := do
  let inOrder := given.positional.length
  let total := inOrder + given.named.length
  let size := parameters.length
  if total > size then
    throw (wrong (name ++ "() takes " ++ (if required < size then "at most " else "exactly ") ++ toString size ++
      (if inOrder == 0 then " keyword" else "") ++ " argument" ++ plural size ++ " (" ++ toString total ++ " given)"))
  let found := parameters.zipIdx.map fun (word, i) =>
    if i < inOrder then given.positional[i]? else (given.named.find? (·.1 == word)).map (·.2)
  match (parameters.zip found).zipIdx.find? fun ((_, item), i) => item.isNone && i < required with
  | some ((word, _), i) =>
    throw (wrong (name ++ "() missing required argument '" ++ word ++ "' (pos " ++ toString (i + 1) ++ ")"))
  | none => pure ()
  match parameters.zipIdx.find? fun (word, i) => i < inOrder && given.named.any (·.1 == word) with
  | some (word, i) =>
    throw (wrong ("argument for " ++ name ++ "() given by name ('" ++ word ++ "') and position (" ++
      toString (i + 1) ++ ")"))
  | none => pure ()
  match given.named.find? fun (word, _) => !parameters.contains word with
  | some (word, _) =>
    throw (wrong ("'" ++ word ++ "' is an invalid keyword argument for " ++ name ++ "()"))
  | none => return found

def onlyNamed (name : String) (parameters : List String) (given : Given) :
    Except Error (List (Option Item)) := do
  let isTooLong := given.positional.length + given.named.length > parameters.length
  if given.positional.isEmpty || isTooLong then given.keyed name parameters 0
  else .error (wrong (name ++ "() takes no positional arguments"))

end Given

namespace Eval

def maxIndex : Nat := 9223372036854775807

def noWhole (item : Item) : Eval Error := do
  return Given.wrong ("'" ++ (← typeName item) ++ "' object cannot be interpreted as an integer")

def whole (item : Item) : Eval Int := do
  match item.int? with
  | some n =>
    if n.natAbs > maxIndex then
      throw (.broken .overflow "Python int too large to convert to C ssize_t")
    return n
  | none => throw (← noWhole item)

/-- A whole number of half the size. -/
def smallWhole (item : Item) : Eval Int := do
  match item.int? with
  | some n =>
    if n > 2147483647 || n < -2147483648 then
      throw (.broken .overflow "Python int too large to convert to C int")
    return n
  | none => throw (← noWhole item)

def flag (item : Item) : Eval Bool := do return (← smallWhole item) != 0

def mustBeText (head : String) (item : Item) : Eval String := do
  match item.text? with
  | some s => return s
  | none => throw (Given.wrong (head ++ "must be str, not " ++ (← typeName item)))

def textArgument (item : Item) : Eval String := mustBeText "" item

def bound (other : Int) (item : Option Item) : Eval Int := do
  match item with
  | none => return other
  | some item => return (← settle (sliceBound item)).getD other

def bounds (arguments : List Item) : Eval (Int × Int) := do
  return (← bound 0 arguments[1]?, ← bound maxIndex arguments[2]?)

end Eval

end Orchestration.Template
