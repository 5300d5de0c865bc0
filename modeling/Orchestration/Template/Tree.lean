import Orchestration.Template.Token

/-!
Templates as trees: expressions, and the statements in which they stand.

Some forms of expression occur only inside of others: an argument with a name, spread arguments, an
entry of a mapping, an operand of a comparison, and a part that was left out.
-/

namespace Orchestration.Template

inductive Unary where
  | negative
  | positive
  | not
  deriving DecidableEq

inductive Binary where
  | add
  | sub
  | mul
  | div
  | floorDiv
  | mod
  | pow
  | and
  | or
  deriving DecidableEq

inductive Expr where
  | constant (v : Value)
  | name (s : String)
  | list (items : List Expr)
  | tuple (items : List Expr)
  | dict (entries : List Expr)
  | entry (key value : Expr)
  | member (body : Expr) (name : String)
  | subscript (body index : Expr)
  | slice (start stop step : Expr)
  | call (body : Expr) (arguments : List Expr)
  | filter (body : Expr) (name : String) (arguments : List Expr)
  | test (body : Expr) (name : String) (arguments : List Expr)
  | unary (operator : Unary) (body : Expr)
  | binary (operator : Binary) (left right : Expr)
  | concat (parts : List Expr)
  | compare (first : Expr) (operands : List Expr)
  | operand (symbol : String) (body : Expr)
  /-- One of two expressions; `line` is the line on which it stands. -/
  | choice (line : Nat) (condition yes no : Expr)
  | named (name : String) (body : Expr)
  | spread (body : Expr)
  | spreadNamed (body : Expr)
  | absent
  deriving Inhabited

/-- What a loop or an assignment gives names to. -/
inductive Target where
  | name (s : String)
  | tuple (parts : List Target)
  /-- A name inside of a collection of names. -/
  | inside (collection s : String)

/-- Filters by name with their arguments, the first one to be applied first. -/
abbrev Chain := List (String × List Expr)

/-- Names with the expressions that stand for them if nothing is given. -/
abbrev Parameters := List (String × Option Expr)

inductive Statement where
  | data (s : String)
  | output (e : Expr)
  | branch (condition : Expr) (body otherwise : List Statement)
  | loop (target : Target) (source condition : Expr) (isRecursive : Bool) (body otherwise : List Statement)
  | assign (target : Target) (e : Expr)
  | capture (target : Target) (filters : Chain) (body : List Statement)
  | withNames (bindings : List (Target × Expr)) (body : List Statement)
  | filtered (filters : Chain) (body : List Statement)
  | escaping (setting : Expr) (body : List Statement)
  | block (name : String) (isRequired : Bool) (body : List Statement)
  | define (name : String) (parameters : Parameters) (body : List Statement)
  /-- A call that is handed some statements. -/
  | callWith (parameters : Parameters) (call : Expr) (body : List Statement)
  /-- Something taken from another template. -/
  | load (source : Expr)

end Orchestration.Template
