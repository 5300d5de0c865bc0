import Orchestration.Query.Iteration

/-!
Functions with several forms.

A call names a function and gives arguments, by place or by name. Which form of the function is
meant is found in two steps. First the forms are kept that have a parameter for every argument and
accept those that are constants. Then the arguments are evaluated once, and the forms are kept that
accept them; of several the one with the narrowest parameters is taken. A parameter may ask for the
computation instead of its outcome; then the argument is evaluated by the function, and as often as
it likes.
-/

namespace Orchestration.Query

/-- What a parameter accepts. -/
inductive Kind where
  | any
  | given
  | null
  | text
  | textOrNull
  | whole
  | number
  | numberOrNull
  | iterable
  | sequence
  | mapping
  | members
  | iterator
  | ordering
  | scope
  /-- A computation that is not carried out beforehand. -/
  | lazily
  /-- A rule that gives a value under a key. -/
  | rule
  deriving DecidableEq

namespace Kind

def accepts : Kind → Term → Bool
  | .any, _ => true
  | .given, t => !t.isNull
  | .null, t => t.isNull
  | .text, .atom (.str _) => true
  | .textOrNull, .atom (.str _) | .textOrNull, .atom .null => true
  | .whole, .atom (.int _) | .whole, .atom (.bool _) => true
  | .number, .atom (.int _) | .number, .atom (.float _) => true
  | .numberOrNull, .atom (.int _) | .numberOrNull, .atom (.float _) | .numberOrNull, .atom .null =>
    true
  | .iterable, t => Eval.isIterable t
  | .sequence, .tuple _ | .sequence, .list _ => true
  | .mapping, .map .. => true
  | .members, .set _ => true
  | .members, .view part .. => part != .values
  | .iterator, .iterator _ => true
  | .ordering, .collection _ => true
  | .scope, .scope _ => true
  | _, _ => false

def isLazy : Kind → Bool
  | .lazily | .rule => true
  | _ => false

/-- Whether all that one parameter accepts is a special case of what another one accepts. -/
def isNarrower : Kind → Kind → Bool
  | .sequence, .iterable | .members, .iterable | .iterator, .iterable | .ordering, .iterable => true
  | .iterable, .any | .sequence, .any | .mapping, .any | .members, .any | .iterator, .any => true
  | .whole, .any | .null, .any => true
  | _, _ => false

end Kind

inductive Usage where
  | function
  | method
  | both
  deriving DecidableEq

structure Parameter where
  name : String
  kind : Kind
  isOptional : Bool

/-- An argument as it is written, or a term that is there already. -/
inductive Given where
  | formula (f : Formula)
  | term (t : Term)

/-- An argument as a function gets it. -/
inductive Argument where
  | term (t : Term)
  | lazily (f : Closure)
  | rule (key value : Closure)
  | missing

structure Call where
  scope : Scope
  arguments : List Argument
  more : List Argument
  named : List (String × Argument)

structure Overload where
  name : String
  usage : Usage
  parameters : List Parameter
  more : Option Kind
  takesNamed : Bool
  takesRules : Bool
  body : Call → Eval Term

namespace Overload

def required (name : String) (kind : Kind) : Parameter := ⟨name, kind, false⟩

def optional (name : String) (kind : Kind) : Parameter := ⟨name, kind, true⟩

def wrongCall {α : Type} : Eval α := throw (.broken .type "wrong arguments")

def fixed (name : String) (usage : Usage) (parameters : List Parameter)
    (body : List Argument → Eval Term) :
    Overload :=
  ⟨name, usage, parameters, none, false, false, fun c => body c.arguments⟩

def onOne (name : String) (usage : Usage) (parameter : String) (kind : Kind)
    (f : Term → Eval Term) : Overload :=
  fixed name usage [required parameter kind] fun
    | [.term t] => f t
    | _ => wrongCall

def onTwo (name : String) (usage : Usage) (first second : Parameter) (f : Term → Term → Eval Term) :
    Overload :=
  fixed name usage [first, second] fun
    | [.term s, .term t] => f s t
    | _ => wrongCall

def mayBe (form : Overload) (isMethod : Bool) : Bool :=
  match form.usage with
  | .both => true
  | .function => !isMethod
  | .method => isMethod

/-- Arguments spread over the parameters: one for each, the further ones, and those that have a name
of their own. -/
structure Binding (α : Type) where
  slots : List (Option α)
  more : List α
  named : List (String × α)

section

variable {α : Type} (isAbsent : α → Bool)

def slotFor (named : List (String × α)) (p : Parameter) (positional : Option α) :
    Option (Option α) :=
  match positional, (named.find? (·.1 == p.name)).map (·.2) with
  | some a, none => if isAbsent a then (if p.isOptional then some none else none) else some (some a)
  | none, some a => some (some a)
  | none, none => if p.isOptional then some none else none
  | some _, some _ => none

def bindSlots (named : List (String × α)) : List Parameter → List α → Option (List (Option α))
  | [], _ => some []
  | p :: parameters, positional => do
    let slot ← slotFor isAbsent named p positional.head?
    let others ← bindSlots named parameters positional.tail
    some (slot :: others)

/-- Spreads arguments over the parameters, if there are neither too many nor too few. -/
def bind? (form : Overload) (positional : List α) (named : List (String × α)) :
    Option (Binding α) := do
  let slots ← bindSlots isAbsent named form.parameters positional
  let more := positional.drop form.parameters.length
  let others := named.filter fun (n, _) => !form.parameters.any (·.name == n)
  if !more.isEmpty && form.more.isNone then none
  else if more.any isAbsent then none
  else if !others.isEmpty && !form.takesNamed then none
  else some ⟨slots, more, others⟩

end

def kindAt (form : Overload) (place : Nat) : Kind :=
  match form.parameters[place]? with
  | some p => p.kind
  | none => form.more.getD .any

def kindOf (form : Overload) (name : String) : Kind :=
  ((form.parameters.find? (·.name == name)).map (·.kind)).getD .any

/-- Whether a parameter can accept an argument, as far as that is known before it is evaluated. -/
def mayAccept (kind : Kind) : Given → Bool
  | .term t => kind.accepts t
  | .formula (.rule ..) => kind == .rule
  | .formula (.constant v) => kind == .lazily || kind.accepts (.atom v)
  | .formula (.word s) => kind == .lazily || kind.accepts (.str s)
  | .formula _ => kind != .rule

def isAbsent : Given → Bool
  | .formula .absent => true
  | _ => false

def fits (form : Overload) (positional : List Given) (named : List (String × Given)) : Bool :=
  match form.bind? isAbsent positional named with
  | none => false
  | some binding =>
    (form.parameters.zip binding.slots).all (fun (p, slot) => slot.all (mayAccept p.kind)) &&
      binding.more.all (mayAccept (form.more.getD .any))

def lazyPlaces (form : Overload) (positional : List Given) (named : List (String × Given)) :
    List Nat × List String :=
  ((List.range positional.length).filter fun i => (form.kindAt i).isLazy,
   (named.map (·.1)).filter fun n => (form.kindOf n).isLazy)

def force (scope : Scope) (kind : Kind) (given : Given) : Eval Argument :=
  match given with
  | .term t => return .term t
  | .formula .absent => return .missing
  | .formula (.rule key value) => return .rule ⟨key, scope⟩ ⟨value, scope⟩
  | .formula f =>
    if kind.isLazy then return .lazily ⟨f, scope⟩ else do return .term (← Eval.evaluate f scope)

def accepted (kind : Kind) : Argument → Bool
  | .term t => kind.accepts t
  | .lazily _ => kind == .lazily
  | .rule .. => kind == .rule
  | .missing => true

def call? (form : Overload) (scope : Scope) (positional : List Argument)
    (named : List (String × Argument)) :
    Option Call := do
  let binding ← form.bind? (fun | .missing => true | _ => false) positional named
  let arguments := binding.slots.map (·.getD .missing)
  if (form.parameters.zip arguments).all (fun (p, a) => accepted p.kind a) &&
      binding.more.all (accepted (form.more.getD .any)) then
    some ⟨scope, arguments, binding.more, binding.named⟩
  else none

/-- Whether one form has narrower parameters than another, for so many arguments. -/
def isNarrower (places : Nat) (form other : Overload) : Bool :=
  let kinds := (List.range places).map fun i => (form.kindAt i, other.kindAt i)
  kinds.any (fun (a, b) => a.isNarrower b) && !kinds.any fun (a, b) => b.isNarrower a

def unknown (name : String) : Option Term → Error
  | none => .broken .unknownFunction ("Unknown function \"" ++ name ++ "\"")
  | some receiver =>
    .broken .unknownMethod ("Unknown method \"" ++ name ++ "\" for receiver " ++ receiver.text)

def noMatch (name : String) : Option Term → Error
  | none =>
    .broken .noMatchingFunction ("No function \"" ++ name ++ "\" matches supplied arguments")
  | some receiver =>
    .broken .noMatchingMethod ("No method \"" ++ name ++ "\" for receiver " ++ receiver.text ++
      " matches supplied arguments")

def ambiguous (name : String) : Option Term → Error
  | none => .broken .ambiguousFunction ("Ambiguous function \"" ++ name ++ "\"")
  | some receiver =>
    .broken .ambiguousMethod ("Ambiguous method \"" ++ name ++ "\" for receiver " ++ receiver.text)

def splitNamed : List Given → Except Error (List Given × List (String × Given))
  | [] => .ok ([], [])
  | .formula (.rule key value) :: rest =>
    match key with
    | .word name => do
      let (positional, named) ← splitNamed rest
      .ok (positional, (name, .formula value) :: named)
    | _ => .error (.broken .noMapping "Cannot convert mapping to keyword argument")
  | given :: rest => do
    let (positional, named) ← splitNamed rest
    .ok (given :: positional, named)

def resolve (library : List Overload) (name : String) (receiver : Option Term)
    (arguments : List Given)
    (scope : Scope) : Eval Term := do
  let forms := library.filter fun form => form.name == name && form.mayBe receiver.isSome
  if forms.isEmpty then throw (unknown name receiver)
  let takesRules := (forms.head?.map (·.takesRules)).getD false
  let (positional, named) ← if takesRules then pure (arguments, []) else splitNamed arguments
  let positional := (receiver.map Given.term).toList ++ positional
  let fitting := forms.filter fun form => form.fits positional named
  match fitting with
  | [] => throw (noMatch name receiver)
  | first :: rest => do
    let places := first.lazyPlaces positional named
    if rest.any fun form => form.lazyPlaces positional named != places then
      throw (ambiguous name receiver)
    let byPlace ← positional.zipIdx.mapM fun (given, i) => force scope (first.kindAt i) given
    let byName ← named.mapM fun (n, given) => do return (n, ← force scope (first.kindOf n) given)
    let calls :=
      fitting.filterMap fun form => (form.call? scope byPlace byName).map fun c => (form, c)
    match calls with
    | [] => throw (noMatch name receiver)
    | [(form, call)] => form.body call
    | several =>
      let placed := several.zipIdx
      let narrowest := placed.find? fun ((form, _), i) => placed.all fun ((other, _), j) =>
        i == j || form.isNarrower byPlace.length other
      match narrowest with
      | some ((form, call), _) => form.body call
      | none => throw (ambiguous name receiver)

end Overload

end Orchestration.Query
