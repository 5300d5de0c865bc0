import Orchestration.Json.Writer
import Orchestration.Spec.Property

/-!
Specifications as containers: mappings and sequences of other specifications, which cannot be
changed.
-/

namespace Orchestration.Spec

def plainObject (s : Spec) (text : String) : Error :=
  .broken .type ("'" ++ s.kind.name ++ "' object " ++ text)

def size (s : Spec) : Except Error Nat :=
  match s.kind.shape, s.raw with
  | .sequence, _ => .ok s.items.length
  | .mapping, .map entries => .ok entries.length
  | .mapping, .list items => .ok items.length
  | _, _ => .error (.broken .type ("object of type '" ++ s.kind.name ++ "' has no len()"))

def get (s : Spec) (key : Value) : Except Error Property := do
  match s.kind.shape with
  | .sequence =>
    match key.asInt? with
    | some n =>
      let index := if n < 0 then n + s.items.length else n
      match if index < 0 then none else s.items[index.toNat]? with
      | some item => .ok (.spec item)
      | none => throw (.broken .index "list index out of range")
    | none =>
      throw (.broken .type ("list indices must be integers or slices, not " ++ key.typeName))
  | .mapping =>
    if !key.hashable then throw key.unhashable
    if (← s.keys).any (· == key) then
      match key with
      | .str name => s.property name
      | _ => throw (.broken .type "attribute name must be string")
    else throw (.refused .key key.shown)
  | .plain => throw (s.plainObject "is not subscriptable")

def contains (s : Spec) (key : Value) : Except Error Bool :=
  match s.kind.shape, s.raw with
  | .sequence, _ => .ok false
  | .mapping, .map entries =>
    if key.hashable then .ok (Entries.has entries key)
    else .error key.unhashable
  | .mapping, .list items => .ok (items.any (· == key))
  | _, _ => .error (.broken .type ("argument of type '" ++ s.kind.name ++ "' is not iterable"))

/-- The text of a mapping is that of its data; a sequence is written over several lines. -/
def text (s : Spec) : Except Error String :=
  match s.kind.shape with
  | .sequence => .ok (Json.write (Json.indented 4) s.raw)
  | .mapping => .ok s.raw.shown
  | .plain => .ok ("<" ++ s.kind.name ++ " object>")

def unchangeable : Error := .refused .notImplemented ""

/-- A specification takes no new parts, and none can be taken away. -/
def assign (s : Spec) : Except Error Unit :=
  .error (if s.kind.shape == .plain then s.plainObject "does not support item assignment" else unchangeable)

end Orchestration.Spec
