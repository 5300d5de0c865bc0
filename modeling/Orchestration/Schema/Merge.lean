import Orchestration.Value.Merge
import Orchestration.Value.Order

/-!
Schemas, and how one is merged into another.

A schema is a mapping that says which type a value has and what its parts are. Two schemas can be
merged if both are of the type object, or both of the type array. A schema that only gives its type
is blank, and adds nothing.
-/

namespace Orchestration.Schema

def isBlank (schema : Value) : Bool :=
  schema == .fields [("type", "object")] || schema == .fields [("type", "array")]

/-- The type that a schema gives; nothing has no type. -/
def typeOf (schema : Value) : Except Error Value :=
  if !schema.truthy then .ok .null
  else
    match schema with
    | .map entries => .ok ((Entries.getStr? entries "type").getD .null)
    | _ => .error (Value.noAttribute schema "get")

def checkMergeable (schema : Value) : Except Error Unit := do
  let type ← typeOf schema
  if schema.truthy && !(type == .str "array" || type == .str "object") then
    throw (.schemaMismatch ("Merge operation is only supported for schema of type array and object. " ++
      "The given schema is type " ++ type.text ++ "."))

def checkCompatible (left right : Value) : Except Error Value := do
  let type ← typeOf left
  let other ← typeOf right
  if !(type == other) then
    throw (.schemaMismatch ("Merge requires both types of schema to be the same. The schema types are " ++
      type.text ++ " and " ++ other.text ++ "."))
  .ok type

def fieldOr (schema : Value) (key : String) (other : Value) : Value :=
  (schema.field? key).getD other

def itemsOf (v : Value) : Except Error (List Value) :=
  match v with
  | .list items | .tuple items | .set items => .ok items
  | .map entries => .ok (Entries.keys entries)
  | .str s => .ok (s.toList.map fun c => .str (String.singleton c))
  | _ => .error (.broken .type ("'" ++ v.typeName ++ "' object is not iterable"))

/-- The items of two lists, each once. -/
def union (left right : List Value) : Except Error (List Value) :=
  (left ++ right).foldlM (fun found v =>
    if !v.hashable then .error v.unhashable
    else .ok (if found.any (· == v) then found else found ++ [v])) []

def greater (v w : Value) : Except Error Value := do
  .ok (if ← Value.compares .greater w v then w else v)

def lesser (v w : Value) : Except Error Value := do
  .ok (if ← Value.compares .less w v then w else v)

/-- An entry, if its value is more than zero. -/
def ifPositive (key : String) (v : Value) : Except Error (List (String × Value)) := do
  .ok (if ← Value.compares .greater v (.int 0) then [(key, v)] else [])

def ifTruthy (key : String) (v : Value) : List (String × Value) :=
  if v.truthy then [(key, v)] else []

def bound (overwrite : Bool) (choose : Value → Value → Except Error Value) (key : String)
    (left right : Value) :
    Except Error (List (String × Value)) := do
  let first := fieldOr left key (.int 0)
  ifPositive key (← if overwrite then choose first (fieldOr right key (.int 0)) else .ok first)

/-- Of two bounds the tighter one is kept. One that is missing counts as zero, so that as the most
it leaves no bound. -/
theorem bound_eq {key : String} {left right : Value} {a b : Int}
    (first : fieldOr left key (.int 0) = .int a)
    (second : fieldOr right key (.int 0) = .int b) :
    bound true greater key left right = .ok (if 0 < max a b then [(key, .int (max a b))] else []) ∧
      bound true lesser key left right = .ok (if 0 < min a b then [(key, .int (min a b))] else []) := by
  have compares (c : Comparison) (a b : Int) : Value.compares c (.int a) (.int b) = .ok (c.holds (compare a b)) := by
    simp [Value.compares, Value.numeric?, Value.Numeric.compare?]
  have keeps (v : Int) : ifPositive key (.int v) = .ok (if 0 < v then [(key, .int v)] else []) := by
    simp [ifPositive, compares, bind, Except.bind, Comparison.holds, Int.compare_eq_gt]
  have most : greater (.int a) (.int b) = .ok (.int (max a b)) := by
    simp only [greater, compares, bind, Except.bind, Comparison.holds, beq_iff_eq, Int.compare_eq_gt]
    grind
  have least : lesser (.int a) (.int b) = .ok (.int (min a b)) := by
    simp only [lesser, compares, bind, Except.bind, Comparison.holds, beq_iff_eq, Int.compare_eq_lt]
    grind
  constructor
  · rw [bound, first, second, if_pos rfl, most]
    exact keeps _
  · rw [bound, first, second, if_pos rfl, least]
    exact keeps _

def mergeObjects (overwrite : Bool) (left right : Value) : Except Error Value := do
  let both (key : String) : Except Error (List (String × Value)) := do
    .ok (ifTruthy key
      (← Value.merge overwrite (fieldOr left key Value.empty) (fieldOr right key Value.empty)))
  let properties ← both "properties"
  let required ← union (← itemsOf (fieldOr left "required" (.list [])))
    (← itemsOf (fieldOr right "required" (.list [])))
  let required := ifTruthy "required" (.list (← Value.sort required))
  let additional := fieldOr left "additionalProperties" (.bool true)
  let additional :=
    if additional.truthy then fieldOr right "additionalProperties" (.bool true) else additional
  let additional := if additional.truthy then [] else [("additionalProperties", additional)]
  let patterns ← both "patternProperties"
  let least ← bound overwrite greater "minProperties" left right
  let most ← bound overwrite lesser "maxProperties" left right
  .ok (.fields ([("type", .str "object")] ++ properties ++ required ++ additional ++ patterns ++ least ++ most))

def mergeArrays (overwrite : Bool) (left right : Value) : Except Error Value := do
  let chosen := if overwrite then right else left
  let items := ifTruthy "items" (fieldOr chosen "items" (.list []))
  let unique := ifTruthy "uniqueItems" (fieldOr chosen "uniqueItems" (.bool false))
  let least ← ifPositive "minItems" (fieldOr chosen "minItems" (.int 0))
  let most ← ifPositive "maxItems" (fieldOr chosen "maxItems" (.int 0))
  .ok (.fields ([("type", .str "array")] ++ items ++ unique ++ least ++ most))

/-- One schema made of two. Where both say something about one property, `overwrite` lets the right
one win. -/
def merge (overwrite : Bool) (left right : Value) : Except Error Value :=
  match left.truthy, right.truthy with
  | false, false => .ok Value.empty
  | true, false => .ok (if isBlank left then Value.empty else left)
  | false, true => .ok (if isBlank right then Value.empty else right)
  | true, true =>
    match isBlank left, isBlank right with
    | true, true => .ok Value.empty
    | true, false => .ok right
    | false, true => .ok left
    | false, false => do
      checkMergeable left
      checkMergeable right
      let type ← checkCompatible left right
      if type == .str "object" then mergeObjects overwrite left right
      else mergeArrays overwrite left right

end Orchestration.Schema
