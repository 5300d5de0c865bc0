import Orchestration.Query.Library.Text

/-!
Functions of queries that make and change lists, mappings and sets.

Nothing is changed in place: a function gives a new list, mapping or set, or an iterator that makes
the change on the way.
-/

namespace Orchestration.Query

namespace Collections

open Overload (required optional fixed onOne onTwo wrongCall)
open Numbers (wholeOr testForm)
open Operators (termsOf entryOr withRules merged membersOf)

def collection : Parameter := required "collection" .iterable

def dict : Parameter := required "dict" .mapping

/-- A form on something that can be walked through, with further parameters. -/
def onCollection (name : String) (usage : Usage) (others : List Parameter)
    (f : Term → List Argument → Eval Term) : Overload :=
  fixed name usage (collection :: others) fun
    | .term t :: rest => f t rest
    | _ => wrongCall

def onMap (name : String) (f : Bool → List (Value × Term) → Eval Term) : Overload :=
  onOne name .method "dict" .mapping fun
    | .map isFixed entries => f isFixed entries
    | _ => wrongCall

/-- The items of iterators among some terms take the place of the iterators. -/
def unrolled : Nat → List Term → Eval (List Term)
  | 0, _ => throw tooDeep
  | _ + 1, [] => return []
  | fuel + 1, .iterator ref :: rest => do
    match ← Eval.next ref with
    | none => unrolled fuel rest
    | some (.iterator inner) => unrolled fuel (.iterator inner :: .iterator ref :: rest)
    | some t => return t :: (← unrolled fuel (.iterator ref :: rest))
  | fuel + 1, t :: rest => do return t :: (← unrolled fuel rest)

/-- The first two items of something, as a key and a value. -/
def pairOf (t : Term) : Eval (Term × Term) := do
  match t with
  | .iterator ref =>
    let key ← Eval.next ref
    let value ← Eval.next ref
    match key, value with
    | some k, some v => return (k, v)
    | _, _ => throw (.broken .stopped "")
  | _ =>
    match ← Eval.walk t with
    | k :: v :: _ => return (k, v)
    | _ => throw (.broken .stopped "")

def mapOfPairs (items : Ref) : Nat → List (Value × Term) → Eval (List (Value × Term))
  | 0, _ => throw tooDeep
  | fuel + 1, entries => do
    match ← Eval.next items with
    | none => return entries
    | some t => do
      let (k, v) ← pairOf t
      mapOfPairs items fuel (Term.put entries (← k.key) v)

def closureOr (argument : Argument) (t : Term) : Eval Term :=
  match argument with
  | .lazily f => Eval.apply f [t]
  | _ => return t

def toMap (items : List Term) (keyOf valueOf : Argument) : Eval Term := do
  let entries ← items.foldlM (fun (entries : List (Value × Term)) t => do
    let k ← closureOr keyOf t
    let v ← closureOr valueOf t
    return Term.put entries (← k.key) v) []
  return .map false entries

def isSequence : Term → Bool
  | .tuple _ | .list _ => true
  | _ => false

def isMapping : Term → Bool
  | .map .. => true
  | _ => false

def isSet : Term → Bool := Kind.accepts .members

/-- The place before which an item is put; a negative one counts from the end. -/
def insertionPlace (length : Nat) (position : Int) : Nat :=
  (if position < 0 then max (position + length) 0 else min position length).toNat

def withInserted (items : List Term) (position : Int) (t : Term) : List Term :=
  let place := insertionPlace items.length position
  items.take place ++ t :: items.drop place

def itemsOf : Term → List Term
  | .tuple items | .list items => items
  | _ => []

def without (entries : List (Value × Term)) (keys : List Term) : Eval Term := do
  let keys ← keys.mapM fun t => (t.key : Except Error Value)
  return .map false (keys.foldl Term.erase entries)

def membersForm (name : String) (f : List Term → List Term → List Term) : Overload :=
  onTwo name .method (required "left" .members) (required "right" .members) fun s t =>
    return .set (Term.membersInOrder (f (membersOf s) (membersOf t)))

def isMember (t : Term) (items : List Term) : Bool := items.any (Term.same t)

def position : Parameter := required "position" .whole

def count : Parameter := optional "count" .whole

def replacedBy (t values : Term) (place count : Argument) : Eval Term := do
  Eval.iterator (.replaced (← Eval.iterate t) 0 (wholeOr 0 place) (wholeOr 1 count) (some values) none)

end Collections

open Collections Overload Numbers Operators in
def collectionFunctions : List Overload :=
  [⟨"list", .function, [], some .any, false, false, fun c => do
     return .tuple (← unrolled maxSteps (termsOf c.more))⟩,
   ⟨"set", .function, [], some .any, false, false, fun c => do
     Term.setOf (← unrolled maxSteps (termsOf c.more))⟩,
   ⟨"dict", .function, [], some .rule, false, true, fun c => do return .map true (← withRules c.more [])⟩,
   { onOne "dict" .function "items" .iterable (fun t => do
       return .map true (← mapOfPairs (← Eval.iterate t) maxSteps [])) with takesRules := true },
   onCollection "toList" .method [] fun t _ => do return .tuple (← Eval.items t),
   onCollection "toSet" .method [] fun t _ => do Term.setOf (← Eval.items t),
   onCollection "toDict" .method [required "keySelector" .lazily, optional "valueSelector" .lazily] fun
     | t, [key, value] => do toMap (← Eval.items t) key value
     | _, _ => wrongCall,
   onCollection "flatten" .method [] fun t _ => do Eval.iterator (.flattened [← Eval.iterate t]),
   onOne "len" .both "dict" .mapping fun
     | .map _ entries => return .int entries.length
     | _ => wrongCall,
   onOne "len" .both "sequence" .sequence fun t => return .int (itemsOf t).length,
   onOne "len" .both "set" .members fun t => return .int (membersOf t).length,
   onMap "keys" fun isFixed entries => return .view .keys isFixed entries,
   onMap "values" fun isFixed entries => return .view .values isFixed entries,
   onMap "items" fun isFixed entries => return .view .items isFixed entries,
   fixed "get" .method [dict, required "key" .any, optional "default" .any] fun
     | [.term d, .term key, .term fallback] => entryOr d key fallback
     | [.term d, .term key, _] => entryOr d key Term.null
     | _ => wrongCall,
   { fixed "set" .method [dict, required "key" .any, required "value" .any] (fun
       | [.term (.map _ entries), .term key, .term value] => do
         return .map true (Term.put entries (← key.key) value)
       | _ => wrongCall) with takesRules := true },
   { onTwo "set" .method dict (required "replacements" .mapping) joinMaps with takesRules := true },
   ⟨"set", .method, [dict], some .rule, false, true, fun c =>
     match c.arguments with
     | [.term (.map _ entries)] => do return .map true (merged entries (← withRules c.more []))
     | _ => wrongCall⟩,
   ⟨"delete", .method, [dict], some .any, false, false, fun c =>
     match c.arguments with
     | [.term (.map _ entries)] => without entries (termsOf c.more)
     | _ => wrongCall⟩,
   onTwo "deleteAll" .method dict (required "keys" .iterable) fun
     | .map _ entries, keys => do without entries (← Eval.items keys)
     | _, _ => wrongCall,
   onTwo "containsKey" .method dict (required "key" .any) fun
     | .map _ entries, key => do return .bool (Term.find? entries (← key.key)).isSome
     | _, _ => wrongCall,
   onTwo "containsValue" .method dict (required "value" .any) fun
     | .map _ entries, value => return .bool (entries.any fun (_, t) => t.same value)
     | _, _ => wrongCall,
   onTwo "contains" .method collection (required "value" .any) holds,
   onCollection "delete" .method [position, count] fun
     | t, [place, count] => do
       Eval.iterator (.replaced (← Eval.iterate t) 0 (wholeOr 0 place) (wholeOr 1 count) none none)
     | _, _ => wrongCall,
   onCollection "insert" .method [position, required "value" .any] fun
     | t, [place, .term value] => do
       Eval.iterator (.inserted (← Eval.iterate t) 0 (wholeOr 0 place) (.tuple [value]) none)
     | _, _ => wrongCall,
   fixed "insert" .method [required "collection" .sequence, position, required "value" .any] fun
     | [.term t, place, .term value] =>
       return .list (withInserted (itemsOf t) (wholeOr 0 place) value)
     | _ => wrongCall,
   onCollection "insertMany" .method [position, required "values" .iterable] fun
     | t, [place, .term values] => do
       Eval.iterator (.inserted (← Eval.iterate t) 0 (wholeOr 0 place) values none)
     | _, _ => wrongCall,
   onCollection "replace" .method [position, required "value" .any, count] fun
     | t, [place, .term value, count] => replacedBy t (.tuple [value]) place count
     | _, _ => wrongCall,
   onCollection "replaceMany" .method [position, required "values" .iterable, count] fun
     | t, [place, .term values, count] => replacedBy t values place count
     | _, _ => wrongCall,
   membersForm "union" Operators.union,
   membersForm "intersect" fun xs ys => xs.filter fun x => isMember x ys,
   membersForm "difference" fun xs ys => xs.filter fun x => !isMember x ys,
   membersForm "symmetricDifference" fun xs ys =>
     (xs.filter fun x => !isMember x ys) ++ ys.filter fun y => !isMember y xs,
   ⟨"add", .method, [required "set" .members], some .any, false, false, fun c =>
     match c.arguments with
     | [.term s] => do Term.setOf (membersOf s ++ termsOf c.more)
     | _ => wrongCall⟩,
   ⟨"remove", .method, [required "set" .members], some .any, false, false, fun c =>
     match c.arguments with
     | [.term s] => return .set ((membersOf s).filter fun x => !isMember x (termsOf c.more))
     | _ => wrongCall⟩,
   testForm "isList" "arg" isSequence,
   testForm "isDict" "arg" isMapping,
   testForm "isSet" "arg" isSet]

end Orchestration.Query
