import Orchestration.Value.Equality

/-!
Mappings as lists of entries in the order of insertion.

Writing to a key that is there keeps its place; a new key goes to the end.
-/

namespace Orchestration

namespace Entries

def get? (entries : Entries) (key : Value) : Option Value :=
  (entries.find? fun (k, _) => k == key).map (·.2)

def getStr? (entries : Entries) (key : String) : Option Value := get? entries (.str key)

def has (entries : Entries) (key : Value) : Bool := entries.any fun (k, _) => k == key

def hasStr (entries : Entries) (key : String) : Bool := has entries (.str key)

def insert (entries : Entries) (key value : Value) : Entries :=
  match entries with
  | [] => [(key, value)]
  | (k, v) :: rest => if k == key then (k, value) :: rest else (k, v) :: insert rest key value

def insertStr (entries : Entries) (key : String) (value : Value) : Entries :=
  insert entries (.str key) value

def erase (entries : Entries) (key : Value) : Entries := entries.filter fun (k, _) => !(k == key)

def eraseStr (entries : Entries) (key : String) : Entries := erase entries (.str key)

/-- Entries read one after the other; the last one with a key wins. -/
def ofList (pairs : List (Value × Value)) : Entries :=
  pairs.foldl (fun es (k, v) => insert es k v) []

def keys (entries : Entries) : List Value := entries.map (·.1)

end Entries

namespace Value

def field? (v : Value) (key : String) : Option Value :=
  match v with
  | .map entries => Entries.getStr? entries key
  | _ => none

def field (v : Value) (key : String) : Value := (v.field? key).getD .null

def hasField (v : Value) (key : String) : Bool := (v.field? key).isSome

def setField (v : Value) (key : String) (new : Value) : Value :=
  match v with
  | .map entries => .map (Entries.insertStr entries key new)
  | _ => v

def eraseField (v : Value) (key : String) : Value :=
  match v with
  | .map entries => .map (Entries.eraseStr entries key)
  | _ => v

end Value

end Orchestration
