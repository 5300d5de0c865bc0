import Orchestration.Error
import Orchestration.Text.Blank

/-!
Merging mappings, and reaching into them along a path.

A merge brings the entries of the right mapping into the left one. Where both have a mapping under
one key, the two are merged in turn; otherwise `overwrite` says which side is kept.
-/

namespace Orchestration

mutual

def Value.mergeInto (overwrite : Bool) (left : Value) : Value → Value
  | .map right =>
    match left with
    | .map entries => .map (Entries.merge overwrite entries right)
    | _ => if overwrite then .map right else left
  | right => if overwrite then right else left

def Entries.merge (overwrite : Bool) (left : Entries) : List (Value × Value) → Entries
  | [] => left
  | (k, v) :: rest =>
    let merged := match Entries.get? left k with
      | none => Entries.insert left k v
      | some w => Entries.insert left k (Value.mergeInto overwrite w v)
    Entries.merge overwrite merged rest

end

namespace Value

def noAttribute (v : Value) (member : String) : Error :=
  .broken .noAttribute ("'" ++ v.typeName ++ "' object has no attribute '" ++ member ++ "'")

def merge (overwrite : Bool) (left right : Value) : Except Error Value :=
  match left, right with
  | .null, _ => .ok right
  | _, .null => .ok left
  | .map l, .map r => .ok (.map (Entries.merge overwrite l r))
  | _, .map [] => .ok left
  | _, .map _ =>
    .error (.broken .type ("'" ++ left.typeName ++ "' object does not support item assignment"))
  | _, _ => .error (noAttribute right "items")

/-- How far a path has been followed. -/
def Trail.step (trail key : String) : String := if trail.isEmpty then key else trail ++ "." ++ key

def notMapping (trail : String) : Error :=
  .refused .type ("Value of '" ++ trail ++ "' is not typeof dict.")

def noKey (trail : String) : Error :=
  .refused .key (Text.quoted ("Key '" ++ trail ++ "' does not exist."))

def notIterable (v : Value) : Error :=
  .broken .type ("argument of type '" ++ v.typeName ++ "' is not iterable")

/-- Whether a key is in a value that stands at the start of the empty path. -/
def holdsKey (v : Value) (key : String) : Except Error Bool :=
  match v with
  | .map entries => .ok (Entries.hasStr entries key)
  | .list items | .tuple items | .set items => .ok (items.any (· == .str key))
  | .str s => .ok (Text.contains s key)
  | _ => .error (notIterable v)

def getAlong (strict : Bool) (path trail : String) (v : Value) : List String → Except Error Value
  | [] => .ok v
  | key :: rest =>
    if !v.isMap && trail != path then .error (notMapping trail)
    else do
      let here := Trail.step trail key
      let held ← holdsKey v key
      if strict && !held then throw (noKey here)
      match v with
      | .map entries =>
        match (Entries.getStr? entries key).getD .null with
        | .null => .ok .null
        | next => getAlong strict path here next rest
      | _ => throw (noAttribute v "get")

/-- The value at the end of a path of keys that are set apart by points. -/
def getPath (strict : Bool) (v path : Value) : Except Error Value :=
  match path with
  | .str p => getAlong strict p "" v (Text.splitText "." p)
  | _ => .error (noAttribute path "split")

def setAlong (strict : Bool) (path trail : String) (new : Value) (v : Value) :
    List String → Except Error Value
  | [] => .ok v
  | key :: rest =>
    if !v.isMap && trail != path then .error (notMapping trail)
    else do
      let here := Trail.step trail key
      let held ← holdsKey v key
      if strict && !held then throw (noKey here)
      match v with
      | .map entries =>
        if here == path then .ok (.map (Entries.insertStr entries key new))
        else do
          let inner ← setAlong strict path here new ((Entries.getStr? entries key).getD Value.empty) rest
          .ok (.map (Entries.insertStr entries key inner))
      | _ =>
        throw (.broken .type ("'" ++ v.typeName ++ "' object does not support item assignment"))

/-- Writes a value at the end of a path; the mappings on the way are made where they are missing. -/
def setPath (strict insertNull : Bool) (v path new : Value) : Except Error Value :=
  if !insertNull && new.isNull then .ok v
  else
    match path with
    | .str p => setAlong strict p "" new v (Text.splitText "." p)
    | _ => .error (noAttribute path "split")

end Value

end Orchestration
