import Orchestration.Document.Scalar
import Orchestration.Error

/-!
Documents as values.

A definition may not give one key twice. Other documents may, and the last entry counts; they may
also take over the entries of other mappings under the key `<<`.
-/

namespace Orchestration.Document

/-- What a document does with a key that comes twice, and with the entries of other mappings. -/
inductive Manner where
  | strict
  | lenient
  deriving DecidableEq

def coreTag? (tag : String) : Option String :=
  (Text.afterHead? Tree.coreTags.toList tag.toList).map String.ofList

def tagOr (implicit : String) (tag : Option String) : Except Failure String :=
  match tag with
  | none => .ok implicit
  | some t =>
    match coreTag? t with
    | some name => .ok name
    | none => .error (.construction "unknown tag")

def scalarTag (style : Style) (text : String) : String :=
  if style == .plain then Scalar.implicitTag text else "str"

def keyText : Tree → String
  | .scalar _ _ text => text
  | .sequence .. => "[]"
  | .mapping .. => "\x7b\x7d"

def isMerge : Tree → Bool
  | .scalar none .plain "<<" => true
  | _ => false

def acceptKey (manner : Manner) (found : Entries) (key : Tree) (k : Value) : Except Failure Unit :=
  if !k.hashable then .error (.construction "found unacceptable key")
  else if manner == .strict && Entries.has found k then
    .error (.construction ("found duplicate key \"" ++ keyText key ++ "\""))
  else .ok ()

def mergedEntries : Value → Except Failure (List Entries)
  | .map entries => .ok [entries]
  | .list items => do
    let found ← items.mapM fun v => match v with
      | Value.map entries => Except.ok entries
      | _ => Except.error (Failure.construction "expected a mapping for merging")
    .ok found.reverse
  | _ => .error (.construction "expected a mapping or list of mappings for merging")

mutual

def construct (manner : Manner) : Tree → Except Failure Value
  | .scalar tag style text => do
    match ← tagOr (scalarTag style text) tag with
    | "map" | "seq" | "set" | "omap" | "pairs" => .error (.construction "expected a collection")
    | name => Scalar.value name text
  | .sequence tag items => do
    match ← tagOr "seq" tag with
    | "seq" => do .ok (.list (← constructItems manner items))
    | "omap" | "pairs" => do
      let found ← constructItems manner items
      .ok (.list (← found.mapM fun v => match v with
        | Value.map [(k, w)] => Except.ok (Value.tuple [k, w])
        | _ => Except.error (Failure.construction "expected a mapping of length 1")))
    | _ => .error (.construction "expected a sequence")
  | .mapping tag entries => do
    match ← tagOr "map" tag with
    | "map" => do .ok (.map (← constructEntries manner [] entries))
    | "set" => do .ok (.set (Entries.keys (← constructEntries .lenient [] entries)))
    | _ => .error (.construction "expected a mapping")

def constructItems (manner : Manner) : List Tree → Except Failure (List Value)
  | [] => .ok []
  | t :: rest => do
    let v ← construct manner t
    .ok (v :: (← constructItems manner rest))

def constructEntries (manner : Manner) (found : Entries) :
    List (Tree × Tree) → Except Failure Entries
  | [] => .ok found
  | (key, value) :: rest => do
    if isMerge key && manner == .lenient then
      let v ← construct manner value
      let rest ← constructEntries manner found rest
      let merged := (← mergedEntries v).foldl (fun es more => more.foldl (fun es (k, w) => Entries.insert es k w) es) []
      .ok (rest.foldl (fun es (k, w) => Entries.insert es k w) merged)
    else
      let k ← construct manner key
      acceptKey manner found key k
      let v ← construct manner value
      constructEntries manner (Entries.insert found k v) rest

end

def read (manner : Manner) (text : String) : Except Failure Value := do
  match ← Tree.read text with
  | none => .ok .null
  | some tree => construct manner tree

namespace Failure

def text : Failure → String
  | .character => "special characters are not allowed"
  | .token => "a token cannot be read"
  | .arrangement => "the tokens are out of order"
  | .reference => "a name is not known"
  | .construction text => text

def toError : Failure → Error
  | .character => .broken .documentCharacter "special characters are not allowed"
  | .token => .broken .documentToken "a token cannot be read"
  | .arrangement => .broken .documentOrder "the tokens are out of order"
  | .reference => .broken .documentName "a name is not known"
  | .construction text => .broken .documentValue text

end Failure

def load (v : Value) : Except Error Value :=
  let failed (text : String) : Error :=
    .refused .value ("Failed to load workflow definition because " ++ text ++ ".")
  match v with
  | .str text => (read .strict text).mapError fun failure => failed failure.text
  | _ => .error (failed "a string or stream input is required")

end Orchestration.Document
