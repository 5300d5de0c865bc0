import Orchestration.Template.Filter

/-!
Taking items one by one.

A stream looks at what it is made of when the first item is taken from it, and computes each item
when that is asked for.
-/

namespace Orchestration.Template.Eval

def ruleOf (given : Given) : Except Error Rule :=
  match given.positional, given.named.find? (·.1 == "attribute") with
  | [], some (_, path) =>
    match given.named.find? fun (word, _) => word != "attribute" && word != "default" with
    | some (word, _) => .error (argumentFault ("Unexpected keyword argument " ++ Text.quoted word))
    | none => do
      .ok (.path (← pathParts path) (((given.named.find? (·.1 == "default")).map (·.2)).getD .null))
  | [], none => .error (argumentFault "map requires a filter argument")
  | name :: rest, _ => .ok (.filter name ⟨rest, given.named⟩)

def choiceOf (wanted byAttribute : Bool) (given : Given) : Except Error Choice := do
  let (path, rest) ← match byAttribute, given.positional with
    | true, [] => .error (argumentFault "Missing parameter for attribute name")
    | true, path :: rest => do .ok (← pathParts path, rest)
    | false, rest => .ok ([], rest)
  .ok ⟨path, rest.head?.map fun name => (name, ⟨rest.tail, given.named⟩), wanted⟩

/-- The items in a number of slices; the first ones are longer by one if they cannot be the same. -/
def slicesOf (number : Int) (fill : Item) (items : List Item) : List (List Item) :=
  let size : Int := items.length
  let each := size.fdiv number
  let longer := size.fmod number
  (List.range number.toNat).map fun (i : Nat) =>
    let k : Int := i
    let start := k * each + min k longer
    let stop := (k + 1) * each + min (k + 1) longer
    let part := (items.take stop.toNat).drop start.toNat
    if !fill.isNull && k ≥ longer then part ++ [fill] else part

def start (source : Source) (item : Item) : Eval Cursor := do
  match source with
  | .map given =>
    if ← truthy item then
      let rule ← settle (ruleOf given)
      return .mapped (← iterate item) rule
    else return .items []
  | .choose wanted byAttribute given =>
    if ← truthy item then
      let choice ← settle (choiceOf wanted byAttribute given)
      return .chosen (← iterate item) choice
    else return .items []
  | .distinct caseSensitive path =>
    let sensitive ← truthy caseSensitive
    let parts ← settle (pathParts path)
    return .distinct (← iterate item) sensitive parts []
  | .batches size fill => return .batched (← iterate item) size fill []
  | .slices number fill =>
    let found ← items item
    let _ ← calculate .floorDiv (.int found.length) number
    let n ← whole number
    return .items (← (slicesOf n fill found).mapM list)
  | .pairs =>
    match item with
    | .undefined .. => return .items []
    | .map ref => return .inMap .items ref 0 ((← get).entriesAt ref).length
    | _ => throw (.broken .type "Can only get item pairs from a mapping.")

def keeps (choice : Choice) (item : Item) : Eval Bool := do
  let subject ← follow .null choice.path item
  let holds ← match choice.test with
    | none => truthy subject
    | some (name, given) => testByName name subject given
  return holds == choice.wanted

def apply (rule : Rule) (item : Item) : Eval Item :=
  match rule with
  | .path parts other => follow other parts item
  | .filter name given => applyByName name item given

/-- Takes items from a cursor up to the first that passes. -/
def seek (source : Ref) (passes : Item → Eval Bool) : Nat → Eval (Option Item)
  | 0 => throw tooDeep
  | fuel + 1 => do
    match ← next source with
    | none => return none
    | some item => if ← passes item then return some item else seek source passes fuel

def sizeChanged : Error := .broken .running "dictionary changed size during iteration"

/-- The next item that a cursor has not given before, and all keys that were met by then. -/
def seekNew (source : Ref) (caseSensitive : Bool) (path : List Item) (met : List Value) :
    Nat → Eval (Option (Item × List Value))
  | 0 => throw tooDeep
  | fuel + 1 => do
    match ← next source with
    | none => return none
    | some item =>
      let k ← key (← rank caseSensitive .null path item)
      if met.any (· == k) then seekNew source caseSensitive path met fuel
      else return some (item, k :: met)

/-- Collects items up to a number of them; also gives the one that came too many. -/
def gather (source : Ref) (size : Item) (held : List Item) : Nat → Eval (List Item × Option Item)
  | 0 => throw tooDeep
  | fuel + 1 => do
    match ← next source with
    | none => return (held, none)
    | some item =>
      if size.int? == some held.length then return (held, some item)
      else gather source size (held ++ [item]) fuel

def filledUp (size fill : Item) (held : List Item) : Eval (List Item) := do
  if fill.isNull then return held
  else
    let isShort ← ask (·.compares .less (.int held.length) size)
    if isShort then
      let missing ← calculate .sub size (.int held.length)
      return held ++ List.replicate ((missing.int?).getD 0).toNat fill
    else return held

/-- Takes the next item from a cursor. `holds` says whether a condition holds of an item once it has
been given names. -/
def advance (holds : Target → Expr → Scope → Item → Eval Bool) (ref : Ref) :
    Eval (Option Item) := do
  match (← get).cells[ref]? with
  | some (.cursor type state) =>
    let state ← match state with
      | .waiting source item => do
        put ref (.cursor type (.items []))
        start source item
      | other => pure other
    let goOn (next : Cursor) (item : Item) : Eval (Option Item) := do
      put ref (.cursor type next)
      return some item
    let stop : Eval (Option Item) := do
      put ref (.cursor type (.items []))
      return none
    match state with
    | .items [] => stop
    | .items (item :: rest) => goOn (.items rest) item
    | .inList list place =>
      match ((← get).listAt list)[place]? with
      | some item => goOn (.inList list (place + 1)) item
      | none => stop
    | .fromEnd list left =>
      match left with
      | 0 => stop
      | left + 1 =>
        match ((← get).listAt list)[left]? with
        | some item => goOn (.fromEnd list left) item
        | none => stop
    | .inMap part map place size =>
      let entries := (← get).entriesAt map
      if entries.length != size then throw sizeChanged
      match entries[place]? with
      | some entry => goOn (.inMap part map (place + 1) size) (Store.shownBy part entry)
      | none => stop
    | .mapped source rule =>
      match ← next source with
      | some item =>
        put ref (.cursor type state)
        return some (← apply rule item)
      | none => stop
    | .chosen source choice =>
      match ← seek source (keeps choice) maxSteps with
      | some item => goOn state item
      | none => stop
    | .distinct source caseSensitive path met =>
      match ← seekNew source caseSensitive path met maxSteps with
      | some (item, met) => goOn (.distinct source caseSensitive path met) item
      | none => stop
    | .batched source size fill held =>
      match ← gather source size held maxSteps with
      | (batch, some item) => goOn (.batched source size fill [item]) (← list batch)
      | ([], none) => stop
      | (batch, none) => goOn (.items []) (← list (← filledUp size fill batch))
    | .restricted source target condition scope =>
      match ← seek source (holds target condition scope) maxSteps with
      | some item => goOn state item
      | none => stop
    | .waiting _ _ => stop
  | _ => return none

end Orchestration.Template.Eval
