import Orchestration.Text.Word
import Orchestration.Text.Blank

/-!
Patterns of text.

A pattern is tried at a place of a text, from left to right; where there is a choice, the first way
that lets the rest of the pattern succeed is taken. A repetition takes as much as it can if it is
greedy, and as little as it can otherwise. Groups keep the text that they matched last.
-/

namespace Orchestration.Text

inductive Pattern where
  | nothing
  | char (allowed : Char → Bool)
  | seq (first second : Pattern)
  | either (first second : Pattern)
  | many (greedy : Bool) (body : Pattern)
  | group (number : Nat) (body : Pattern)
  | atStart
  | atEnd
  | atEdge
  | notBefore (body : Pattern)
  /-- What stands before this place, read backwards, matches. -/
  | behind (backwards : Pattern)

/-- A place in a text: what stands before it, nearest first, and what follows. -/
structure Cursor where
  before : List Char
  rest : List Char
  position : Nat
  groups : List (Nat × List Char)

namespace Cursor

def ofText (s : String) : Cursor := ⟨[], s.toList, 0, []⟩

def step? (place : Cursor) : Option (Char × Cursor) :=
  match place.rest with
  | [] => none
  | c :: rest => some (c, { place with before := c :: place.before, rest := rest, position := place.position + 1 })

def isEdge (place : Cursor) : Bool :=
  (place.before.head?.any isWordChar) != (place.rest.head?.any isWordChar)

/-- At the end, or before a line feed that is the last character. -/
def isEnd (place : Cursor) : Bool := place.rest.isEmpty || place.rest == ['\n']

def backwards (place : Cursor) : Cursor :=
  { place with before := place.rest, rest := place.before, position := 0 }

def since (place start : Cursor) : List Char := start.rest.take (place.position - start.position)

def group? (place : Cursor) (number : Nat) : Option String :=
  (place.groups.find? (·.1 == number)).map fun (_, cs) => String.ofList cs

def group (place : Cursor) (number : Nat) : String := (place.group? number).getD ""

end Cursor

namespace Pattern

/-- Repeats a step while the text gets shorter. -/
def repeating {α : Type} (greedy : Bool) (step : Cursor → (Cursor → Option α) → Option α) :
    Nat → Cursor → (Cursor → Option α) → Option α
  | 0, place, next => next place
  | fuel + 1, place, next =>
    let again := fun (_ : Unit) => step place fun later =>
      if place.position < later.position then repeating greedy step fuel later next else none
    if greedy then (again ()).orElse fun _ => next place
    else (next place).orElse again

/-- The first way to match a pattern here such that `next` succeeds at the place reached. -/
def run {α : Type} : Pattern → Cursor → (Cursor → Option α) → Option α
  | .nothing, place, next => next place
  | .char allowed, place, next =>
    match place.step? with
    | some (c, later) => if allowed c then next later else none
    | none => none
  | .seq first second, place, next => first.run place fun later => second.run later next
  | .either first second, place, next =>
    (first.run place next).orElse fun _ => second.run place next
  | .many greedy body, place, next =>
    repeating greedy (fun here after => body.run here after) (place.rest.length + 1) place next
  | .group number body, place, next =>
    body.run place fun later => next { later with groups := (number, later.since place) :: later.groups }
  | .atStart, place, next => if place.before.isEmpty then next place else none
  | .atEnd, place, next => if place.isEnd then next place else none
  | .atEdge, place, next => if place.isEdge then next place else none
  | .notBefore body, place, next =>
    match body.run place fun _ => some () with
    | some () => none
    | none => next place
  | .behind body, place, next =>
    match body.run place.backwards fun _ => some () with
    | some () => next place
    | none => none

def matchAt? (p : Pattern) (place : Cursor) : Option Cursor := p.run place some

def matchesStart (p : Pattern) (s : String) : Bool := (p.matchAt? (Cursor.ofText s)).isSome

/-- The first place at or after this one where the pattern matches, with the place reached. -/
def findFrom? (p : Pattern) : Nat → Cursor → Option (Cursor × Cursor)
  | 0, _ => none
  | fuel + 1, place =>
    match p.matchAt? place with
    | some later => some (place, later)
    | none =>
      match place.step? with
      | some (_, next) => findFrom? p fuel next
      | none => none

def find? (p : Pattern) (s : String) : Option Cursor :=
  (p.findFrom? (s.length + 1) (Cursor.ofText s)).map (·.2)

def matchesSomewhere (p : Pattern) (s : String) : Bool := (p.find? s).isSome

/-- All matches from left to right, none of which overlap. -/
def findAllFrom (p : Pattern) : Nat → Cursor → List (Cursor × Cursor)
  | 0, _ => []
  | fuel + 1, place =>
    match p.findFrom? (place.rest.length + 1) place with
    | none => []
    | some (start, later) =>
      if start.position < later.position then
        (start, later) :: findAllFrom p fuel { later with groups := [] }
      else
        match later.step? with
        | some (_, next) => (start, later) :: findAllFrom p fuel { next with groups := [] }
        | none => [(start, later)]

def findAll (p : Pattern) (s : String) : List (Cursor × Cursor) :=
  p.findAllFrom (s.length + 1) (Cursor.ofText s)

def texts (p : Pattern) (s : String) : List String :=
  (p.findAll s).map fun (start, later) => String.ofList (later.since start)

def literal (word : String) : Pattern :=
  word.toList.foldr (fun c p => .seq (.char (· == c)) p) .nothing

def anyCase (word : String) : Pattern :=
  word.toList.foldr (fun c p => .seq (.char fun d => d.toLower == c) p) .nothing

def all (parts : List Pattern) : Pattern := parts.foldr .seq .nothing

def oneOf (parts : List Pattern) : Pattern :=
  match parts with
  | [] => .char fun _ => false
  | [p] => p
  | p :: rest => .either p (oneOf rest)

def zeroOrMore (p : Pattern) : Pattern := .many true p

def oneOrMore (p : Pattern) : Pattern := .seq p (.many true p)

def optional (p : Pattern) : Pattern := .either p .nothing

/-- Any number of characters of one line, as few as possible. -/
def few : Pattern := .many false (.char (· != '\n'))

/-- Any number of characters of one line, as many as possible. -/
def line : Pattern := .many true (.char (· != '\n'))

def blank : Pattern := .char isBlank

def wordChar : Pattern := .char isWordChar

def digit : Pattern := .char isDigit

def times (n : Nat) (p : Pattern) : Pattern := all (List.replicate n p)

def between (n more : Nat) (p : Pattern) : Pattern :=
  .seq (times n p) ((List.range more).foldl (fun tail _ => optional (.seq p tail)) .nothing)

end Pattern

end Orchestration.Text
