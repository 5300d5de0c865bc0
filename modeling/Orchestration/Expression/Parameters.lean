import Orchestration.Expression.Delimiter
import Orchestration.Json.Reader
import Orchestration.Text.Case

/-!
Parameters in one line: `name=value name=value`.

A value is a list in brackets, text in quotes, a number, a truth value, `null`, or an expression.
What can be read as JSON is read; text in quotes is kept as text, unless it is in braces.
-/

namespace Orchestration.Parameters

open Text (Pattern)

def inQuotes (mark : Char) : Pattern :=
  .all [.char (· == mark), .zeroOrMore (.char (· != mark)), .char (· == mark), .zeroOrMore .blank]

def sign : Pattern := .optional (.char (· == '-'))

def valueForms : List Pattern :=
  [.all [.literal "[", .line, .literal "]", .zeroOrMore .blank],
   inQuotes '"',
   inQuotes '\'',
   .all [sign, .zeroOrMore .digit, .literal ".", .oneOrMore .digit],
   .seq sign (.oneOrMore .digit),
   .anyCase "true",
   .anyCase "false",
   .literal "null",
   Language.inline .template,
   Language.inline .query]

/-- A name as group 1, an equals sign, and a value as group 2. -/
def parameter : Pattern :=
  .all [.group 1 (.oneOrMore .wordChar), .literal "=", .group 2 (.oneOf valueForms)]

def dropQuoteAtStart (mark : Char) : List Char → List Char
  | c :: rest => if c == mark then rest else c :: rest
  | [] => []

/-- Drops a quote that is the last character, or the last but a line feed. -/
def dropQuoteAtEnd (mark : Char) (cs : List Char) : List Char :=
  match cs.reverse with
  | c :: d :: rest =>
    if c == mark then (d :: rest).reverse
    else if c == '\n' && d == mark then (c :: rest).reverse
    else cs
  | [c] => if c == mark then [] else cs
  | [] => []

def dropQuotes (s : String) : String :=
  let once := dropQuoteAtEnd '"' (dropQuoteAtStart '"' s.toList)
  String.ofList (dropQuoteAtEnd '\'' (dropQuoteAtStart '\'' once))

def hasQuotes (s : String) : Bool :=
  (inQuotes '"').matchesSomewhere s || (inQuotes '\'').matchesSomewhere s

def inBraces (s : String) : Bool :=
  s.toList.head? == some '\x7b' && s.toList.getLast? == some '\x7d'

def readValue (written : String) : Value :=
  let written := Text.trim written
  let bare := dropQuotes written
  if bare != "" && hasQuotes written && !inBraces bare then .str bare
  else
    let low := Text.lower bare
    let word := if low == "true" || low == "false" then low else bare
    match Json.read word with
    | .ok v => v
    | .error _ => .str word

def parse (s : String) : List (String × Value) :=
  (parameter.findAll s).map fun (_, found) => (found.group 1, readValue (found.group 2))

end Orchestration.Parameters
