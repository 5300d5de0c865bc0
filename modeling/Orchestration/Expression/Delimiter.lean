import Orchestration.Text.Pattern
import Orchestration.Expression.Language

/-!
Where expressions stand in a text.

An expression is set between two marks on one line. Templates have, beside places to fill in,
blocks, and raw blocks in which nothing is filled in.
-/

namespace Orchestration

open Text (Pattern)

namespace Language

/-- The marks that are cut off an expression at both ends. -/
def marks : Language → String
  | .template => "\x7b\x7b\x7d\x7d"
  | .query => "<%>"

def inline : Language → Pattern
  | .template => .all [.literal "\x7b\x7b", .few, .literal "\x7d\x7d"]
  | .query => .all [.literal "<%", .few, .literal "%>"]

def expressions (language : Language) (text : String) : List String := language.inline.texts text

/-- An expression without its marks and the blanks around it. -/
def strip (language : Language) (expression : String) : String :=
  Text.trim (Text.trimChars language.marks expression)

def block : Pattern := .all [.literal "\x7b%", .few, .literal "%\x7d"]

def rawBlock : Pattern :=
  .all [.literal "\x7b% raw %\x7d", .few, .literal "\x7b% endraw %\x7d"]

def blocks (text : String) : List String := block.texts text

def hasExpressions (language : Language) (text : String) : Bool :=
  match language with
  | .template => !(language.expressions text).isEmpty || !(blocks text).isEmpty
  | .query => !(language.expressions text).isEmpty

end Language

end Orchestration
