import Orchestration.Expression.Delimiter

/-!
How a task says over what it repeats itself.

Either one expression gives the items, or names are given to the parts of each item:
`x, y in <% ctx().pairs %>`.
-/

namespace Orchestration.Itemization

open Text (Pattern)

def anyInline : Pattern := .oneOf (Language.all.map Language.inline)

def blanks : Pattern := .optional (.oneOrMore .blank)

def word : Pattern := .oneOrMore .wordChar

/-- An expression and nothing else. -/
def bare : Pattern := .all [.atStart, blanks, anyInline, blanks, .atEnd]

/-- Names, set apart by commas or blanks, and then `in` and an expression. -/
def keyed : Pattern :=
  .all [.atStart, blanks,
    .optional (.oneOrMore (.either (.all [word, .literal ",", .optional .blank]) (.oneOrMore .blank))),
    word, .oneOrMore .blank, .literal "in", .oneOrMore .blank, anyInline, blanks, .atEnd]

def pattern : Pattern := .either bare keyed

/-- The pattern in the way that schemas write it. -/
def patternText : String :=
  let inline := "(\x7b\x7b.*?\x7d\x7d|<%.*?%>)"
  "^(\\s+)?" ++ inline ++ "(\\s+)?$|^(\\s+)?((\\w+,\\s?|\\s+)+)?(\\w+)\\s+in\\s+" ++ inline ++ "(\\s+)?$"

/-- What stands before the first ` in ` and what follows it. -/
def halves (text : String) : Option (String × String) :=
  (Text.cutFirst? " in ".toList text.toList).map fun (before, after) => (String.ofList before, String.ofList after)

/-- The expression that gives the items: what follows the first ` in `, if there is one. -/
def expression (text : String) : String :=
  match halves text with
  | some (_, after) => Text.trim after
  | none => Text.trim text

def keys (text : String) : Option (List String) :=
  (halves text).map fun (before, _) => Text.splitText "," (Text.replace before " " "")

end Orchestration.Itemization
