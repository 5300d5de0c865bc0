import Orchestration.Expression.Delimiter
import Orchestration.Value.Order

/-!
References to variables of the context.

A reference calls `ctx` and then follows the value: `ctx(x)`, `ctx().x`, `ctx("x").y`. Both
languages write references in the same way.
-/

namespace Orchestration

open Text (Pattern)

namespace Reference

def isLatin (c : Char) : Bool := c.toNat < 128 && c.isAlphanum

def trailChar (c : Char) : Bool := isLatin c || "[]_'\".()".toList.contains c

def trail : Pattern := .zeroOrMore (.char trailChar)

def quoteMark : Pattern := .char fun c => c == '\'' || c == '"'

/-- A call of `ctx` with whatever is asked of its answer. -/
def call : Pattern :=
  .all [.atEdge, .literal "ctx(", .optional quoteMark, trail, .optional quoteMark, .literal ")",
    .optional (.literal "."), trail]

def name : Pattern := .oneOrMore (.char fun c => isLatin c || c == '_' || c == '-')

/-- The ways in which a reference names its variable, the name being group 1. -/
def namings : List Pattern :=
  [.all [.behind (.seq (.literal ".)(xtc") .atEdge), .group 1 name, .atEdge, .notBefore (.literal "("),
     .optional (.literal ".")],
   .all [.atEdge, .literal "ctx(", .group 1 name, .literal ")"],
   .all [.atEdge, .literal "ctx('", .group 1 name, .literal "')"],
   .all [.atEdge, .literal "ctx(\"", .group 1 name, .literal "\")"]]

def names (reference : String) : List String :=
  namings.filterMap fun naming => (naming.find? reference).map (·.group 1)

end Reference

namespace Language

/-- The references in the expressions of a text, sorted, each once. -/
def references (language : Language) (text : String) : List String :=
  let found := (language.expressions text).flatMap fun expression =>
    (Reference.call.texts (language.strip expression)).map Text.trim
  Value.sortTexts found.eraseDups

end Language

end Orchestration
