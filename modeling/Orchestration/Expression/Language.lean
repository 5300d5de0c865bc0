/-!
The two languages in which an expression may be written: templates, which are text with places to
fill in, and queries, which ask for one value.
-/

namespace Orchestration

inductive Language where
  | template
  | query
  deriving DecidableEq, Repr

namespace Language

def name : Language → String
  | .template => "jinja"
  | .query => "yaql"

/-- The word by which error names start. -/
def title : Language → String
  | .template => "Jinja"
  | .query => "Yaql"

/-- Wherever both languages are tried, templates come first. -/
def all : List Language := [.template, .query]

def ofName? (name : String) : Option Language := all.find? (·.name == name)

end Language

end Orchestration
