import Orchestration.Expression.Call
import Orchestration.Expression.Language

/-!
Providers: what can be asked for by the name of a kind and a name within it.
-/

namespace Orchestration

inductive Provider where
  | composer (title : String)
  | evaluator (title : String)
  | function (name : String)
  | sample (title : String)
  | absent (module : String)

namespace Provider

def toValue : Provider → Value
  | .function _ => .object "function"
  | .composer title | .evaluator title | .sample title => .named title
  | .absent module => .object module

end Provider

namespace Registry

def composers : List (String × Provider) :=
  [("native", .composer "WorkflowComposer"), ("mistral", .absent "orquesta.composers.mistral"),
   ("mock", .composer "WorkflowComposer")]

def evaluators : List (String × Provider) :=
  [("yaql", .evaluator "YAQLEvaluator"), ("jinja", .evaluator "JinjaEvaluator")]

def functions : List (String × Provider) := Functions.names.map fun name => (name, .function name)

def kinds : List (String × List (String × Provider)) :=
  [("orquesta.composers", composers), ("orquesta.expressions.evaluators", evaluators),
   ("orquesta.expressions.functions", functions), ("orquesta.tests", [("fake", .sample "FakePlugin")])]

def notFound (kind name : String) : Error :=
  .noProvider ("Unable to load plugin " ++ kind ++ "." ++ name ++ ". No " ++ Text.quoted kind ++
    " driver found, looking for " ++ Text.quoted name)

def find (kind name : String) : Except Error Provider :=
  match (kinds.find? (·.1 == kind)).bind fun (_, providers) => providers.find? (·.1 == name) with
  | some (_, .absent module) =>
    .error (.broken .missingModule ("No module named " ++ Text.quoted module))
  | some (_, provider) => .ok provider
  | none => .error (notFound kind name)

def make (provider : Provider) (arguments : List Value) : Except Error Value :=
  match provider with
  | .function name => Functions.onValues name arguments []
  | .composer title | .evaluator title | .sample title =>
    if arguments.isEmpty then .ok (.object title)
    else .error (.broken .type (title ++ "() takes no arguments"))
  | .absent module => .error (.broken .missingModule ("No module named " ++ Text.quoted module))

end Registry

end Orchestration
