import Orchestration.Expression.Language
import Orchestration.Value.Text

/-!
What can go wrong.

An error has a name, which says what kind of error it is, and a text. Most errors are causes of this
domain. `refused` is an argument that was looked at and turned down; `broken` is a step that could
not be carried out on the values it met.
-/

namespace Orchestration

inductive Fault where
  | type
  | value
  | key
  | index
  | noAttribute
  | zeroDivision
  | recursion
  | overflow
  | lookup
  | decoding
  | encoding
  | running
  | notImplemented
  | assertion
  | missingFile
  | missingModule
  | noDirectory
  | isDirectory
  | json
  | dateText
  | unboundName
  | unknownFunction
  | unknownMethod
  | noMatchingFunction
  | noMatchingMethod
  | queryGrammar
  | queryLexical
  | noMapping
  | stopped
  | ambiguousFunction
  | ambiguousMethod
  | undefined
  | templateSyntax
  | templateAssertion
  | templateArgument
  | templateRun
  | security
  | documentCharacter
  | documentToken
  | documentOrder
  | documentName
  | documentValue
  deriving DecidableEq, Repr

namespace Fault

def name : Fault → String
  | .type => "TypeError"
  | .value => "ValueError"
  | .key => "KeyError"
  | .index => "IndexError"
  | .noAttribute => "AttributeError"
  | .zeroDivision => "ZeroDivisionError"
  | .recursion => "RecursionError"
  | .overflow => "OverflowError"
  | .lookup => "LookupError"
  | .decoding => "UnicodeDecodeError"
  | .encoding => "UnicodeEncodeError"
  | .running => "RuntimeError"
  | .notImplemented => "NotImplementedError"
  | .assertion => "AssertionError"
  | .missingFile => "FileNotFoundError"
  | .missingModule => "ModuleNotFoundError"
  | .noDirectory => "NotADirectoryError"
  | .isDirectory => "IsADirectoryError"
  | .json => "JSONDecodeError"
  | .dateText => "ParserError"
  | .unboundName => "NameError"
  | .unknownFunction => "NoFunctionRegisteredException"
  | .unknownMethod => "NoMethodRegisteredException"
  | .noMatchingFunction => "NoMatchingFunctionException"
  | .noMatchingMethod => "NoMatchingMethodException"
  | .queryGrammar => "YaqlGrammarException"
  | .queryLexical => "YaqlLexicalException"
  | .noMapping => "MappingTranslationException"
  | .stopped => "StopIteration"
  | .ambiguousFunction => "AmbiguousFunctionException"
  | .ambiguousMethod => "AmbiguousMethodException"
  | .undefined => "UndefinedError"
  | .templateSyntax => "TemplateSyntaxError"
  | .templateAssertion => "TemplateAssertionError"
  | .templateArgument => "FilterArgumentError"
  | .templateRun => "TemplateRuntimeError"
  | .security => "SecurityError"
  | .documentCharacter => "ReaderError"
  | .documentToken => "ScannerError"
  | .documentOrder => "ParserError"
  | .documentName => "ComposerError"
  | .documentValue => "ConstructorError"

end Fault

inductive Error where
  | general (text : String)
  | noProvider (text : String)
  | grammar (language : Option Language) (text : String)
  | evaluation (language : Option Language) (text : String)
  | undefinedVariable (name : String)
  | hiddenVariable (name : String)
  | schemaDefinition (text : String)
  | schemaMismatch (text : String)
  | unknownTask (task : String)
  | unknownTransition (source target : String)
  | ambiguousTransition (source target : String)
  | wrongEventType (type event : String)
  | wrongEvent (event : String)
  | wrongStatus (status : String)
  | statusTransition (old new : String)
  | taskEvent (status event : String)
  | workflowEvent (status event : String)
  | notStaged (task : String)
  | inspection (errors : Value)
  | context (text : String)
  | logEntry (text : String)
  | stillActive
  | cannotRerun (tasks : List (String × String))
  | unreachableJoin (task route : String)
  | rehearsal (text : String)
  | unsupportedVersion (version : String)
  | refused (fault : Fault) (text : String)
  | broken (fault : Fault) (text : String)
  deriving Repr

namespace Error

def languageTitle (language : Option Language) : String :=
  (language.map (·.title)).getD "Expression"

def name : Error → String
  | .general _ => "OrquestaException"
  | .noProvider _ => "PluginFactoryError"
  | .grammar language _ => languageTitle language ++ "GrammarException"
  | .evaluation language _ => languageTitle language ++ "EvaluationException"
  | .undefinedVariable _ => "VariableUndefinedError"
  | .hiddenVariable _ => "VariableInaccessibleError"
  | .schemaDefinition _ => "SchemaDefinitionError"
  | .schemaMismatch _ => "SchemaIncompatibleError"
  | .unknownTask _ => "InvalidTask"
  | .unknownTransition .. => "InvalidTaskTransition"
  | .ambiguousTransition .. => "AmbiguousTaskTransition"
  | .wrongEventType .. => "InvalidEventType"
  | .wrongEvent _ => "InvalidEvent"
  | .wrongStatus _ => "InvalidStatus"
  | .statusTransition .. => "InvalidStatusTransition"
  | .taskEvent .. => "InvalidTaskStatusTransition"
  | .workflowEvent .. => "InvalidWorkflowStatusTransition"
  | .notStaged _ => "InvalidTaskStateEntry"
  | .inspection _ => "WorkflowInspectionError"
  | .context _ => "WorkflowContextError"
  | .logEntry _ => "WorkflowLogEntryError"
  | .stillActive => "WorkflowIsActiveAndNotRerunableError"
  | .cannotRerun _ => "InvalidTaskRerunRequest"
  | .unreachableJoin .. => "UnreachableJoinError"
  | .rehearsal _ => "WorkflowRehearsalError"
  | .unsupportedVersion _ => "ValueError"
  | .refused fault _ | .broken fault _ => fault.name

def message : Error → String
  | .general text | .noProvider text | .schemaDefinition text | .schemaMismatch text
  | .context text | .logEntry text | .rehearsal text => text
  | .grammar _ text | .evaluation _ text => text
  | .undefinedVariable name => "The variable \"" ++ name ++ "\" is undefined."
  | .hiddenVariable name => "The variable \"" ++ name ++ "\" is for internal use and inaccessible."
  | .unknownTask task => "Task \"" ++ task ++ "\" does not exist."
  | .unknownTransition source target =>
    "Task transition from \"" ++ source ++ "\" to \"" ++ target ++ "\" does not exist."
  | .ambiguousTransition source target =>
    "More than one task transitions found from \"" ++ source ++ "\" to \"" ++ target ++ "\"."
  | .wrongEventType type event =>
    "Event type \"" ++ type ++ "\" with event \"" ++ event ++ "\" is not valid."
  | .wrongEvent event => "Event \"" ++ event ++ "\" is not valid."
  | .wrongStatus status => "Status \"" ++ status ++ "\" is not valid."
  | .statusTransition old new =>
    "Status transition from \"" ++ old ++ "\" to \"" ++ new ++ "\" is invalid."
  | .taskEvent status event =>
    "Unable to process event \"" ++ event ++ "\" for task in \"" ++ status ++ "\" status."
  | .workflowEvent status event =>
    "Unable to process event \"" ++ event ++ "\" for workflow in \"" ++ status ++ "\" status."
  | .notStaged task => "Task \"" ++ task ++ "\" is not staged or has not started yet."
  | .inspection errors =>
    (Value.tuple [.str "Workflow definition failed inspection.", errors]).shown
  | .stillActive => "Unable to rerun workflow because it is not in a completed state."
  | .cannotRerun tasks =>
    "Unable to rerun task|route(s) because it doesn't exist or isn't rerunnable: " ++
      ", ".intercalate (tasks.map fun (task, route) => task ++ "|" ++ route)
  | .unreachableJoin task route =>
    "The join task|route \"" ++ task ++ "|" ++ route ++ "\" is partially satisfied but unreachable."
  | .unsupportedVersion version =>
    (Value.tuple [.str "Workflow definition is not the supported version \"%s\".", .str version]).shown
  | .refused _ text | .broken _ text => text

/-- Whether the error was recognised as such; otherwise a step broke. -/
def isDeliberate : Error → Bool
  | .broken .. => false
  | _ => true

/-- The name and the text in one line, as logs give it. -/
def line (e : Error) : String := e.name ++ ": " ++ e.message

/-- The text of an error that was made from any details: none, one, or several. -/
def detailText : List Value → String
  | [] => ""
  | [v] => v.text
  | details => (Value.tuple details).shown

def wrongDetails : Error := .broken .type "wrong number of arguments"

/-- The error of a name, made from its details. -/
def make? (name : String) (details : List Value) : Option (Except Error Error) :=
  let one (f : String → Error) : Except Error Error :=
    match details with
    | [v] => .ok (f v.text)
    | _ => .error wrongDetails
  let two (f : String → String → Error) : Except Error Error :=
    match details with
    | [v, w] => .ok (f v.text w.text)
    | _ => .error wrongDetails
  match name with
  | "OrquestaException" => some (.ok (.general (detailText details)))
  | "PluginFactoryError" => some (.ok (.noProvider (detailText details)))
  | "ExpressionGrammarException" => some (.ok (.grammar none (detailText details)))
  | "ExpressionEvaluationException" => some (.ok (.evaluation none (detailText details)))
  | "VariableUndefinedError" => some (one .undefinedVariable)
  | "VariableInaccessibleError" => some (one .hiddenVariable)
  | "SchemaDefinitionError" => some (.ok (.schemaDefinition (detailText details)))
  | "SchemaIncompatibleError" => some (.ok (.schemaMismatch (detailText details)))
  | "InvalidTask" => some (one .unknownTask)
  | "InvalidTaskTransition" => some (two .unknownTransition)
  | "AmbiguousTaskTransition" => some (two .ambiguousTransition)
  | "InvalidEventType" => some (two .wrongEventType)
  | "InvalidEvent" => some (one .wrongEvent)
  | "InvalidStatus" => some (one .wrongStatus)
  | "InvalidStatusTransition" => some (two .statusTransition)
  | "InvalidTaskStatusTransition" => some (two .taskEvent)
  | "InvalidWorkflowStatusTransition" => some (two .workflowEvent)
  | "InvalidTaskStateEntry" => some (one .notStaged)
  | "WorkflowInspectionError" =>
    match details with
    | [errors] => some (.ok (.inspection errors))
    | _ => some (.error wrongDetails)
  | "WorkflowContextError" => some (.ok (.context (detailText details)))
  | "WorkflowLogEntryError" => some (.ok (.logEntry (detailText details)))
  | "WorkflowIsActiveAndNotRerunableError" =>
    some (if details.isEmpty then .ok .stillActive else .error wrongDetails)
  | "InvalidTaskRerunRequest" =>
    match details with
    | [.list []] | [.map []] | [.str ""] => some (.ok (.cannotRerun []))
    | [.list _] | [.map _] | [.str _] => some (.error (.broken .noAttribute "no task"))
    | _ => some (.error wrongDetails)
  | "UnreachableJoinError" => some (two .unreachableJoin)
  | "WorkflowRehearsalError" => some (.ok (.rehearsal (detailText details)))
  | _ => none

end Error

end Orchestration
