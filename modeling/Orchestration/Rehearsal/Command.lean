import Orchestration.Expression.Engine
import Orchestration.Rehearsal.Verdict

/-!
The command that rehearses tests from files.
-/

namespace Orchestration.Rehearsal

/-! ### Arguments -/

structure Arguments where
  base : String
  test : Option String
  directory : Option String
  debug : Bool

inductive Choice where
  | base
  | test
  | directory
  | debug
  | help
  deriving DecidableEq, Repr

namespace Choice

def long : List (String × Choice) :=
  [("--help", .help), ("--base-path", .base), ("--test-spec", .test), ("--test-spec-dir", .directory),
   ("--debug", .debug)]

def short : List (Char × Choice) := [('h', .help), ('p', .base), ('f', .test), ('d', .directory)]

def takesValue : Choice → Bool
  | .debug | .help => false
  | _ => true

/-- The choices that a long word may mean. It may be cut short. -/
def ofLong (word : String) : List Choice :=
  match long.lookup word with
  | some c => [c]
  | none => (long.filter fun (name, _) => Text.startsWith name word).map (·.2)

end Choice

def isNegative (cs : List Char) : Bool :=
  match cs with
  | '-' :: rest =>
    let whole := rest.takeWhile Char.isDigit
    match rest.dropWhile Char.isDigit with
    | [] => !whole.isEmpty
    | '.' :: decimals => !decimals.isEmpty && decimals.all Char.isDigit
    | _ => false
  | _ => false

def nameIn (word : String) : String := (Text.splitText "=" word).headD ""

def isKnown (word : String) : Bool :=
  match word.toList with
  | '-' :: '-' :: _ => !(Choice.ofLong (nameIn word)).isEmpty
  | '-' :: letter :: _ => (Choice.short.lookup letter).isSome
  | _ => false

def isChoice (word : String) : Bool :=
  match word.toList with
  | '-' :: _ :: _ => isKnown word || !(isNegative word.toList || Text.contains word " ")
  | _ => false

def isUnclear (word : String) : Bool :=
  Text.startsWith word "--" && word != "--" && (Choice.ofLong (nameIn word)).length > 1

/-- Why the arguments are not taken: they are wrong, or help was asked for. -/
inductive Refusal where
  | usage
  | help

abbrev Chosen := List (Choice × String)

def clashes (chosen : Chosen) : Choice → Bool
  | .test => chosen.any (·.1 == .directory)
  | .directory => chosen.any (·.1 == .test)
  | _ => false

def choose (chosen : Chosen) (c : Choice) (v : String) : Except Refusal Chosen :=
  if c = .help then .error .help
  else if clashes chosen c then .error .usage
  else .ok (chosen ++ [(c, v)])

/-- A word of one-letter choices, of which the last may take what is left of the word as its
value. -/
def readShort (chosen : Chosen) : List Char → Except Refusal (Chosen × Option Choice)
  | [] => .ok (chosen, none)
  | letter :: rest =>
    match Choice.short.lookup letter with
    | none => .error .usage
    | some c =>
      if c.takesValue then
        match rest with
        | [] => .ok (chosen, some c)
        | '=' :: value => do .ok (← choose chosen c (String.ofList value), none)
        | value => do .ok (← choose chosen c (String.ofList value), none)
      else do readShort (← choose chosen c "") rest

def readLong (chosen : Chosen) (c : Choice) (values : List String) :
    Except Refusal (Chosen × Option Choice) :=
  match values, c.takesValue with
  | [], true => .ok (chosen, some c)
  | [], false => do .ok (← choose chosen c "", none)
  | _, true => do .ok (← choose chosen c ("=".intercalate values), none)
  | _, false => .error .usage

/-- A word that is a choice, with its value if that is in the word. The choice waits for a value
that is not. -/
def readChoice (chosen : Chosen) (word : String) : Except Refusal (Chosen × Option Choice) :=
  match word.toList with
  | '-' :: '-' :: _ =>
    match Choice.ofLong (nameIn word) with
    | [c] => readLong chosen c (Text.splitText "=" word).tail
    | _ => .error .usage
  | _ :: letters => readShort chosen letters
  | [] => .error .usage

def readWords (chosen : Chosen) (stray : Bool) :
    Option Choice → List String → Except Refusal (Chosen × Bool)
  | none, [] => .ok (chosen, stray)
  | some _, [] => .error .usage
  | some c, word :: rest => do
    if isChoice word then .error .usage
    else readWords (← choose chosen c word) stray none rest
  | none, word :: rest => do
    if isChoice word && isKnown word then
      let (chosen, waiting) ← readChoice chosen word
      readWords chosen stray waiting rest
    else readWords chosen true none rest

def lastOf (chosen : Chosen) (c : Choice) : Option String :=
  ((chosen.filter (·.1 == c)).getLast?).map (·.2)

def Arguments.read (words : List String) : Except Refusal Arguments := do
  if words.any isUnclear then throw .usage
  let (chosen, stray) ← readWords [] false none words
  let test := lastOf chosen .test
  let directory := lastOf chosen .directory
  match lastOf chosen .base with
  | none => .error .usage
  | some base =>
    if stray || (test.isNone && directory.isNone) then .error .usage
    else .ok ⟨base, test, directory, (lastOf chosen .debug).isSome⟩

/-! ### Running -/

structure Report where
  log : List LogLine
  result : Except Error Unit

abbrev Reporting := ExceptT Error (StateM (List LogLine))

def say (level : LogLevel) (text : String) : Reporting Unit := modify (· ++ [⟨level, text⟩])

def report {α : Type} (x : Except Error α) : Reporting α :=
  match x with
  | .ok a => pure a
  | .error e => throw e

def processFile (files : Files) (base : String) (test : Value) : Reporting Unit := do
  let path := base ++ "/" ++ test.text
  if !files.isFile path then
    throw (.rehearsal ("The test spec " ++ quote path ++ " does not exist."))
  say .info ("Initiating test spec " ++ quote path ++ ".")
  let rehearsal ← report (load files .null test (.str base))
  say .info ("The test spec " ++ quote path ++ " is successfully loaded.")
  let (result, after) := rehearse.run rehearsal
  modify (· ++ after.log)
  report result
  say .info "Completed running test and the workflow execution matches the test spec."

def processAll (files : Files) (base : String) : List String → Reporting Bool
  | [] => return false
  | test :: rest => do
    let failed ← try
        processFile files base (.str test)
        pure false
      catch e =>
        say .error e.message
        pure true
    return (← processAll files base rest) || failed

def processDirectory (files : Files) (base directory : String) : Reporting Unit := do
  let path := base ++ "/" ++ directory
  if !files.isDirectory path then
    throw (.rehearsal ("The test spec directory " ++ quote path ++ " does not exist."))
  say .info ("Using the test spec directory " ++ quote path ++ ".")
  let tests := ((files.entries path).filter fun name => files.isFile (path ++ "/" ++ name)).map (directory ++ "/" ++ ·)
  say .info ("Identified the following test specs in the directory: " ++ ", ".intercalate tests)
  if ← processAll files base tests then
    throw (.rehearsal "There are errors processing test specs. Please review details above.")

def process (files : Files) (a : Arguments) : Reporting Unit := do
  if !files.isDirectory a.base then
    throw (.rehearsal ("The base path " ++ quote a.base ++ " does not exist."))
  match a.directory.getD "" with
  | "" => processFile files a.base ((a.test.map Value.str).getD .null)
  | directory => processDirectory files a.base directory

/-- Runs the command. What is only of use for finding faults is left out unless it is asked for. -/
def run (files : Files) (a : Arguments) : Report :=
  let (result, log) := (process files a).run []
  ⟨if a.debug then log else log.filter (·.level != .debug), result⟩

end Orchestration.Rehearsal
