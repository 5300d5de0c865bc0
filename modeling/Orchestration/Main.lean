import Orchestration.Rehearsal.Command

/-!
The command line: rehearses tests from files.
-/

namespace Orchestration.CommandLine

/-- Adds a directory and all that is in it to some files. What cannot be read as text is left
out. -/
partial def collect (path : String) (place : List String) (files : Files) : IO Files := do
  let mut files := { files with directories := files.directories ++ [place] }
  for entry in ← ((← IO.currentDir) / path).readDir do
    let inner := path ++ "/" ++ entry.fileName
    let innerPlace := place ++ [entry.fileName]
    if ← entry.path.isDir then files ← collect inner innerPlace files
    else
      try
        let text ← IO.FS.readFile entry.path
        files := { files with texts := files.texts ++ [(innerPlace, text)] }
      catch _ => pure ()
  return files

def filesBelow (base : String) : IO Files := do
  let home := Files.parts (← IO.currentDir).toString
  let files : Files := ⟨home, [], [home]⟩
  let place := if base.startsWith "/" then Files.parts base else home ++ Files.parts base
  if ← ((← IO.currentDir) / base).isDir then collect base place files else return files

def usage : String :=
  "usage: A utility for testing orquesta workflows. [-h] -p BASE_PATH (-f TEST_SPEC | -d TEST_SPEC_DIR) [--debug]"

/-- Runs the command, and gives its exit code. -/
def run (words : List String) : IO UInt32 := do
  match Rehearsal.Arguments.read words with
  | .error .help =>
    IO.println usage
    return 0
  | .error .usage =>
    IO.eprintln usage
    return 2
  | .ok arguments =>
    let report := Rehearsal.run (← filesBelow arguments.base) arguments
    report.log.forM fun l => IO.eprintln l.line
    match report.result with
    | .ok () => return 0
    | .error e =>
      IO.eprintln e.line
      return 1

end Orchestration.CommandLine

def main (words : List String) : IO UInt32 := Orchestration.CommandLine.run words
