import Orchestration.Error
import Orchestration.Text.Blank
import Orchestration.Value.Order

/-!
Trees of files that can be read.

A tree is given by its files with their texts, and by directories, which may be empty. A path that
does not start at the root starts at home. It is followed part by part, and all but its last part
have to be directories.
-/

namespace Orchestration

structure Files where
  /-- All places are the parts of paths from the root on. -/
  home : List String
  texts : List (List String × String)
  directories : List (List String)

namespace Files

/-- Nothing but the root. -/
def none : Files := ⟨[], [], []⟩

/-- The parts of a path as it is written; empty parts and points are left out. -/
def parts (path : String) : List String :=
  (Text.splitText "/" path).filter fun part => part != "" && part != "."

def ofTexts (base : String) (texts : List (String × String)) : Files :=
  ⟨[], texts.map fun (path, text) => (parts base ++ parts path, text), [parts base]⟩

def textAt? (files : Files) (place : List String) : Option String := files.texts.lookup place

def isDirectoryAt (files : Files) (place : List String) : Bool :=
  place.isEmpty || files.directories.any (fun directory => place.isPrefixOf directory) ||
    files.texts.any fun (file, _) => place.isPrefixOf file && place != file

def follow (files : Files) (place : List String) : List String → Except Fault (List String)
  | [] => .ok place
  | part :: rest =>
    if !files.isDirectoryAt place then
      .error (if (files.textAt? place).isSome then .noDirectory else .missingFile)
    else if part == "" || part == "." then files.follow place rest
    else if part == ".." then files.follow place.dropLast rest
    else files.follow (place ++ [part]) rest

def locate (files : Files) (path : String) : Except Fault (List String) :=
  if path.isEmpty then .error .missingFile
  else files.follow (if Text.startsWith path "/" then [] else files.home) (Text.splitText "/" path)

def find (files : Files) (path : String) : Except Fault String := do
  let place ← files.locate path
  match files.textAt? place with
  | some text => .ok text
  | Option.none => .error (if files.isDirectoryAt place then .isDirectory else .missingFile)

def isFile (files : Files) (path : String) : Bool :=
  match files.find path with
  | .ok _ => true
  | .error _ => false

def isDirectory (files : Files) (path : String) : Bool :=
  match files.locate path with
  | .ok place => files.isDirectoryAt place
  | .error _ => false

def faultText : Fault → String
  | .isDirectory => "[Errno 21] Is a directory"
  | .noDirectory => "[Errno 20] Not a directory"
  | _ => "[Errno 2] No such file or directory"

def read (files : Files) (path : String) : Except Error String :=
  match files.find path with
  | .ok text => .ok text
  | .error fault => .error (.broken fault (faultText fault ++ ": " ++ Text.quoted path))

def entries (files : Files) (directory : String) : List String :=
  match files.locate directory with
  | .error _ => []
  | .ok place =>
    let inside :=
      (files.texts.map (·.1) ++ files.directories).filter fun p => place.isPrefixOf p && place != p
    Value.sortTexts (inside.filterMap fun p => (p.drop place.length).head?).eraseDups

/-- The ending of a file name, from its last point on. Points at the beginning of the name do not
count. -/
def ending (path : String) : String :=
  let name := ((Text.splitText "/" path).getLast?).getD ""
  let stem := name.toList.dropWhile (· == '.')
  if stem.contains '.' then "." ++ String.ofList (stem.reverse.takeWhile (· != '.')).reverse else ""

end Files

end Orchestration
