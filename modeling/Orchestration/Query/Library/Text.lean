import Orchestration.Query.Library.Numbers
import Orchestration.Text.Search
import Orchestration.Text.Shape

/-!
Functions of queries on text.
-/

namespace Orchestration.Query

namespace TextFunctions

open Overload (required optional fixed onOne onTwo wrongCall)
open Numbers (wholeOr testForm)

def string : Parameter := required "string" .text

def textOf : Argument → String
  | .term t => t.text
  | _ => ""

def charsOf (a : Argument) : List Char := (textOf a).toList

/-- Whether an argument was left out, or is `null`. -/
def isMissing : Argument → Bool
  | .missing | .term (.atom .null) => true
  | _ => false

/-- How many pieces a negative number allows: any. -/
def limitOf (n : Int) : Option Nat := if n < 0 then none else some n.toNat

def substring (s : String) (start length : Int) : String :=
  let size : Int := s.length
  let length := if length < 0 then size else length
  let start := if start < 0 then start + size else start
  String.ofList (Text.slice s.toList start (start + length))

/-- A place as a number; nowhere is minus one. -/
def placed (found : Option Nat) : Term := .int ((found.map Int.ofNat).getD (-1))

/-- The indices of a part that starts somewhere and has a length; a negative length goes to the
end. -/
def partOf (s : String) (start length : Int) : Int × Int :=
  let size : Int := s.length
  let start := if start < 0 then start + size else start
  let length := if length < 0 then size - start else length
  (start, start + length)

def texts (parts : List (List Char)) : Term := .list (parts.map fun p => Term.str (String.ofList p))

def split (s : String) (separator : Argument) (limit : Option Nat) : Eval Term :=
  if isMissing separator then
    return texts (Text.splitBlankAtMost (s.length + 1) (limit.getD s.length) s.toList)
  else if (textOf separator).isEmpty then throw (.broken .value "empty separator")
  else return texts (Text.splitOn (charsOf separator) s.toList limit)

def splitFromEnd (s : String) (separator : Argument) (limit : Option Nat) : Eval Term :=
  let backward (parts : List (List Char)) : Term := texts (parts.map List.reverse).reverse
  let cs := s.toList.reverse
  if isMissing separator then
    return backward (Text.splitBlankAtMost (s.length + 1) (limit.getD s.length) cs)
  else if (textOf separator).isEmpty then throw (.broken .value "empty separator")
  else return backward (Text.splitOn (charsOf separator).reverse cs limit)

def splitForm (name : String) (f : String → Argument → Option Nat → Eval Term) : Overload :=
  fixed name .method [string, optional "separator" .textOrNull, optional "maxSplits" .whole] fun
    | [.term s, separator, limit] => f s.text separator (limitOf (wholeOr (-1) limit))
    | _ => wrongCall

def joined (separator : String) (items : Term) : Eval Term := do
  return .str (separator.intercalate ((← Eval.items items).map Term.smallText))

def trimBoth (cut : Char → Bool) (cs : List Char) : List Char :=
  Text.trimEndOf cut (Text.trimStartOf cut cs)

def trimmed (f : (Char → Bool) → List Char → List Char) (s : String) (chars : Argument) : String :=
  let cut := if isMissing chars then Text.isBlank else (charsOf chars).contains
  String.ofList (f cut s.toList)

def chars : Parameter := optional "chars" .textOrNull

def trimForm (name : String) (f : (Char → Bool) → List Char → List Char) : Overload :=
  fixed name .method [string, chars] fun
    | [.term s, chars] => return .str (trimmed f s.text chars)
    | _ => wrongCall

def replaceAll (s old new : String) (count : Int) : String :=
  String.ofList (Text.replaceChars old.toList new.toList s.toList (limitOf count))

def replaceByMap (s : String) (entries : List (Value × Term)) (count : Int) : String :=
  entries.foldl (fun s (k, t) => replaceAll s (Term.ofValue k).smallText t.smallText count) s

def onText (name : String) (usage : Usage) (f : String → Term) : Overload :=
  onOne name usage "string" .text fun t => return f t.text

def affixForm (name : String) (test : String → String → Bool) : Overload :=
  ⟨name, .method, [string], some .text, false, false, fun c =>
    match c.arguments with
    | [.term s] => return .bool (c.more.any fun a => test s.text (textOf a))
    | _ => wrongCall⟩

def findForms (name : String) (find : List Char → List Char → Int → Int → Option Nat) :
    List Overload :=
  [fixed name .method [string, required "sub" .text, optional "start" .whole] fun
     | [.term s, sub, start] =>
       return placed (find s.text.toList (charsOf sub) (wholeOr 0 start) s.text.length)
     | _ => wrongCall,
   fixed name .method [string, required "sub" .text, required "start" .whole, required "length" .whole] fun
     | [.term s, sub, start, length] =>
       let (first, last) := partOf s.text (wholeOr 0 start) (wholeOr 0 length)
       return placed (find s.text.toList (charsOf sub) first last)
     | _ => wrongCall]

def isText : Term → Bool
  | .atom (.str _) => true
  | _ => false

def isEmpty (s : Argument) (trims : Argument) (chars : Argument) : Bool :=
  if isMissing s then true
  else
    let trimsSpaces := match trims with
      | .term t => t.truthy
      | _ => true
    (if trimsSpaces then trimmed trimBoth (textOf s) chars else textOf s).isEmpty

end TextFunctions

open TextFunctions Numbers Overload in
def textFunctions : List Overload :=
  [onOne "str" .function "value" .any fun t => return .str t.smallText,
   onText "toUpper" .method fun s => .str (Text.upper s),
   onText "toLower" .method fun s => .str (Text.lower s),
   onText "len" .both fun s => .int s.length,
   onText "toCharArray" .method fun s => .tuple (s.toList.map fun c => .str (String.singleton c)),
   splitForm "split" split,
   splitForm "rightSplit" splitFromEnd,
   onTwo "join" .method (required "sequence" .iterable) (required "separator" .text)
     fun items separator => joined separator.text items,
   onTwo "join" .method (required "separator" .text) (required "sequence" .iterable)
     fun separator items => joined separator.text items,
   fixed "substring" .method [string, required "start" .whole, optional "length" .whole] fun
     | [.term s, start, length] =>
       return .str (substring s.text (wholeOr 0 start) (wholeOr (-1) length))
     | _ => wrongCall,
   trimForm "trim" trimBoth,
   trimForm "trimLeft" Text.trimStartOf,
   trimForm "trimRight" Text.trimEndOf,
   fixed "norm" .both [required "string" .textOrNull, chars] fun
     | [s, chars] =>
       let left := if isMissing s then "" else trimmed trimBoth (textOf s) chars
       return if left.isEmpty then Term.null else .str left
     | _ => wrongCall,
   fixed "isEmpty" .both [required "string" .textOrNull, optional "trimSpaces" .any, chars] fun
     | [s, trims, chars] => return .bool (isEmpty s trims chars)
     | _ => wrongCall,
   fixed "replace" .method [string, required "old" .text, required "new" .text, optional "count" .whole] fun
     | [.term s, old, new, count] =>
       return .str (replaceAll s.text (textOf old) (textOf new) (wholeOr (-1) count))
     | _ => wrongCall,
   fixed "replace" .method [string, required "replacements" .mapping, optional "count" .whole] fun
     | [.term s, .term (.map _ entries), count] =>
       return .str (replaceByMap s.text entries (wholeOr (-1) count))
     | _ => wrongCall,
   affixForm "startsWith" Text.startsWith,
   affixForm "endsWith" Text.endsWith,
   ⟨"concat", .both, [], some .text, false, false, fun c => return .str (String.join (c.more.map textOf))⟩,
   testForm "isString" "arg" isText]
  ++ findForms "indexOf" Text.findBetween? ++ findForms "lastIndexOf" Text.findLastBetween?

end Orchestration.Query
