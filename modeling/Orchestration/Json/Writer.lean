import Orchestration.Value.Text

/-!
Writing JSON: in one line, or over several lines with a step of indentation.

Characters above the ASCII range are written as escapes of their code units. A key that is not text
is written as text.
-/

namespace Orchestration.Json

def unitEscape (n : Nat) : List Char := '\\' :: 'u' :: Text.hexDigits 4 n

def escapeChar (c : Char) : List Char :=
  if c == '"' then ['\\', '"']
  else if c == '\\' then ['\\', '\\']
  else if c == '\n' then ['\\', 'n']
  else if c == '\r' then ['\\', 'r']
  else if c == '\t' then ['\\', 't']
  else if c == '\x08' then ['\\', 'b']
  else if c == '\x0c' then ['\\', 'f']
  else if 32 ≤ c.toNat && c.toNat < 127 then [c]
  else if c.toNat < 0x10000 then unitEscape c.toNat
  else
    let n := c.toNat - 0x10000
    unitEscape (0xD800 + n / 1024) ++ unitEscape (0xDC00 + n % 1024)

def quote (s : String) : String := String.ofList ('"' :: s.toList.flatMap escapeChar ++ ['"'])

def floatWord (x : Float) : String :=
  match Number.parts x with
  | .nan => "NaN"
  | .infinite negative => if negative then "-Infinity" else "Infinity"
  | .finite .. => Number.floatText x

def keyText : Value → String
  | .str s => s
  | .null => "null"
  | .bool b => if b then "true" else "false"
  | .float x => floatWord x
  | v => v.text

structure Style where
  comma : String
  colon : String
  indent : Option Nat

def oneLine : Style := ⟨", ", ": ", none⟩

def compact : Style := ⟨",", ":", none⟩

def indented (step : Nat) : Style := ⟨",", ": ", some step⟩

def Style.newline (style : Style) (depth : Nat) : String :=
  match style.indent with
  | none => ""
  | some step => "\n" ++ String.ofList (List.replicate (step * depth) ' ')

def Style.join (style : Style) (depth : Nat) (start finish : String) (parts : List String) :
    String :=
  if parts.isEmpty then start ++ finish
  else start ++ style.newline (depth + 1) ++
    (style.comma ++ style.newline (depth + 1)).intercalate parts ++ style.newline depth ++ finish

mutual

def writeAt (style : Style) (depth : Nat) : Value → String
  | .null => "null"
  | .bool b => if b then "true" else "false"
  | .int n => toString n
  | .float x => floatWord x
  | .str s => quote s
  | .list items | .tuple items | .set items =>
    style.join depth "[" "]" (writeItems style (depth + 1) items)
  | .map entries => style.join depth "\x7b" "\x7d" (writeEntries style (depth + 1) entries)
  | v => quote v.text

def writeItems (style : Style) (depth : Nat) : List Value → List String
  | [] => []
  | v :: rest => writeAt style depth v :: writeItems style depth rest

def writeEntries (style : Style) (depth : Nat) : List (Value × Value) → List String
  | [] => []
  | (k, v) :: rest =>
    (quote (keyText k) ++ style.colon ++ writeAt style depth v) :: writeEntries style depth rest

end

def write (style : Style) (v : Value) : String := writeAt style 0 v

end Orchestration.Json
