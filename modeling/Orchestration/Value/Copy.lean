import Orchestration.Value.Text

/-!
Copies.

A value that can be written as plain data is copied by writing and reading it, and then every tuple
has become a list and every key text. Any other value is copied as it stands.
-/

namespace Orchestration.Value

def fitsWord (n : Int) : Bool := -(Int.pow 2 63) ≤ n && n < Int.pow 2 64

mutual

/-- Whether a value is plain data: no moments, no sets, no number beyond the words of the writer. -/
def isPlain : Value → Bool
  | .null | .bool _ | .str _ => true
  | .int n => fitsWord n
  | .float x => Number.isFinite x
  | .list items | .tuple items => arePlain items
  | .map entries => entriesPlain entries
  | .date _ | .moment _ | .set _ | .named _ | .object _ => false

def arePlain : List Value → Bool
  | [] => true
  | v :: rest => isPlain v && arePlain rest

def entriesPlain : List (Value × Value) → Bool
  | [] => true
  | (_, v) :: rest => isPlain v && entriesPlain rest

end

def plainKey : Value → Value
  | .str s => .str s
  | .null => .str "null"
  | v => .str v.text

mutual

/-- A plain value as it is read back. -/
def replain : Value → Value
  | .list items | .tuple items => .list (replainItems items)
  | .map entries => .map (Entries.ofList (replainEntries entries))
  | v => v

def replainItems : List Value → List Value
  | [] => []
  | v :: rest => replain v :: replainItems rest

def replainEntries : List (Value × Value) → List (Value × Value)
  | [] => []
  | (k, v) :: rest => (plainKey k, replain v) :: replainEntries rest

end

def copy (v : Value) : Value := if v.isPlain then v.replain else v

end Orchestration.Value
