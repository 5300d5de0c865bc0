import Orchestration.Error
import Orchestration.Text.Escape

/-!
Escapes and character sets of texts that are given as values.
-/

namespace Orchestration.Value

def unescape (v : Value) : Except Error Value :=
  match v with
  | .str s =>
    match Text.unescape s with
    | some t => .ok (.str t)
    | none => .error (.broken .decoding "cannot decode")
  | _ => .error (.broken .type "encoding without a string argument")

/-- The character set of a text in ASCII; an empty one has none. -/
def charset (v : Value) : Value := if v.truthy then .str "ascii" else .null

end Orchestration.Value
