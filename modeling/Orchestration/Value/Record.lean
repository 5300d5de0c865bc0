import Orchestration.Calendar.Notation
import Orchestration.Value.Entries

/-!
Records as plain data.

Only some kinds of value are kept, and moments are written as text.
-/

namespace Orchestration.Value

def isKept : Value → Bool
  | .str _ | .bool _ | .moment _ | .map _ | .float _ | .int _ | .list _ => true
  | _ => false

def writeRecord (entries : Entries) : Except Error Entries :=
  (entries.filter fun (_, v) => v.isKept).mapM fun (k, v) => do
    if Calendar.Notation.names v then
      .ok (k, .str (← Calendar.Notation.format v true true))
    else .ok (k, v)

def readRecord (entries : Entries) : Except Error Entries :=
  (entries.filter fun (_, v) => v.isKept).mapM fun (k, v) => do
    if Calendar.Notation.names v then
      match v with
      | .str s => .ok (k, .moment (← Calendar.Notation.read s))
      | _ => .ok (k, v)
    else .ok (k, v)

end Orchestration.Value
