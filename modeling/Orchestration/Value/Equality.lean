import Orchestration.Value.Basic

/-!
When two values count as the same.

Numbers are the same when they have the same size, whatever their type, and the two truth values
count as one and zero. A list is never the same as a tuple. Mappings are the same when they have
the same entries in any order.
-/

namespace Orchestration.Value

/-- The number a value stands for among numbers. -/
inductive Numeric where
  | whole (n : Int)
  | real (x : Float)

def numeric? : Value → Option Numeric
  | .bool b => some (.whole (if b then 1 else 0))
  | .int n => some (.whole n)
  | .float x => some (.real x)
  | _ => none

namespace Numeric

def same : Numeric → Numeric → Bool
  | .whole m, .whole n => m == n
  | .real x, .real y => x == y
  | .whole n, .real x | .real x, .whole n => Number.compareWhole? x n == some .eq

/-- The order of numbers; nothing is in order with a number that is none. -/
def compare? : Numeric → Numeric → Option Ordering
  | .whole m, .whole n => some (compare m n)
  | .real x, .real y =>
    if x < y then some .lt else if x > y then some .gt else if x == y then some .eq else none
  | .real x, .whole n => Number.compareWhole? x n
  | .whole n, .real x => (Number.compareWhole? x n).map Ordering.swap

end Numeric

mutual

def same : Value → Value → Bool
  | .null, .null => true
  | .bool a, w => sameNumber (.whole (if a then 1 else 0)) w
  | .int m, w => sameNumber (.whole m) w
  | .float x, w => sameNumber (.real x) w
  | .str s, .str t => s == t
  | .date d, .date e => d == e
  | .moment m, .moment n =>
    m == n || (m.offset.isSome && n.offset.isSome && m.seconds == n.seconds && m.micro == n.micro)
  | .list xs, .list ys => sameItems xs ys
  | .tuple xs, .tuple ys => sameItems xs ys
  | .set xs, .set ys => xs.length == ys.length && allIn xs ys
  | .map es, .map fs => es.length == fs.length && allEntriesIn es fs
  | .named k, .named l => k == l
  | .object _, .object _ => false
  | _, _ => false

def sameNumber (n : Numeric) (w : Value) : Bool :=
  match numeric? w with
  | some m => n.same m
  | none => false

def sameItems : List Value → List Value → Bool
  | [], [] => true
  | x :: xs, y :: ys => same x y && sameItems xs ys
  | _, _ => false

def allIn : List Value → List Value → Bool
  | [], _ => true
  | x :: xs, ys => ys.any (fun y => same x y) && allIn xs ys

def allEntriesIn : List (Value × Value) → List (Value × Value) → Bool
  | [], _ => true
  | (k, v) :: rest, fs => fs.any (fun (l, w) => same k l && same v w) && allEntriesIn rest fs

end

instance : BEq Value := ⟨same⟩

mutual

/-- A value that may be a key: text, numbers, moments, and tuples of such values. -/
def hashable : Value → Bool
  | .list _ | .set _ | .map _ => false
  | .tuple items => allHashable items
  | _ => true

def allHashable : List Value → Bool
  | [] => true
  | v :: rest => hashable v && allHashable rest

end

end Orchestration.Value
