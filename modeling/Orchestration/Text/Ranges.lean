/-!
Sets of characters given as ranges of code points. A table says of each range how far it begins
after the end of the one before it, how far it goes on, and the step between its members, in base
sixteen: `41-19 5` stands for the codes from 41 to 5a and for 5f, and `100-2e-2` for every other
code from 100 to 12e.
-/

namespace Orchestration.Text

structure Range where
  low : Nat
  high : Nat
  step : Nat

def hexDigit? (c : Char) : Option Nat :=
  if '0' ≤ c ∧ c ≤ '9' then some (c.toNat - '0'.toNat)
  else if 'a' ≤ c ∧ c ≤ 'f' then some (c.toNat - 'a'.toNat + 10)
  else if 'A' ≤ c ∧ c ≤ 'F' then some (c.toNat - 'A'.toNat + 10)
  else none

def hexValue (cs : List Char) : Nat :=
  cs.foldl (fun n c => n * 16 + (hexDigit? c).getD 0) 0

namespace Range

def partsOf (word : List Char) : List (List Char) :=
  word.foldr (fun c parts =>
    if c == '-' then [] :: parts
    else match parts with
      | part :: rest => (c :: part) :: rest
      | [] => [[c]]) [[]]

/-- The range of a word, after a range that ends at `before`. -/
def read (before : Nat) (word : List Char) : Range :=
  match (partsOf word).map hexValue with
  | [gap, length, step] => ⟨before + gap, before + gap + length, step⟩
  | [gap, length] => ⟨before + gap, before + gap + length, 1⟩
  | parts => ⟨before + parts.headD 0, before + parts.headD 0, 1⟩

/-- Collects the ranges of a table, the current word held back to front. -/
def readAll (before : Nat) (current : List Char) : List Char → List Range
  | [] => if current.isEmpty then [] else [read before current.reverse]
  | c :: rest =>
    if c == ' ' then
      let r := read before current.reverse
      r :: readAll r.high [] rest
    else readAll before (c :: current) rest

def table (text : String) : Array Range := (readAll 0 [] text.toList).toArray

def holds (r : Range) (n : Nat) : Bool := r.low ≤ n && n ≤ r.high && (n - r.low) % r.step == 0

end Range

/-- Halves a sorted table until the place of `n` is found. -/
def searchRanges (ranges : Array Range) (n : Nat) : Nat → Nat → Nat → Bool
  | 0, _, _ => false
  | fuel + 1, low, high =>
    if low ≥ high then false
    else
      let middle := (low + high) / 2
      match ranges[middle]? with
      | none => false
      | some r =>
        if n < r.low then searchRanges ranges n fuel low middle
        else if r.high < n then searchRanges ranges n fuel (middle + 1) high
        else r.holds n

def inRanges (ranges : Array Range) (c : Char) : Bool :=
  searchRanges ranges c.toNat 64 0 ranges.size

end Orchestration.Text
