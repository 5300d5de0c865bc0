import Orchestration.Text.Blank

/-!
Looking for a word in a part of a text.

A part is given by two indices. A negative index counts from the end; indices beyond the ends mean
the ends, but a part that starts behind the end of the text holds nothing, not even an empty word.
-/

namespace Orchestration.Text

def bounds (length : Nat) (start stop : Int) : Int × Int :=
  let fromStart (n : Int) : Int := if n < 0 then max (n + length) 0 else n
  (fromStart start, min (fromStart stop) length)

def slice {α : Type} (items : List α) (start stop : Int) : List α :=
  let (first, last) := bounds items.length start stop
  (items.take last.toNat).drop first.toNat

def findBetween? (cs word : List Char) (start stop : Int) : Option Nat :=
  let (first, last) := bounds cs.length start stop
  if last - first < word.length then none
  else (cutFirst? word (slice cs first last)).map fun (before, _) => first.toNat + before.length

def findLastBetween? (cs word : List Char) (start stop : Int) : Option Nat :=
  let (first, last) := bounds cs.length start stop
  if last - first < word.length then none
  else (cutFirst? word.reverse (slice cs first last).reverse).map fun (after, _) =>
    last.toNat - after.length - word.length

def countBetween (cs word : List Char) (start stop : Int) : Nat :=
  let (first, last) := bounds cs.length start stop
  if last - first < word.length then 0
  else if word.isEmpty then (last - first).toNat + 1
  else (splitOn word (slice cs first last) none).length - 1

def startsBetween (cs word : List Char) (start stop : Int) : Bool :=
  let (first, last) := bounds cs.length start stop
  last - first ≥ word.length && (afterHead? word (slice cs first last)).isSome

def endsBetween (cs word : List Char) (start stop : Int) : Bool :=
  let (first, last) := bounds cs.length start stop
  last - first ≥ word.length && (afterHead? word.reverse (slice cs first last).reverse).isSome

end Orchestration.Text
