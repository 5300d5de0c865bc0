/-!
Blank characters, and trimming, splitting and replacing text.
-/

namespace Orchestration.Text

def isBlank (c : Char) : Bool :=
  let n := c.toNat
  (0x9 ≤ n && n ≤ 0xd) || (0x1c ≤ n && n ≤ 0x20) || n == 0x85 || n == 0xa0 || n == 0x1680 ||
    (0x2000 ≤ n && n ≤ 0x200a) || n == 0x2028 || n == 0x2029 || n == 0x202f || n == 0x205f || n == 0x3000

def trimStartOf (p : Char → Bool) (cs : List Char) : List Char := cs.dropWhile p

def trimEndOf (p : Char → Bool) (cs : List Char) : List Char := (cs.reverse.dropWhile p).reverse

def trimOf (p : Char → Bool) (s : String) : String :=
  String.ofList (trimEndOf p (trimStartOf p s.toList))

def trim (s : String) : String := trimOf isBlank s

def trimChars (cutset : String) (s : String) : String := trimOf (cutset.toList.contains ·) s

def afterHead? : List Char → List Char → Option (List Char)
  | [], cs => some cs
  | _ :: _, [] => none
  | w :: ws, c :: cs => if w == c then afterHead? ws cs else none

/-- Splits at the first place where `word` occurs, giving what stands before and after it. -/
def cutFirst? (word : List Char) : List Char → Option (List Char × List Char)
  | [] => if word.isEmpty then some ([], []) else none
  | c :: cs =>
    match afterHead? word (c :: cs) with
    | some rest => some ([], rest)
    | none => (cutFirst? word cs).map fun (before, after) => (c :: before, after)

/-- Splits from here on. The first `skip` characters belong to a separator, and `before` has, in
reverse, what has been read since the last one. -/
def splitFrom (separator : List Char) : Nat → Option Nat → List Char → List Char → List (List Char)
  | _, _, before, [] => [before.reverse]
  | skip + 1, limit, before, _ :: cs => splitFrom separator skip limit before cs
  | 0, limit, before, c :: cs =>
    if limit != some 0 && (afterHead? separator (c :: cs)).isSome then
      before.reverse :: splitFrom separator (separator.length - 1) (limit.map (· - 1)) [] cs
    else splitFrom separator 0 limit (c :: before) cs

/-- Splits at each occurrence of a separator that is not empty, at most `limit` times if given. -/
def splitOn (separator : List Char) (cs : List Char) (limit : Option Nat) : List (List Char) :=
  if separator.isEmpty then [cs] else splitFrom separator 0 limit [] cs

def splitText (separator s : String) : List String :=
  (splitOn separator.toList s.toList none).map String.ofList

/-- Splits at runs of blanks at most `limit` times; the rest keeps its own blanks. -/
def splitBlankAtMost : Nat → Nat → List Char → List (List Char)
  | 0, _, _ => []
  | fuel + 1, limit, cs =>
    let cs := cs.dropWhile isBlank
    if cs.isEmpty then []
    else if limit == 0 then [cs]
    else
      cs.takeWhile (!isBlank ·) ::
        splitBlankAtMost fuel (limit - 1) (cs.dropWhile (!isBlank ·))

/-- Replaces each occurrence of `old`. An empty `old` occurs between all characters. -/
def replaceChars (old new : List Char) (cs : List Char) (limit : Option Nat) : List Char :=
  if old.isEmpty then
    let count := (limit.getD (cs.length + 1)).min (cs.length + 1)
    let spread := (cs.zipIdx).flatMap fun (c, i) => if i < count then new ++ [c] else [c]
    if cs.length < count then spread ++ new else spread
  else new.intercalate (splitOn old cs limit)

def replace (s old new : String) : String :=
  String.ofList (replaceChars old.toList new.toList s.toList none)

def contains (s word : String) : Bool := (cutFirst? word.toList s.toList).isSome

def startsWith (s word : String) : Bool := (afterHead? word.toList s.toList).isSome

def endsWith (s word : String) : Bool := (afterHead? word.toList.reverse s.toList.reverse).isSome

end Orchestration.Text
