import Orchestration.Text.Class

/-!
Upper and lower case.

Most letters change case by a fixed distance that a whole run of letters shares; a run goes up in
steps of one or two. A few letters become several.
-/

namespace Orchestration.Text

namespace Case

/-- Runs to lower case: how far a run begins after the end of the one before it, how far it goes on
and its step, if these are not nothing and one, and the distance to the other case; `m` marks a
distance downward. -/
def lowerRuns : String :=
  "c0-16-20 2-6-20 22-2e-2-1 4-4-2-1 3-e-2-1 3-2c-2-1 2-m79 1-4-2-1 4-d2 1-2-2-1 2-ce 1-1 2-1-cd 1-1 3-4f 1-ca 1-cb " ++
  "1-1 2-cd 1-cf 2-d3 1-d1 1-1 4-d3 1-d5 2-d6 1-4-2-1 2-da 1-1 2-da 3-1 2-da 1-1 2-1-d9 1-2-2-1 2-db 1-1 4-1 8-2 " ++
  "1-1 2-2 1-1 2-2 1-10-2-1 3-10-2-1 3-2 1-2-2-1 2-m61 1-m38 1-26-2-1 2-m82 2-10-2-1 8-2a2b 1-1 2-ma3 1-2a28 3-1 " ++
  "2-mc3 1-45 1-47 1-8-2-1 122-2-2-1 4-1 9-74 7-26 2-2-25 2-40 2-1-3f 2-10-20 2-8-20 24-8 9-16-2-1 6-m3c 3-1 2-m7 " ++
  "1-1 3-2-m82 1-f-50 1-1f-20 31-20-2-1 a-34-2-1 2-f 1-c-2-1 3-5e-2-1 3-25-30 b4a-25-1c60 2-1c60 6-1c60 2d3-4f-97d0 " ++
  "1-5-8 89b-2a-mbc0 3-2-mbc0 141-94-2-1 a-m1dbf 2-5e-2-1 a-7-m8 9-5-m8 b-7-m8 9-7-m8 9-5-m8 c-6-2-m8 9-7-m8 " ++
  "19-7-m8 9-7-m8 9-7-m8 9-1-m8 1-1-m4a 1-m9 c-3-m56 1-m9 c-1-m8 1-1-m64 d-1-m8 1-1-m70 1-m7 c-1-m80 1-1-m7e 1-m9 " ++
  "12a-m1d5d 4-m20bf 1-m2046 7-1c 2e-f-10 14-1 333-19-1a 731-2f-30 31-1 2-m29f7 1-mee6 1-m29e7 3-4-2-1 2-m2a1c " ++
  "1-m29fd 1-m2a1f 1-m2a1e 2-1 3-1 9-1-m2a3f 1-62-2-1 9-2-2-1 5-1 794e-2c-2-1 14-1a-2-1 88-c-2-1 4-3c-2-1 b-2-2-1 " ++
  "2-m8a04 1-8-2-1 5-1 2-ma528 3-2-2-1 4-12-2-1 2-ma544 1-ma54f 1-ma54b 1-ma541 1-ma544 2-ma512 1-ma52a 1-ma515 " ++
  "1-3a0 1-e-2-1 2-m30 1-ma543 1-m8a38 1-2-2-1 7-1 6-2-2-1 1d-1 572c-19-20 4c6-27-28 89-23-28 9d-a-27 2-e-27 2-6-27 " ++
  "2-1-27 6eb-32-40 bee-1f-20 5581-1f-20 7aa1-21-22"

def upperRuns : String :=
  "b5-2e7 2b-16-m20 2-6-m20 1-79 2-2e-2-m1 2-me8 2-4-2-m1 3-e-2-m1 3-2c-2-m1 3-4-2-m1 1-m12c 1-c3 3-2-2-m1 3-m1 " ++
  "4-m1 6-m1 3-61 4-m1 1-a3 4-82 3-4-2-m1 3-m1 5-m1 3-m1 4-2-2-m1 3-m1 4-m1 2-38 6-m1 1-m2 2-m1 1-m2 2-m1 1-m2 " ++
  "2-e-2-m1 1-m4f 2-10-2-m1 3-m1 1-m2 2-m1 4-26-2-m1 4-10-2-m1 9-m1 3-1-2a3f 2-m1 5-8-2-m1 1-2a1f 1-2a1c 1-2a1e " ++
  "1-md2 1-mce 2-1-mcd 2-mca 2-mcb 1-a54f 4-mcd 1-a54b 2-mcf 2-a528 1-a544 2-md1 1-md3 1-a544 1-29f7 1-a541 3-md3 " ++
  "2-29fd 1-md5 3-md6 8-29e7 3-mda 2-a543 1-mda 4-a52a 1-mda 1-m45 1-1-md9 1-m47 6-mdb b-a515 1-a512 a7-54 " ++
  "2c-2-2-m1 4-m1 4-2-82 2f-m26 1-2-m25 2-10-m20 1-m1f 1-8-m20 1-m40 1-1-m3f 2-m3e 1-m39 4-m2f 1-m36 1-m8 2-16-2-m1 " ++
  "1-m56 1-m50 1-7 1-m74 2-m60 3-m1 3-m1 35-1f-m20 1-f-m50 2-20-2-m1 a-34-2-m1 3-c-2-m1 1-mf 2-5e-2-m1 32-25-m30 " ++
  "b4a-2a-bc0 3-2-bc0 2f9-5-m8 883-m186e 1-m186d 1-m1864 1-1-m1862 1-m1863 1-m185c 1-m1825 1-89c2 f1-8a04 4-ee6 " ++
  "11-8a38 73-94-2-m1 6-m3b 6-5e-2-m1 1-7-8 9-5-8 b-7-8 9-7-8 9-5-8 c-6-2-8 9-7-8 9-1-4a 1-3-56 1-1-64 1-1-80 " ++
  "1-1-70 1-1-7e 33-1-8 d-m1c25 12-1-8 f-1-8 4-7 169-m1c 22-f-m10 5-m1 34c-19-m1a 747-2f-m30 2-m1 4-m2a2b 1-m2a28 " ++
  "2-4-2-m1 7-m1 3-m1 b-62-2-m1 9-2-2-m1 5-m1 d-25-m1c60 2-m1c60 6-m1c60 7914-2c-2-m1 14-1a-2-m1 88-c-2-m1 " ++
  "4-3c-2-m1 b-2-2-m1 3-8-2-m1 5-m1 5-2-2-m1 1-30 3-12-2-m1 c-e-2-m1 5-2-2-m1 7-m1 6-2-2-m1 1d-m1 35d-m3a0 " ++
  "1d-4f-m97d0 5382-19-m20 4ce-27-m28 89-23-m28 9c-a-m27 2-e-m27 2-6-m27 2-1-m27 704-32-m40 bce-1f-m20 5581-1f-m20 " ++
  "7aa3-21-m22"

/-- Letters whose upper case has several letters: how far each comes after the one before it, and
what it becomes. -/
def upperLong : String :=
  "df-53-53 6a-2bc-4e a7-4a-30c 1a0-399-308-301 20-3a5-308-301 1d7-535-552 190f-48-331 1-54-308 1-57-30a 1-59-30a " ++
  "1-41-2be b6-3a5-313 2-3a5-313-300 2-3a5-313-301 2-3a5-313-342 2a-1f08-399 1-1f09-399 1-1f0a-399 1-1f0b-399 " ++
  "1-1f0c-399 1-1f0d-399 1-1f0e-399 1-1f0f-399 1-1f08-399 1-1f09-399 1-1f0a-399 1-1f0b-399 1-1f0c-399 1-1f0d-399 " ++
  "1-1f0e-399 1-1f0f-399 1-1f28-399 1-1f29-399 1-1f2a-399 1-1f2b-399 1-1f2c-399 1-1f2d-399 1-1f2e-399 1-1f2f-399 " ++
  "1-1f28-399 1-1f29-399 1-1f2a-399 1-1f2b-399 1-1f2c-399 1-1f2d-399 1-1f2e-399 1-1f2f-399 1-1f68-399 1-1f69-399 " ++
  "1-1f6a-399 1-1f6b-399 1-1f6c-399 1-1f6d-399 1-1f6e-399 1-1f6f-399 1-1f68-399 1-1f69-399 1-1f6a-399 1-1f6b-399 " ++
  "1-1f6c-399 1-1f6d-399 1-1f6e-399 1-1f6f-399 3-1fba-399 1-391-399 1-386-399 2-391-342 1-391-342-399 5-391-399 " ++
  "6-1fca-399 1-397-399 1-389-399 2-397-342 1-397-342-399 5-397-399 6-399-308-300 1-399-308-301 3-399-342 " ++
  "1-399-308-342 b-3a5-308-300 1-3a5-308-301 1-3a1-313 2-3a5-342 1-3a5-308-342 b-1ffa-399 1-3a9-399 1-38f-399 " ++
  "2-3a9-342 1-3a9-342-399 5-3a9-399 db04-46-46 1-46-49 1-46-4c 1-46-46-49 1-46-46-4c 1-53-54 1-53-54 d-544-546 " ++
  "1-544-535 1-544-53b 1-54e-546 1-544-53d"

/-- Letters whose case at the head of a word is not their upper case. -/
def titleRuns : String :=
  "1c4-1 1-0 1-m1 1-1 1-0 1-m1 1-1 1-0 1-m1 25-1 1-0 1-m1 edd-2a-0 3-2-0 e81-7-8 1-7-0 1-7-8 1-7-0 1-7-8 1-7-0 4-9 " ++
  "9-0 7-9 9-0 27-9 9-0"

/-- Letters that become several at the head of a word, other than in upper case. -/
def titleLong : String :=
  "df-53-73 4a8-535-582 1a2b-1fba-345 2-386-345 3-391-342-345 b-1fca-345 2-389-345 3-397-342-345 2b-1ffa-345 " ++
  "2-38f-345 3-3a9-342-345 db09-46-66 1-46-69 1-46-6c 1-46-66-69 1-46-66-6c 1-53-74 1-53-74 d-544-576 1-544-565 " ++
  "1-544-56b 1-54e-576 1-544-56d"

/-- Runs from letters to what stands for them where case makes no difference, other than in lower
case. -/
def foldRuns : String :=
  "b5-307 ca-m10c 1c6-74 7d-1 e-m1e 1-m19 4-mf 1-m16 1a-m36 1-m30 4-m40 fab-55-0 3-5-m8 883-m184e 1-m184d 1-m1844 " ++
  "1-1-m1842 1-m1843 1-m183c 1-m1824 1-89c3 213-m3a 123-m1c05 8bb2-4f-m97d0"

structure Run where
  first : Nat
  last : Nat
  step : Nat
  distance : Int

def splitWords (separator : Char) (cs : List Char) : List (List Char) :=
  cs.foldr (fun c acc =>
    if c == separator then [] :: acc
    else match acc with
      | word :: rest => (c :: word) :: rest
      | [] => [[c]]) [[]]

def signedValue (cs : List Char) : Int :=
  if cs.head? == some 'm' then -hexValue (cs.drop 1) else hexValue cs

/-- The run of a word, after a run that ends at `before`. -/
def Run.read (before : Nat) (word : List Char) : Option Run :=
  match splitWords '-' word with
  | gap :: more =>
    let first := before + hexValue gap
    match more with
    | [length, step, distance] =>
      some ⟨first, first + hexValue length, hexValue step, signedValue distance⟩
    | [length, distance] => some ⟨first, first + hexValue length, 1, signedValue distance⟩
    | [distance] => some ⟨first, first, 1, signedValue distance⟩
    | _ => none
  | [] => none

def Run.readAll (before : Nat) : List (List Char) → List Run
  | [] => []
  | word :: rest => match Run.read before word with
    | some r => r :: readAll r.last rest
    | none => readAll before rest

def Run.shift? (r : Run) (n : Nat) : Option Nat :=
  if r.first ≤ n && n ≤ r.last && (n - r.first) % r.step == 0 then some (n + r.distance).toNat
  else none

def runs (text : String) : List Run := Run.readAll 0 (splitWords ' ' text.toList)

def readLongs (before : Nat) : List (List Char) → List (Nat × List Char)
  | [] => []
  | word :: rest => match splitWords '-' word with
    | gap :: letters =>
      let code := before + hexValue gap
      (code, letters.map (Char.ofNat ∘ hexValue)) :: readLongs code rest
    | [] => readLongs before rest

def longs (text : String) : List (Nat × List Char) := readLongs 0 (splitWords ' ' text.toList)

def lowerTable : List Run := runs lowerRuns

def upperTable : List Run := runs upperRuns

def upperLongTable : List (Nat × List Char) := longs upperLong

def titleTable : List Run := runs titleRuns

def titleLongTable : List (Nat × List Char) := longs titleLong

def foldTable : List Run := runs foldRuns

def applyRuns (table : List Run) (c : Char) : Option Char :=
  (table.findSome? (·.shift? c.toNat)).map Char.ofNat

def lowerChar (c : Char) : List Char :=
  if c.toNat < 128 then [c.toLower]
  else if c.toNat == 0x130 then [Char.ofNat 0x69, Char.ofNat 0x307]
  else [(applyRuns lowerTable c).getD c]

def upperChar (c : Char) : List Char :=
  if c.toNat < 128 then [c.toUpper]
  else match upperLongTable.lookup c.toNat with
    | some cs => cs
    | none => [(applyRuns upperTable c).getD c]

def titleChar (c : Char) : List Char :=
  if c.toNat < 128 then [c.toUpper]
  else match titleLongTable.lookup c.toNat with
    | some cs => cs
    | none => match applyRuns titleTable c with
      | some d => [d]
      | none => upperChar c

/-- Letters that become several where case makes no difference: those whose upper case has several
letters, and the capital sharp s. -/
def foldLongTable : List (Nat × List Char) :=
  (0x1e9e, ['s', 's']) :: upperLongTable.map fun long => (long.1, long.2.flatMap lowerChar)

/-- What stands for a letter where case makes no difference. -/
def foldChar (c : Char) : List Char :=
  if c.toNat < 128 then [c.toLower]
  else match foldLongTable.lookup c.toNat with
    | some cs => cs
    | none => match applyRuns foldTable c with
      | some d => [d]
      | none => lowerChar c

/-- Whether the next sign of a text that is not passed over has case. -/
def meetsCased (cs : List Char) : Bool := ((cs.dropWhile isPassedOver).head?.map isCased).getD false

/-- The lower case of a letter between others; those before it come last first. A capital sigma at
the end of a word is the final one. -/
def lowerBetween (before : List Char) (c : Char) (after : List Char) : List Char :=
  if c.toNat == 0x3a3 then
    [Char.ofNat (if meetsCased before && !meetsCased after then 0x3c2 else 0x3c3)]
  else lowerChar c

/-- Changes each letter of a text, given what stands before and after it. -/
def mapBetween (f : List Char → Char → List Char → List Char) (before : List Char) :
    List Char → List Char
  | [] => []
  | c :: after => f before c after ++ mapBetween f (c :: before) after

/-- Title case: the first letter of each run of letters with case is raised, the others lowered. -/
def titleBetween (before : List Char) (c : Char) (after : List Char) : List Char :=
  if (before.head?.map isCased).getD false then lowerBetween before c after else titleChar c

/-- The first character raised, all others lowered. -/
def capitalBetween (before : List Char) (c : Char) (after : List Char) : List Char :=
  if before.isEmpty then titleChar c else lowerBetween before c after

def swapBetween (before : List Char) (c : Char) (after : List Char) : List Char :=
  if isCapital c then lowerBetween before c after else if isSmall c then upperChar c else [c]

end Case

def mapLetters (f : List Char → Char → List Char → List Char) (s : String) : String :=
  String.ofList (Case.mapBetween f [] s.toList)

def lower (s : String) : String := mapLetters Case.lowerBetween s

def upper (s : String) : String := String.ofList (s.toList.flatMap Case.upperChar)

def title (s : String) : String := mapLetters Case.titleBetween s

def capitalize (s : String) : String := mapLetters Case.capitalBetween s

def swapCase (s : String) : String := mapLetters Case.swapBetween s

/-- The text that stands for another one where case makes no difference. -/
def fold (s : String) : String := String.ofList (s.toList.flatMap Case.foldChar)

end Orchestration.Text
