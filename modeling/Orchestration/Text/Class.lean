import Orchestration.Text.Word

/-!
Classes of characters: capital and small letters, title letters, what is passed over when the end of
a word is looked for, and the characters of identifiers.

Each table gives the members above the ASCII range.
-/

namespace Orchestration.Text

namespace Class

/-- Capital letters, and other signs that count as such. -/
def capitals : String :=
  "c0-16 2-6 22-36-2 3-e-2 3-2e-2 1-4-2 4-1 2 2-1 2-2 3-3 2-1 2-2 4-1 2-1 2-4-2 1 2 3 2-1 2-2 2 2-1 4 8 3 3 3-e-2 " ++
  "3-10-2 3 3 2-2 2-38-2 8-1 2-1 3 2-3 2-6-2 122 2 4 9 7 2-2 2 2-1 2-10 2-8 24 3-2 4-16-2 6 3 2-1 3-32 31-20-2 " ++
  "a-36-2 1-c-2 3-5e-2 3-25 b4a-25 2 6 2d3-55 89b-2a 3-2 141-94-2 a-60-2 a-7 9-5 b-7 9-7 9-5 c-6-2 9-7 49-3 d-3 " ++
  "d-3 d-4 c-3 107 5 4-2 3-2 3 4-4 7-6-2 1-2 3-3 b-1 6 1b-f 14 333-19 731-2f 31 2-2 3-6-2 1-2 2 3 9-2 2-60-2 9 2 " ++
  "5 794e-2c-2 14-1a-2 88-c-2 4-3c-2 b-4-2 1-8-2 5 2 3 2 4-14-2 1-3 2-4 2-e-2 1-2 2 7 6 2 1d 572c-19 4c6-27 89-23 " ++
  "9d-a 2-e 2-6 2-1 6eb-32 bee-1f 5581-1f 65a1-19 1b-19 1b-19 1b 2-1 3 3-1 3-3 2-7 1b-19 1b-1 2-3 3-7 2-6 1c-1 " ++
  "2-3 2-4 2 4-6 1c-19 1b-19 1b-19 1b-19 1b-19 1b-19 1f-18 22-18 22-18 22-18 22-18 22 1136-21 80f-19 7-19 7-19"

/-- Small letters, and other signs that count as such. -/
def smalls : String :=
  "aa b 5 25-17 2-7 2-36-2 1-10-2 1-2e-2 3-4-2 1-1 3 2 3 4-1 5 3 4-2 3 3-4-2 3 2-1 2 3 4 2 3-1 3-2 7 3 3-10-2 " ++
  "1-12-2 1 3 2 4-3a-2 1-5 3 3-1 2 5-8-2 1-43 2-23 8-1 1f-4 61 2c 2 4 3-3 13 1c-22 2-1 4-2 2-16-2 1-3 2 3 3-1 " ++
  "34-2f 2-20-2 a-34-2 3-c-2 1-60-2 31-28 b48-2a 3-2 2f9-5 883-8 78-bf 42-94-2 1-7 2-60-2 1-7 9-5 b-7 9-7 9-5 b-7 " ++
  "9-7 9-d 3-7 9-7 9-7 9-4 2-1 7 4-2 2-1 9-3 3-1 9-7 b-2 2-1 7a e 11-c 6e 4-1 4 1c 5 5 3-1 9-3 5 22-f 5 34c-19 " ++
  "747-2f 2 4-1 2-4-2 5 2-1 2-7 4-62-2 1 8 2 5 d-25 2 6 7914-2c-2 14-1a-2 1-1 86-c-2 1-1 2-3c-2 1-8 2 2 3-8-2 5 2 " ++
  "3 2-2 2-12-2 6 6-e-2 5 2 7-8-2 1d 2-2 336-2a 2-c 8-4f 4f41-6 d-4 42a-19 4ce-27 89-23 9c-a 2-e 2-6 2-1 1c4 3-2 " ++
  "2-29 2-8 506-32 bce-1f 5581-1f 659b-19 1b-6 2-11 1b-19 1b-3 2 2-6 2-a 1b-19 1b-19 1b-19 1b-19 1b-19 1b-19 " ++
  "1b-19 1b-19 1b-1b 1d-18 2-5 1b-18 2-5 1b-18 2-5 1b-18 2-5 1b-18 2-5 2 735-9 2-13 a04-21"

/-- Pairs of letters of which only the first is a capital. -/
def titles : String :=
  "1c5 3 3 27 1d96-7 9-7 9-7 d 10 30"

/-- Signs that do not end a word, nor begin one. -/
def passedOver : String :=
  "a8 5 2 5 3-1 1f8-bf 5-1 5 a-1 2 fc-6 d0 6 32-2c 2 2-1 2-1 2 2d c-5 b-a 2 24 b-14 11 66-7 2-9 2-3 22 2 1f-1a " ++
  "5c-a 3b-a 5 3 19-17 2c-2 2d 8-1 7-7 2a-39 38 2 5-7 5 4-6 b-1 e 10 3b 5-3 9 15-1 1b 3-1 3a 5-1 5-1 3-2 4 1f-1 4 " ++
  "c-1 3a 5-4 2-1 5 15-1 17-5 2 3b 3 2-3 9 8-1 c-1 1f 3e d 33 4 38 2-2 6-2 2-3 8-1 c-1 1e 3b 3 7 6-1 15-1 1d-1 " ++
  "3a-1 5-3 9 15-1 1e 49 8-2 2 5b 3-6 c-8 63 3-8 a 2-5 4b-1 1c-4-2 38-d 2-4 2-1 6-a 2-23 a 67-3 2-5 2-1 3-1 1a-1 " ++
  "5-2 11-3 e 3-1 7 10 5f 261-2 3b3-2 1e-1 1f-1 1f-1 41-1 2-6 9 3-a 4 6 2e-4 34 42-1 23 77-2 5-1 a 7-2 dc-1 3 3b " ++
  "2-6 2 2 3-7 7-9 3 28 9-1e 32-3 31 2-4 2 6 29-8 d-1 21-3 3-1 2-2 39 2-1 4 2-2 3b-7 3-1 41-5 53-2 2-c 2-6 5 7 " ++
  "4-1 33-3e e 23-64 1be 2-2 c-2 e-2 e-2 e-1 d-4 9-1 b 3 3-4 32-4 2-9 2 e 11-c 34-20 b8c-1 72-2 7e 10 61-1f 30 " ++
  "1d6 25-3 4-4 6 5e-5 5e-2 6f17 4e3-5 10f 63-3 2-9 2 1d-3 51-1 f-21 4f 18-2 68-2 4-1 9 4 5 1a-1 6 98-1 1b-11 e " ++
  "27-7 1a-a 2f-2 31 3-3 3-1 12 16-1 43-5 3-1 3-1 d 9 24 c 34 2-2 3-1 6-1 2 1c f-1 6-1 2 65-4 a-2 7a 3 5 4f31 " ++
  "94-10 23e-f 4 d-f 23 3 aa 8 7 c 24 2 30 2e-1 44 16-2 202 e3 96-4 406-5 2-29 2-8 247-2 2-1 6-3 29-2 5 a6-1 " ++
  "23e-3 184-1 9a-a 32-3 7c 37-e 2a 3-1 b-2 32-3 3-1 3 5 b 33-2 25-4 2-7 3f d-1 35-8 b-3 3 60-2 3 2-1 7 a1 4-7 " ++
  "16-1 3a-1 4 26-6 4-4 c4-7 3-2 2 18 55-5 2 5-1 2-1 ef-3 7-1 2-1 1c-1 56-7 3 2-1 6b 2 3-5 2 66-2 3-3 2-4 104-8 " ++
  "2-1 101-1 2 5 91-3 3-1 5 21-9 29-5 3-3 9 a-5 3-2 2f-c 2-1 197-6 2-5 2 53-15 3-6 2-1 2-1 7b-5 4 2-1 2-6 2 49-1 " ++
  "4 2 15c-1 153c-8 36b8-4 3c-6 a-3 40c 40-10 41-1 2-1 400c-3 2-6 2-1 c9f-1 2-3 125d-2d 3-16 221-2 a-f 3-6 1f-3 " ++
  "95-2 7bc-36 5-31 9 f 17-4 2-e 551-6 2-10 3-6 2-1 2-4 106-d 171 3e-3 5e1-6 6e-7 ab0-4 c0c02 1f-5f 81-ef"

/-- Letters and digits that no identifier may hold. -/
def notInIdentifiers : String :=
  "b2-1 6 3-2 2bc 67a-5 179-5 79-2 86-6 da-6 12-8 1b2-9 43f-a 474-9 877 4-5 7-9 c7-f 2a 2d7-3b 4f-15 277-1d 56a " ++
  "132 363-3 8b-9 1f-7 2-e 21-9 28-e 7571-5 5429-5 197-1 75-e-2 289-2c 42-3 12-1 156-1a 25-3 535-7 1a-6 28-8 4c-4 " ++
  "17-5 a1-1 3-f 3-2d 41-8 35-1 1f-2 4c-4 69-7 19-7 2a-6 14b-5 161-1e 9f-9 2b-3 71-6 87-13 17c-13 546-1 1af-8 " ++
  "368-12 354-14 4b87-6 31f-16 644a-13 6d-18 154f-8 3a2-3a 2-2 2-3 4d-2c 2-e 3c3-c"

/-- Other signs that identifiers may hold, but not at their head. -/
def alsoInIdentifiers : String :=
  "b7 249-6f 18 fc-4 10a-2c 2 2-1 2-1 2 49-a 31-14 11 66-6 3-5 3-1 2-3 24 1f-1a 5c-a 3b-8 a 19-3 2-8 2-2 2-4 2c-2 " ++
  "3d-7 2b-17 2-20 37-2 2-11 2-6 b-1 1e-2 39 2-6 3-1 3-2 a b-1 1b 3-2 39 2-4 5-1 3-2 4 1f-1 4 c-2 39 2-7 2-2 2-2 " ++
  "15-1 17-5 2-2 39 2-6 3-1 3-2 8-2 b-1 1f 3c-4 4-2 2-3 a 29-4 38 2-6 2-2 2-3 8-1 c-1 1e-2 39 2-6 2-2 2-3 8-1 c-1 " ++
  "1d-3 38-1 2-6 2-2 2-3 a b-1 1e-2 47 5-5 2 2-7 13-1 3e 3-6 d-7 63 3-8 c-5 4b-1 1c-4-2 5-1 32-13 2-1 6-a 2-23 a " ++
  "65-13 18-3 5-2 2-2 3-6 4-3 e-b 2 b-3 2c0-2 3b3-3 1d-2 1e-1 1f-1 41-1f a 2e-2 2 9a 77-b 5-b dc-4 3a-9 2-1c 3 " ++
  "31-d 2-f 32-4 30-10 27-8 d-2 1f-c 39-d 31-13 99-2 2-14 5 7 3-2 c7-3f 240-1 14 7c-c 5 4-b bff-2 8e 61-1f 22b-5 " ++
  "6a-1 75d5 5-9 21-1 51-1 111 4 5 18-4 5 54-1 33-11 1b-11 e 27-7 1a-c 2d-3 30-d 25 44-d d 9-1 2e-2 33 2-2 3-1 " ++
  "6-1 2 2a-4 6-1 ed-7 2-1 4f31 2e2-f 11-f 4-1 19-2 f0 2be e3 96-4 687-2 2-1 6-3 29-2 5 a6-1 23e-3 184-1 9a-a " ++
  "32-3 7b-2 36-e 2a 3-1 b-3 2e-a 8 3e-2 25-d 11-1 2d d-2 31-d 9-3 2-1 5d-b 7 a1-b 16-3 38-1 2-6 3-1 3-2 a b-1 " ++
  "3-6 4-4 c1-11 18 52-13 ec-6 3-8 1c-1 53-10 6b-c 66-e 101-e f6-5 2-1 3-3 2 2-1 8e-6 3-6 4 1d-9 29-6 2-3 9 a-a " ++
  "2f-f 196-7 2-7 53-15 2-d 7b-5 4 2-1 2-6 2 43-4 2-1 2-4 15c-3 4bfa-4 3c-6 419 2-36 8-3 52 c-1 4cac-1 1262-2d " ++
  "3-16 21f-4 4-5 9-7 3-6 1f-3 95-2 7bc-36 5-31 9 f 17-4 2-e 551-6 2-10 3-6 2-1 2-4 106-6 178 3e-3 5e1-6 6e-6 " ++
  "c17b6-ef"

/-- Signs at the head of identifiers that are no letters. -/
def alsoAtHead : String :=
  "16ee-2 195-1 892 16 32-22 3-3 e7f 1a-8 f-2 76ac-9 5a51-34 1cd 9 87-4 202b-6e"

/-- Letters that stand at the head of no identifier. -/
def notAtHead : String :=
  "37a ab9 80 1f7c ce2f-5 197-1 75-e-2 120-1"

def capitalTable : Array Range := Range.table capitals

def smallTable : Array Range := Range.table smalls

def titleTable : Array Range := Range.table titles

def passedOverTable : Array Range := Range.table passedOver

def notInIdentifiersTable : Array Range := Range.table notInIdentifiers

def alsoInIdentifiersTable : Array Range := Range.table alsoInIdentifiers

def alsoAtHeadTable : Array Range := Range.table alsoAtHead

def notAtHeadTable : Array Range := Range.table notAtHead

end Class

def isCapital (c : Char) : Bool :=
  if c.toNat < 128 then c.isUpper else inRanges Class.capitalTable c

def isSmall (c : Char) : Bool :=
  if c.toNat < 128 then c.isLower else inRanges Class.smallTable c

def isTitleLetter (c : Char) : Bool := inRanges Class.titleTable c

/-- Whether a character has case, so that a word goes on after it. -/
def isCased (c : Char) : Bool := isCapital c || isSmall c || isTitleLetter c

/-- Whether a character is passed over when the end of a word is looked for. -/
def isPassedOver (c : Char) : Bool :=
  if c.toNat < 128 then ['\'', '.', ':', '^', Char.ofNat 0x60].contains c
  else inRanges Class.passedOverTable c

def startsIdentifier (c : Char) : Bool :=
  c == '_' || (isLetter c && !inRanges Class.notAtHeadTable c) || inRanges Class.alsoAtHeadTable c

def continuesIdentifier (c : Char) : Bool :=
  startsIdentifier c || (isLetterOrDigit c && !inRanges Class.notInIdentifiersTable c) ||
    inRanges Class.alsoInIdentifiersTable c

def isIdentifier (s : String) : Bool :=
  match s.toList with
  | [] => false
  | c :: rest => startsIdentifier c && rest.all continuesIdentifier

end Orchestration.Text
