import Orchestration.Text.Ranges

/-!
Letters, numerals and the underscore: the characters that make up a word.
-/

namespace Orchestration.Text

namespace Word

def lettersBeyondAscii : String :=
  "aa b 5 6-16 2-1e 2-1c9 5-b f-4 8 2 82-4 2-1 3-3 2 7 2-2 2 2-13 2-52 2-8a 9-a5 2-25 3 7-28 48-1a 5-3 2e-2a 24-1 " ++
  "2-62 2 10-1 8-1 b-2 3 11 2-1d 1e-58 c 19-20 a-1 5 6-15 5 a 4 18-18 8-a 6-17 2-5 12-29 3b-35 4 13 8-9 10-f 5-7 " ++
  "3-1 3-15 2-6 2 4-3 4 11 e-1 2-2 f-1 b 9-5 5-1 3-15 2-6 2-1 2-1 2-1 20-3 2 14-2 11-8 2-2 2-15 2-6 2-1 2-4 4 13 " ++
  "10-1 18 c-7 3-1 3-15 2-6 2-1 2-4 4 1f-1 2-2 10 12 2-5 4-2 2-3 4-1 2 2-1 4-1 4-2 4-b 17 35-7 2-2 2-16 2-f 4 " ++
  "1b-2 3 3-1 1f 5-7 2-2 2-16 2-9 2-4 4 20-1 2-1 10-1 12-8 2-2 2-28 3 11 6-2 9-2 19-5 6-11 4-17 2-8 2 3-6 3b-2f " ++
  "2-1 d-6 3b-1 2 2-4 2-17 2 2-9 2-1 a 3-4 2 16-3 21 40-7 2-23 1c-4 74-2a 15 11-5 5-3 4 4-1 8-2 5-c d 12-25 2 6 " ++
  "3-2a 2-14c 2-3 3-6 2 2-3 3-28 2-3 3-20 2-3 3-6 2 2-3 3-e 2-38 2-3 3-42 26-f 11-55 3-5 4-26b 3-10 2-19 6-4a 7-7 " ++
  "8-11 e-12 f-11 f-c 2-2 10-33 24 5 44-58 8-4 3-21 2 6-45 b-1e 32-1d 3-4 c-2b 5-19 37-16 a-34 53 5e-2e 12-7 " ++
  "37-1d e-1 b-2b 1b-23 2a-2 b-23 3-8 8-2a 3-2 2a-3 2-5 2-1 4 6-bf 41-115 3-5 3-25 3-5 3-7 2-6-2 1-1d 3-34 2-6 2 " ++
  "4-2 2-6 4-3 3-5 5-c 6-2 2-6 75 e 11-c 66 5 3-9 2 4-4 7-6-2 1-2 2-a 3-3 6-4 5 35-1 a7c-e4 7-3 4-1 d-25 2 6 3-37 " ++
  "8 11-16 a-6 2-6 2-6 2-6 2-6 2-6 2-6 2-6 51 1d6-1 2b-4 6-1 5-55 7-2 2-59 2-3 6-2a 2-5d 12-1f 31-f 201-19bf " ++
  "41-568c 44-2d 3-10c 4-f b-1 15-2e 11-1e 3-45 32-8 3-66 3-3f 6-1 2 2-4 19-f 2-2 2-3 2-16 1e-33 f-31 3f-5 4 2-1 " ++
  "c-1b b-16 1a-1c 8-2e 1d 11-4 2-9 b-4 2-28 18-2 2-7 15-16 4 4-31 2 4-1 3-4 3 2 19-2 3-a 8-2 d-5 3-5 3-5 a-6 2-6 " ++
  "2-2a 2-d 7-72 1e-2ba3 d-16 5-30 2105-16d 3-69 27-6 d-4 6 2-9 2-c 2-4 2 2-1 2-1 2-6b 22-16a 13-3f 3-35 29-b " ++
  "75-4 2-86 25-19 7-19 c-58 4-5 3-5 3-5 3-2 24-b 2-19 2-12 2-1 2-e 3-d 23-7a 186-1c 4-30 30-1f e-13 2-7 7-25 " ++
  "b-1d 3-23 5-7 31-9d 13-23 5-23 5-27 9-33 d-a 2-e 2-6 2-1 2-a 2-e 2-6 2-1 44-136 a-15 b-7 19-5 2-29 2-8 46-5 3 " ++
  "2-2b 2-1 4 3-16 b-16 a-1e 42-12 2-1 b-15 b-19 47-37 7-1 41 10-3 2-2 2-1c 2b-1c 4-1c 24-7 2-1b 1c-35 b-15 b-12 " ++
  "e-11 6f-48 38-32 e-32 e-23 15d-29 7-1 4f-1c b 9-15 2b-11 2f-14 1c-16 d-34 3a-1 3 e-2c 21-18 1b-23 1e 3 9-22 4 " ++
  "d-2f f-3 16 2 24-11 2-18 55-6 2 2-3 2-e 2-9 8-2e 27-7 3-1 3-15 2-6 2-1 2-4 4 13 d-4 9f-34 13-3 15-2 1f-2f 15-1 " ++
  "2 b9-2e 2a-3 25-2f 15 3c-2a e 48-1a 26-6 ba-2b 75-3f 20-7 3 3-7 2-1 2-17 10 2 5f-7 3-26 11 2 1d b-27 8 16 c-2d " ++
  "14 13-48 108-8 2-24 12 32-1d 71-6 2-1 2-25 16 1a-5 2-1 2-1f f 148-12 be 50-399 e7-c3 a4d-60 10-42e fd2-246 " ++
  "21ba-238 8-1e 12-4e 12-1d 13-2f 11-3 20-14 6-12 2b1-3f 81-4a 6 43-c 41-1 2 1d-17f7 9-4d5 2b-8 22e8-3 2-6 2-1 " ++
  "2-122 2e-2 12-3 9-18b 905-6a 6-c 4-8 8-9 1767-54 2-46 2-1 3 3-1 3-3 2-b 2 2-6 2-40 2-3 3-7 2-6 2-1b 2-3 2-4 2 " ++
  "4-6 2-153 3-18 2-18 2-1e 2-18 2-1e 2-18 2-1e 2-18 2-1e 2-18 2-7 735-1e 1e2-2c b-6 11 142-1d 13-2b 4f5-6 2-3 " ++
  "2-1 2-e 2-c4 3c-43 8 4b5-3 2-1a 2-1 2 3 2-9 2-3 2 2 7 5-6-2 1-1 2-1 2 3-a-2 1 2 3-3 2-6 2-3 2-3 2 2-9 2-10 6-2 " ++
  "2-4 2-10 1145-a6df 21-1038 8-dd 3-1681 f-1d30 c20-21d 5e3-134a"

/-- Digits that stand for a number on their own only, such as raised ones. -/
def digitSigns : String :=
  "b2-1 6 12b0-8 669 696 4-5 7-9 3d7-8 c-8 c-8 5a b-8 2 277-8 2-8 2-8 e2ae-3 41d-8 1ea-8 e0a6-a"

def numerals : String :=
  "bc-2 936-5 179-5 79-2 86-6 da-6 12-8 1b2-9 43f-a 372-2 100-9 957-32 3-4 2e0-a a-a a-a 50-9 a 281 a a 56a 30a " ++
  "1a-8 f-2 158-3 8b-9 1f-7 2-e 21-9 28-e 146 7e 3a7 323 12b3 3 4 2 54 2f 8 2 29-1 1f 9 25 63 194 42 23-4-2 1d4 " ++
  "2-2 7 75-3 317 216 8 581 84-1 d-2 2 3ee 4e 486 734 490 2e8 a08 3a6 882 5 7d 8f1 25 6 2c 7e ff0-9 141-5 5136 8 " ++
  "5 3a 1f 2 2a 70a-2c d-38 12-1 156-1a 25-3 1e 9 87-4 483-7 1a-6 28-8 4c-4 17-5 a1-1 3-f 3-2d 45-4 35-1 1f-2 " ++
  "4c-4 69-7 19-7 2a-6 14b-5 16a-15 9f-9 2b-3 71-6 90-a 17c-13 546-1 1af-8 368-12 354-14 42c-6e 46ed-6 31f-16 " ++
  "644a-13 6d-18 154f-8 3a2-3a 2-2 2-3 4d-2c 2-e 3ce-1 ef5 63 7e 3f 809 59 9 10 14e 13 1c 1877 608 1183 2752 9623"

def letterTable : Array Range := Range.table lettersBeyondAscii

def digitSignTable : Array Range := Range.table digitSigns

def numeralTable : Array Range := Range.table numerals

end Word

def isLetter (c : Char) : Bool :=
  if c.toNat < 128 then c.isAlpha else inRanges Word.letterTable c

/-- The zeros of the decimal scripts; the nine other digits of a script follow its zero. -/
def Word.zeros : String :=
  "30 630 90 d0 1a6 80 80 80 80 80 80 80 80 80 6a 80 50 120 50 750 30 136 8a b0 10 c0 60 90 10 89d0 2b0 30 d0 20 " ++
  "60 1a0 5320 590 890 336 8a 46 9a 120 160 80 180 70 70 1b0 70 300 100 50 4cc0 60 90 6c7e a a a a 94a 1b0 660 " ++
  "12a0"

def Word.zeroTable : List Nat := (Range.readAll 0 [] Word.zeros.toList).map (·.low)

def digitValue? (c : Char) : Option Nat :=
  if c.toNat < 128 then if c.isDigit then some (c.toNat - '0'.toNat) else none
  else (Word.zeroTable.find? fun first => first ≤ c.toNat && c.toNat ≤ first + 9).map (c.toNat - ·)

def isDigit (c : Char) : Bool := (digitValue? c).isSome

/-- Digits of any kind, raised and circled ones included. -/
def isDigitSign (c : Char) : Bool := isDigit c || inRanges Word.digitSignTable c

/-- Digits, fractions and other signs for numbers. -/
def isNumeral (c : Char) : Bool := isDigitSign c || inRanges Word.numeralTable c

def isLetterOrDigit (c : Char) : Bool :=
  if c.toNat < 128 then c.isAlphanum else isLetter c || isNumeral c

def isWordChar (c : Char) : Bool := c == '_' || isLetterOrDigit c

end Orchestration.Text
