import Orchestration.Text.Blank
import Orchestration.Text.Case

/-!
The shape of text: its lines, its width, and the case of its letters.
-/

namespace Orchestration.Text

/-- Splits at each occurrence of a separator, from the end, at most `limit` times. -/
def splitFromEnd (separator s : String) (limit : Option Nat) : List String :=
  ((splitOn separator.toList.reverse s.toList.reverse limit).map
    fun part => String.ofList part.reverse).reverse

def isLineEnd (c : Char) : Bool :=
  c == '\n' || c == '\r' || c == '\x0b' || c == '\x0c' || (0x1c ≤ c.toNat && c.toNat ≤ 0x1e) ||
    c.toNat == 0x85 || c.toNat == 0x2028 || c.toNat == 0x2029

def lines (keepsEnds : Bool) (current : List Char) : List Char → List String
  | [] => if current.isEmpty then [] else [String.ofList current.reverse]
  | '\r' :: '\n' :: rest =>
    String.ofList (current.reverse ++ (if keepsEnds then ['\r', '\n'] else [])) :: lines keepsEnds [] rest
  | c :: rest =>
    if isLineEnd c then
      String.ofList (current.reverse ++ (if keepsEnds then [c] else [])) :: lines keepsEnds [] rest
    else lines keepsEnds (c :: current) rest

def pad (n : Nat) (fill : Char) : String := String.ofList (List.replicate n fill)

def padStart (s : String) (width : Int) (fill : Char) : String :=
  pad (width - s.length).toNat fill ++ s

def padEnd (s : String) (width : Int) (fill : Char) : String :=
  s ++ pad (width - s.length).toNat fill

/-- Pads at both ends; of an odd number of places the one too many goes to the end of even
widths. -/
def center (s : String) (width : Int) (fill : Char) : String :=
  let room := (width - s.length).toNat
  let left := room / 2 + (if room % 2 == 1 && width % 2 == 1 then 1 else 0)
  pad left fill ++ s ++ pad (room - left) fill

def zeroFill (s : String) (width : Int) : String :=
  match s.toList with
  | c :: rest =>
    if c == '-' || c == '+' then String.singleton c ++ padStart (String.ofList rest) (width - 1) '0'
    else padStart s width '0'
  | [] => padStart s width '0'

/-- Whether there are capitals, and no small or title letters. -/
def isUpper (s : String) : Bool :=
  s.toList.any isCapital && !s.toList.any fun c => isSmall c || isTitleLetter c

/-- Whether there are small letters, and no capital or title letters. -/
def isLower (s : String) : Bool :=
  s.toList.any isSmall && !s.toList.any fun c => isCapital c || isTitleLetter c

/-- Whether capitals stand only at the head of runs of letters with case, and small letters only
behind. -/
def titled (afterCased : Bool) : List Char → Bool
  | [] => true
  | c :: rest =>
    if isCapital c || isTitleLetter c then !afterCased && titled true rest
    else if isSmall c then afterCased && titled true rest
    else titled false rest

def isTitle (s : String) : Bool := s.toList.any isCased && titled false s.toList

def isAll (p : Char → Bool) (s : String) : Bool := !s.isEmpty && s.toList.all p

end Orchestration.Text
