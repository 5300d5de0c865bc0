import Orchestration.Text.Printable

/-!
Quoted text.

Text is quoted with an apostrophe, or with a double quote when it holds an apostrophe and no double
quote. The quote itself and the backslash are escaped, and so is every character that does not
print.
-/

namespace Orchestration.Text

def hexDigits (width n : Nat) : List Char :=
  let digits := Nat.toDigits 16 n
  List.replicate (width - digits.length) '0' ++ digits

namespace Quoted

def escapeChar (quote c : Char) : List Char :=
  if c == quote || c == '\\' then ['\\', c]
  else if c == '\n' then ['\\', 'n']
  else if c == '\r' then ['\\', 'r']
  else if c == '\t' then ['\\', 't']
  else if isPrintable c then [c]
  else if c.toNat < 0x100 then '\\' :: 'x' :: hexDigits 2 c.toNat
  else if c.toNat < 0x10000 then '\\' :: 'u' :: hexDigits 4 c.toNat
  else '\\' :: 'U' :: hexDigits 8 c.toNat

def chooseQuote (cs : List Char) : Char :=
  if cs.contains '\'' && !cs.contains '"' then '"' else '\''

end Quoted

def quoted (s : String) : String :=
  let cs := s.toList
  let quote := Quoted.chooseQuote cs
  String.ofList (quote :: cs.flatMap (Quoted.escapeChar quote) ++ [quote])

end Orchestration.Text
