import NodeScript.Text
import NodeScript.Text.Printable

namespace NodeScript

namespace Text

def hexDigits : Nat → Nat → List Char
  | 0, _ => []
  | count + 1, n => hexDigits count (n / 16) ++ [Nat.digitChar (n % 16)]

def shown (mark : Char) (c : Char) : List Char :=
  if c = mark ∨ c = '\\' then ['\\', c]
  else if c = '\n' then ['\\', 'n']
  else if c = '\r' then ['\\', 'r']
  else if c = '\t' then ['\\', 't']
  else if isPrintable c then [c]
  else if c.toNat < 0x100 then '\\' :: 'x' :: hexDigits 2 c.toNat
  else if c.toNat < 0x10000 then '\\' :: 'u' :: hexDigits 4 c.toNat
  else '\\' :: 'U' :: hexDigits 8 c.toNat

def letterShown (mark : Char) : Letter → List Char
  | .char c => shown mark c
  | .half n => '\\' :: 'u' :: hexDigits 4 (Letter.half n).toNat

def quoteMark (letters : List Letter) : Char :=
  if letters.contains '\'' && !letters.contains '"' then '"' else '\''

def quoted (text : Text) : String :=
  let mark := quoteMark text.letters
  String.ofList (mark :: text.letters.flatMap (letterShown mark) ++ [mark])

end Text

end NodeScript
