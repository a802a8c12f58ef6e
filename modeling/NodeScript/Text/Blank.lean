import NodeScript.Text
import NodeScript.Text.Range

namespace NodeScript

namespace Text

def blankRanges : List (Nat × Nat) :=
  [(9, 13), (28, 32), (133, 133), (160, 160), (5760, 5760), (8192, 8202), (8232, 8233),
   (8239, 8239), (8287, 8287), (12288, 12288)]

def isBlank (c : Char) : Bool := inRanges blankRanges c

def withoutBlanksAhead (letters : List Letter) : List Letter :=
  letters.dropWhile fun a => a.is isBlank

def trim (text : Text) : Text :=
  ⟨(withoutBlanksAhead (withoutBlanksAhead text.letters).reverse).reverse⟩

end Text

end NodeScript
