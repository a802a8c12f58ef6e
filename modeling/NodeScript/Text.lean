import NodeScript.Text.Letter

/-!
Texts. A text is a list of letters, so it may hold a half of a character alone; only a text of
characters can be encoded. Texts are ordered by the numbers of their letters.
-/
namespace NodeScript

structure Text where
  letters : List Letter
  deriving DecidableEq, Repr, Inhabited

namespace Text

def ofChars (cs : List Char) : Text := ⟨cs.map .char⟩

def ofString (s : String) : Text := ofChars s.toList

instance : Coe String Text := ⟨ofString⟩

instance : Append Text := ⟨fun a b => ⟨a.letters ++ b.letters⟩⟩

def join (texts : List Text) : Text := ⟨texts.flatMap letters⟩

def joinWith (separator : Text) (texts : List Text) : Text := join (texts.intersperse separator)

def after? (head : Text) (letters : List Letter) : Option (List Letter) :=
  if head.letters.isPrefixOf letters then some (letters.drop head.letters.length) else none

def chars? (text : Text) : Option (List Char) := text.letters.mapM Letter.char?

def string? (text : Text) : Option String := text.chars?.map String.ofList

def encodable (text : Text) : Bool := text.chars?.isSome

/-- The text with the replacement character for every byte that a half standing alone would take. -/
def replaced (text : Text) : Text :=
  ⟨text.letters.flatMap fun a => if a.isChar then [a] else List.replicate 3 '\uFFFD'⟩

def numbers (text : Text) : List Nat := text.letters.map Letter.toNat

def precedes (a b : Text) : Bool := a.numbers.lex b.numbers fun m n => decide (m < n)

instance : LT Text := ⟨fun a b => a.precedes b = true⟩

instance (a b : Text) : Decidable (a < b) := instDecidableEqBool (a.precedes b) true

instance : LE Text := ⟨fun a b => b.precedes a = false⟩

instance (a b : Text) : Decidable (a ≤ b) := instDecidableEqBool (b.precedes a) false

end Text

end NodeScript
