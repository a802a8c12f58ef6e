import NodeScript.Decimal.Shortest
import NodeScript.Template
import NodeScript.Text.Lowercase

namespace NodeScript

def occursIn (query : List Letter) : List Letter → Bool
  | [] => query.isEmpty
  | c :: rest => query.isPrefixOf (c :: rest) || occursIn query rest

/-- Ten for each letter found in order, and five more for each one that follows the last at
once, the bonus growing with the run. -/
def scattered : List Letter → Nat → List Letter → Option Nat
  | [], _, _ => some 0
  | _ :: _, _, [] => none
  | q :: query, bonus, c :: rest =>
    if c = q then (scattered query (bonus + 5) rest).map (10 + bonus + ·)
    else scattered (q :: query) 0 rest

/-- Below the weakest weighted score of a text that starts with the query. -/
def scatteredMax : Nat := 39

def fuzzyScore (query text : Text) : Nat :=
  if query = "" then 0
  else
    let q := query.lower.letters
    let t := text.lower.letters
    if t = q then 100
    else if q.isPrefixOf t then 80
    else if occursIn q t then 60
    else min ((scattered q 0 t).getD 0) scatteredMax

structure Weighted where
  score : Nat
  tenths : Nat
  deriving DecidableEq, Repr

namespace Weighted

def total (w : Weighted) : Nat := w.score * w.tenths

def factor (w : Weighted) : Float := Decimal.toFloat ⟨w.tenths, -1⟩

def toFloat (w : Weighted) : Float := Decimal.ofRatio w.score 1 * w.factor

def better (a b : Weighted) : Weighted := if a.total < b.total then b else a

end Weighted

namespace Template

def fieldScores (query : Text) (t : Template) : List Weighted :=
  [⟨fuzzyScore query t.label, 10⟩, ⟨fuzzyScore query t.type, 8⟩,
   ⟨fuzzyScore query t.description, 5⟩, ⟨fuzzyScore query t.category.name, 6⟩]

def bestField (query : Text) (t : Template) : Weighted :=
  (t.fieldScores query).foldl Weighted.better ⟨0, 10⟩

def score (query : Text) (t : Template) : Nat := (t.bestField query).total

end Template

end NodeScript
