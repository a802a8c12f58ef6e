import NodeScript.Entries
import NodeScript.Text

/-!
JSON values whose objects keep their members in written order and whose whole numbers stay apart
from floating ones. Equality is decidable, and an object is laid over another member by member.
-/
namespace NodeScript

inductive Json where
  | null
  | bool (value : Bool)
  | int (value : Int)
  | float (value : Float)
  | str (text : Text)
  | arr (items : List Json)
  | obj (members : List (Text × Json))
  deriving Inhabited, Repr

abbrev Members := List (Text × Json)

namespace Json

mutual
def same : Json → Json → Bool
  | null, null => true
  | bool a, bool b => a = b
  | int a, int b => a = b
  | float a, float b => decide (a = b)
  | str a, str b => a = b
  | arr a, arr b => sameItems a b
  | obj a, obj b => sameMembers a b
  | _, _ => false
def sameItems : List Json → List Json → Bool
  | [], [] => true
  | a :: as, b :: bs => same a b && sameItems as bs
  | _, _ => false
def sameMembers : List (Text × Json) → List (Text × Json) → Bool
  | [], [] => true
  | (m, a) :: as, (n, b) :: bs => m = n && same a b && sameMembers as bs
  | _, _ => false
end

mutual
theorem same_iff : ∀ a b : Json, same a b = true ↔ a = b
  | null, b | bool _, b | int _, b | float _, b | str _, b => by cases b <;> simp [same]
  | arr as, b => by cases b <;> simp [same, sameItems_iff as]
  | obj as, b => by cases b <;> simp [same, sameMembers_iff as]
theorem sameItems_iff : ∀ as bs : List Json, sameItems as bs = true ↔ as = bs
  | [], bs => by cases bs <;> simp [sameItems]
  | a :: as, bs => by cases bs <;> simp [sameItems, same_iff a, sameItems_iff as]
theorem sameMembers_iff : ∀ as bs : List (Text × Json), sameMembers as bs = true ↔ as = bs
  | [], bs => by cases bs <;> simp [sameMembers]
  | (m, a) :: as, bs => by
    rcases bs with _ | ⟨⟨n, b⟩, bs⟩
    · simp [sameMembers]
    · simp [sameMembers, same_iff a, sameMembers_iff as]
end

instance : DecidableEq Json := fun a b => decidable_of_iff (same a b = true) (same_iff a b)

def ofText? : Option Text → Json
  | some text => str text
  | none => null

def ofTexts (texts : List Text) : Json := arr (texts.map str)

def digitLimit : Nat := 4300

mutual
def finite : Json → Bool
  | float x => x.isFinite
  | arr items => finiteItems items
  | obj members => finiteMembers members
  | _ => true
def finiteItems : List Json → Bool
  | [] => true
  | a :: as => finite a && finiteItems as
def finiteMembers : List (Text × Json) → Bool
  | [] => true
  | (_, a) :: as => finite a && finiteMembers as
end

mutual
def encodable : Json → Bool
  | str text => text.encodable
  | arr items => encodableItems items
  | obj members => encodableMembers members
  | _ => true
def encodableItems : List Json → Bool
  | [] => true
  | a :: as => encodable a && encodableItems as
def encodableMembers : List (Text × Json) → Bool
  | [] => true
  | (name, a) :: as => name.encodable && encodable a && encodableMembers as
end

mutual
/-- The value with null for each number in it that is not finite. A free value is written so,
since JSON has no such number. -/
def finitePart : Json → Json
  | float x => if x.isFinite then float x else null
  | arr items => arr (finitePartItems items)
  | obj members => obj (finitePartMembers members)
  | other => other
def finitePartItems : List Json → List Json
  | [] => []
  | a :: as => finitePart a :: finitePartItems as
def finitePartMembers : List (Text × Json) → List (Text × Json)
  | [] => []
  | (name, a) :: as => (name, finitePart a) :: finitePartMembers as
end

end Json

namespace Members

def get? (members : Members) (name : Text) : Option Json := members.lookup name

def put (members : Members) (name : Text) (value : Json) : Members := Entries.put members name value

def values (members : Members) : List Json := members.map (·.2)

/-- The members as a record writes them. Of those whose names become one the last value stays, at the
place of the first. -/
def written (members : Members) : Members :=
  members.foldl (fun members m => members.put m.1.replaced m.2.finitePart) []

def overlay (base top : Members) : Members :=
  top.foldl (fun members m => put members m.1 m.2) base

end Members

end NodeScript
