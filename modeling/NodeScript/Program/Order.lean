/-!
Ordering nodes along edges. `schedule` takes the first node that no other one left over leads to,
again and again; what it leaves over is on a cycle or behind one, and `core` drops from that what
is only behind.
-/
namespace NodeScript

section

variable {α : Type} [DecidableEq α]

def ready (edges : List (α × α)) (rest : List α) (a : α) : Bool :=
  !edges.any fun e => decide (e.2 = a) && rest.contains e.1

def isLast (edges : List (α × α)) (rest : List α) (a : α) : Bool :=
  !edges.any fun e => decide (e.1 = a) && rest.contains e.2

theorem length_erase_lt {rest : List α} {p : α → Bool} {a : α} (found : rest.find? p = some a) :
    (rest.erase a).length < rest.length := by
  have member := List.mem_of_find?_eq_some found
  have := List.length_pos_of_mem member
  rw [List.length_erase_of_mem member]
  omega

/-- The nodes in order, and those left over. -/
def schedule (edges : List (α × α)) (rest : List α) : List α × List α :=
  match _found : rest.find? (ready edges rest) with
  | none => ([], rest)
  | some a =>
    let (order, left) := schedule edges (rest.erase a)
    (a :: order, left)
termination_by rest.length
decreasing_by exact length_erase_lt _found

def core (edges : List (α × α)) (rest : List α) : List α :=
  match _found : rest.find? (isLast edges rest) with
  | none => rest
  | some a => core edges (rest.erase a)
termination_by rest.length
decreasing_by exact length_erase_lt _found

end

end NodeScript
