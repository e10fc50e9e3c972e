import PortGraph.Graph

/-!
# Levels

The nodes of a graph are taken away level by level: first those that nothing feeds, then those that
only they feed, and so on. A node waits with the number of links into it from nodes that are not
taken yet, and is taken when that number reaches zero. On a cycle it never does.

Links count as often as they occur, here and where a level is subtracted, so the number of a
waiting node stays exact.

## Main definitions

* `Leveling`: the levels taken, and the nodes left over with their numbers
* `Leveling.expand`: one level
* `Graph.leveling`: all levels of a graph

## Main results

* `Leveling.waiting_length`: a level that is followed by another one shortens the waiting list
-/

namespace PortGraph

/-- Levels of nodes, and the nodes left over, each with the number of links into it from nodes left
over. -/
structure Leveling where
  levels : List (List String)
  left : List (String × Nat)
deriving DecidableEq, Inhabited

namespace Leveling

/-- How many links lead from a node of `level` to `id`. -/
def linksInto (links : List (String × String)) (level : List String) (id : String) : Nat :=
  links.countP fun l => level.contains l.1 && l.2 = id

/-- The waiting nodes after `level` has been taken. -/
def expand (links : List (String × String)) (level : List String) (waiting : List (String × Nat)) :
    List (String × Nat) :=
  waiting.map fun w => (w.1, w.2 - linksInto links level w.1)

/-- The nodes that wait for nothing any more. -/
def free (waiting : List (String × Nat)) : List String :=
  (waiting.filter (·.2 = 0)).map (·.1)

/-- The nodes that still wait. -/
def blocked (waiting : List (String × Nat)) : List (String × Nat) :=
  waiting.filter (·.2 ≠ 0)

theorem waiting_length (waiting : List (String × Nat)) :
    (free waiting).length + (blocked waiting).length = waiting.length := by
  induction waiting with
  | nil => rfl
  | cons w rest ih =>
    by_cases h : w.2 = 0 <;> simp_all [free, blocked] <;> omega

/-- Take `level`, and what becomes free by it, until a level is empty. -/
def peel (links : List (String × String)) (level : List String) (waiting : List (String × Nat)) :
    Leveling :=
  if _h : level = [] then ⟨[], waiting⟩
  else
    let after := expand links level waiting
    let rest := peel links (free after) (blocked after)
    ⟨level :: rest.levels, rest.left⟩
termination_by waiting.length + min level.length 1
decreasing_by
  have h := waiting_length (expand links level waiting)
  have hl : (expand links level waiting).length = waiting.length := by simp [expand]
  have hn := List.length_pos_iff.2 _h
  show (blocked (expand links level waiting)).length +
    min (free (expand links level waiting)).length 1 < waiting.length + min level.length 1
  omega

end Leveling

namespace Graph

/-- The number of links into a node. -/
def linksInto (g : Graph) (id : String) : Nat := g.links.countP (·.2 = id)

/-- All levels of a graph, the nodes of a level in the order of the graph. -/
def leveling (g : Graph) : Leveling :=
  let waiting := g.nodeIds.map fun id => (id, g.linksInto id)
  Leveling.peel g.links (Leveling.free waiting) (Leveling.blocked waiting)

end Graph

end PortGraph
