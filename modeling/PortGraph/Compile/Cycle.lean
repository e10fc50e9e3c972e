import PortGraph.Graph

/-!
# Finding a cycle

A search along the links from node to node. The nodes on the way from the start are kept with the
neighbours not tried yet; coming upon one of them again closes a cycle. A node that has been left
is never entered again: nothing that can be reached from it leads back to the way.

Entering a node takes it out of the list of nodes not entered yet, and every other step uses up a
neighbour or leaves a node, so the search ends.

## Main definitions

* `Cycle.search`: the search from one start
* `Cycle.find?`: the search from each start in turn
-/

namespace PortGraph.Cycle

/-- A node on the way, and its neighbours not tried yet. -/
abbrev Visit := String × List String

/-- The nodes from `id` to the end of the way, the way being in reverse order. -/
def closing (id : String) : List Visit → List String
  | [] => []
  | (node, _) :: rest => if node = id then [node] else closing id rest ++ [node]

/-- The steps a way has left if it enters no further node. -/
def steps : List Visit → Nat
  | [] => 0
  | (_, untried) :: rest => untried.length + 1 + steps rest

/-- Search on, with the nodes `fresh` not entered yet: a cycle, or the nodes that were never
entered. -/
def search (next : String → List String) (fresh : List String) (way : List Visit) :
    Except (List String) (List String) :=
  match way with
  | [] => .ok fresh
  | (_, []) :: rest => search next fresh rest
  | (node, n :: untried) :: rest =>
    if (way.map (·.1)).contains n then .error (closing n way)
    else if _h : n ∈ fresh then
      search next (fresh.erase n) ((n, next n) :: (node, untried) :: rest)
    else search next fresh ((node, untried) :: rest)
termination_by (fresh.length, steps way)
decreasing_by
  · exact Prod.Lex.right _ (by simp only [steps]; omega)
  · exact Prod.Lex.left _ _ (by
      have := List.length_erase_of_mem _h
      have := List.length_pos_of_mem _h
      omega)
  · exact Prod.Lex.right _ (by simp only [steps, List.length_cons]; omega)

/-- Search from each start that has not been entered. -/
def findFrom? (next : String → List String) (fresh : List String) :
    List String → Option (List String)
  | [] => none
  | start :: rest =>
    if fresh.contains start then
      match search next (fresh.erase start) [(start, next start)] with
      | .error cycle => some cycle
      | .ok fresh => findFrom? next fresh rest
    else findFrom? next fresh rest

/-- A cycle among the nodes `nodes`, found along the links between them in order. -/
def find? (links : List (String × String)) (nodes : List String) : Option (List String) :=
  findFrom? (fun id => (links.filter fun l => l.1 = id && nodes.contains l.2).map (·.2)) nodes nodes

end PortGraph.Cycle
