import ChatPlan.Design.Basic

/-
An index over the graph of a design. The edges are sorted by their source, those of one source stay
in the order in which they are declared, and each source knows where its edges stand. What can be
reached is found level by level, over edges whose target is a node.
-/
namespace ChatPlan

/-! ## The index -/

/-- An edge with its place in the design. -/
structure Arc where
  index : Nat
  edge : Edge

/-- Where the arcs of one source stand among all sorted arcs. -/
structure Span where
  start : Nat
  size : Nat

/-- A design with an index over its edges. -/
structure Flow where
  design : Design
  arcs : List Arc
  spans : List (String × Span)

namespace Flow

/-- The spans of sorted arcs, the first of which stands at `start`. -/
def spansFrom (start : Nat) : List Arc → List (String × Span)
  | [] => []
  | a :: rest =>
    let same := rest.takeWhile (·.edge.source == a.edge.source)
    (a.edge.source, ⟨start, same.length + 1⟩) ::
      spansFrom (start + same.length + 1) (rest.dropWhile (·.edge.source == a.edge.source))
termination_by arcs => arcs.length
decreasing_by
  have := (List.dropWhile_suffix (l := rest) (·.edge.source == a.edge.source)).length_le
  simp only [List.length_cons]
  omega

/-- The index over the edges of a design. -/
def ofDesign (d : Design) : Flow :=
  let arcs := (d.graph.edges.mapIdx Arc.mk).mergeSort fun a b => a.edge.source ≤ b.edge.source
  ⟨d, arcs, spansFrom 0 arcs⟩

def nodes (f : Flow) : List Node := f.design.graph.nodes

/-- The edges in the order in which they are declared. -/
def edges (f : Flow) : List Edge := f.design.graph.edges

/-- The first node with this id. -/
def node? (f : Flow) (id : String) : Option Node := f.design.node? id

def hasNode (f : Flow) (id : String) : Bool := (f.node? id).isSome

/-- The arcs that leave a node, in the order in which they are declared. -/
def outgoing (f : Flow) (id : String) : List Arc :=
  match Members.get? f.spans id with
  | some s => (f.arcs.drop s.start).take s.size
  | none => []

/-- The targets of entries that are nodes. -/
def entryRoots (f : Flow) : List String := (f.design.entries.map (·.target)).filter f.hasNode

end Flow

end ChatPlan

namespace ChatPlan.Flow

/-! ## Reachable nodes -/

/-- The nodes to which an edge leads from here. -/
def targets (f : Flow) (id : String) : List String :=
  ((f.outgoing id).map (·.edge.target)).filter f.hasNode

/-- Adds names that are not there yet, each once. -/
def addNew (known new : List String) : List String :=
  new.foldl (fun ks s => if ks.contains s then ks else ks ++ [s]) known

/-- Follows all edges from what is known, until nothing new comes. -/
def reachFrom (f : Flow) : Nat → List String → List String
  | 0, known => known
  | rounds + 1, known =>
    let next := addNew known (known.flatMap f.targets)
    if next.length = known.length then known else f.reachFrom rounds next

/-- The roots and all nodes to which edges lead from them. Every round that goes on finds a node
that was not known, so there are no more rounds than nodes. -/
def reachable (f : Flow) (roots : List String) : List String :=
  f.reachFrom f.nodes.length (addNew [] roots)

end ChatPlan.Flow
