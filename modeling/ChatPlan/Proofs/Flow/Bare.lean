import ChatPlan.Proofs.Flow.Search

/-
What the rules of the graph look at. A design is bare if its nodes have no properties. The searches
run through the same nodes and edges of a bare graph, and every rule reports the same there
(`flowIssues_bare`): no rule looks at a property of a node.
-/
namespace ChatPlan

/-- The node without its properties. -/
def Node.bare (n : Node) : Node := { n with props := [] }

/-- The design without the properties of its nodes. -/
def Design.bare (d : Design) : Design :=
  { d with graph := { d.graph with nodes := d.graph.nodes.map Node.bare } }

namespace Flow

/-- The same index over the bare design. -/
def bare (f : Flow) : Flow := { f with design := f.design.bare }

variable (f : Flow) (o : Options)

theorem bare_ofDesign (d : Design) : (ofDesign d).bare = ofDesign d.bare := rfl

theorem nodes_bare : f.bare.nodes = f.nodes.map Node.bare := rfl

theorem outgoing_bare (id : String) : f.bare.outgoing id = f.outgoing id := rfl

theorem node?_bare (id : String) : f.bare.node? id = (f.node? id).map Node.bare := List.find?_map

theorem node?_bare_of_node? {f : Flow} {id : String} {n : Node} (h : f.node? id = some n) :
    f.bare.node? id = some n.bare := by
  rw [node?_bare, h]
  rfl

theorem hasNode_bare : f.bare.hasNode = f.hasNode := by
  funext id
  rw [hasNode, hasNode, node?_bare, Option.isSome_map]

/-! ## The searches -/

theorem targets_bare : f.bare.targets = f.targets := by
  funext id
  rw [targets, targets, outgoing_bare, hasNode_bare]

theorem reachFrom_bare (rounds : Nat) (known : List String) :
    f.bare.reachFrom rounds known = f.reachFrom rounds known := by
  induction rounds generalizing known with
  | zero => rfl
  | succ rounds ih => simp only [reachFrom, targets_bare, ih]

theorem reachable_bare (roots : List String) : f.bare.reachable roots = f.reachable roots := by
  rw [reachable, reachable, reachFrom_bare, nodes_bare, List.length_map]

theorem search_bare (done : List String) (stack : List Frame) :
    f.bare.search o done stack = f.search o done stack := by
  induction done, stack using search.induct f o with
  | case1 done => rw [search, search]
  | case2 done id rest ih => rw [search, search, ih]
  | case3 done id a left rest hnode ih =>
    have hbare : f.bare.node? a.edge.target = none := by
      rw [node?_bare, hnode]
      rfl
    rw [search_of_missing hnode, search_of_missing hbare, ih]
  | case4 done id a left rest n hnode hstack hexempt ih =>
    have hbare := node?_bare_of_node? hnode
    rw [id_of_node? hnode] at hstack
    rw [search_of_node hnode, search_of_node hbare, if_pos hstack, if_pos hstack, ih]
  | case5 done id a left rest n hnode hstack hexempt ih =>
    have hbare := node?_bare_of_node? hnode
    rw [id_of_node? hnode] at hstack
    rw [search_of_node hnode, search_of_node hbare, if_pos hstack, if_pos hstack, ih]
  | case6 done id a left rest n hnode hstack hdone ih =>
    have hbare := node?_bare_of_node? hnode
    rw [id_of_node? hnode] at hstack hdone
    rw [search_of_node hnode, search_of_node hbare, if_neg hstack, if_neg hstack, if_pos hdone,
      if_pos hdone, ih]
  | case7 done id a left rest n hnode hstack hdone ih =>
    have hbare := node?_bare_of_node? hnode
    rw [id_of_node? hnode] at hstack hdone ih
    rw [search_of_node hnode, search_of_node hbare, if_neg hstack, if_neg hstack, if_neg hdone,
      if_neg hdone, outgoing_bare, ih]

theorem cyclesFrom_bare (done : List String) (ns : List Node) :
    f.bare.cyclesFrom o done (ns.map Node.bare) = f.cyclesFrom o done ns := by
  induction done, ns using cyclesFrom.induct f o with
  | case1 done => rfl
  | case2 done n ns hdone ih =>
    rw [List.map_cons, cyclesFrom, cyclesFrom, if_pos hdone]
    exact (if_pos hdone).trans ih
  | case3 done n ns hdone found ih =>
    rw [List.map_cons, cyclesFrom, cyclesFrom, if_neg hdone]
    refine (if_neg hdone).trans ?_
    dsimp only [Node.bare]
    rw [search_bare, outgoing_bare, ih]

theorem cycles_bare : f.bare.cycles o = f.cycles o := cyclesFrom_bare f o [] f.nodes

/-! ## The rules -/

theorem finalNodeIssues_bare : finalNodeIssues f.bare o = finalNodeIssues f o := by
  rw [finalNodeIssues, finalNodeIssues, nodes_bare, List.filter_map, List.map_map]
  rfl

theorem referenceIssues_bare : referenceIssues f.bare o = referenceIssues f o := by
  simp only [referenceIssues, hasNode_bare]
  rfl

theorem cycleIssues_bare : cycleIssues f.bare o = cycleIssues f o := by
  rw [cycleIssues, cycleIssues, cycles_bare]

theorem reachabilityIssues_bare : reachabilityIssues f.bare o = reachabilityIssues f o := by
  have hroots : f.bare.entryRoots = f.entryRoots := by
    rw [entryRoots, entryRoots, hasNode_bare]
    rfl
  have hids : f.bare.nodes.map (·.id) = f.nodes.map (·.id) := by
    rw [nodes_bare, List.map_map]
    rfl
  simp only [reachabilityIssues, hroots, hids, reachable_bare]

/-- The rules report the same in a bare graph. The starts, the channels and the priorities are
checked without a look at nodes. -/
theorem flowIssues_bare : flowIssues f.bare o = flowIssues f o := by
  have hstarts : globalStartIssues f.bare o = globalStartIssues f o := rfl
  have hchannelStarts : channelStartIssues f.bare o = channelStartIssues f o := rfl
  have hpriorities : priorityIssues f.bare o = priorityIssues f o := rfl
  have hchannels : channelIssues f.bare o = channelIssues f o := rfl
  rw [flowIssues_eq, flowIssues_eq, hstarts, hchannelStarts, finalNodeIssues_bare, hpriorities,
    referenceIssues_bare, cycleIssues_bare, hchannels, reachabilityIssues_bare]

end Flow

end ChatPlan
