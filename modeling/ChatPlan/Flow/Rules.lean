import ChatPlan.Flow.Cycles
import ChatPlan.Flow.Graph
import ChatPlan.Issue

/-
Rules for the graph of a design: its starts, its final nodes, the priorities of its edges, the nodes
that edges and entries refer to, its cycles, its channels and what can be reached.
-/
namespace ChatPlan

/-- A rule for the graph. -/
structure FlowRule where
  name : String
  apply : Flow → Options → List Issue

/-- The place of a node in issues. -/
def nodePath (id : String) : String := s!"graph.nodes.{id}"

/-- The place of an edge in issues. -/
def edgePath (index : Nat) : String := s!"graph.edges[{index}]"

/-- The place of an entry in issues. -/
def entryPath (index : Nat) : String := s!"entries[{index}]"

namespace Flow

def entries (f : Flow) : List Entry := f.design.entries

/-- The entries of the global start, with their places. -/
def globalStarts (f : Flow) : List (Entry × Nat) :=
  f.entries.zipIdx.filter fun e => e.1.kind == .globalStart

/-- There is one global start, and it names no channel. -/
def globalStartIssues (f : Flow) (_ : Options) : List Issue :=
  let starts := f.globalStarts
  let places := Text.joined ", " (starts.map fun e => entryPath e.2)
  let count := starts.length
  (if count = 0 then
      [.error "topology.start.global_missing" "entries"
        "Design has no global_start entry; expected exactly one"]
    else if count = 1 then []
    else
      [.error "topology.start.global_multiple" "entries"
        s!"Design has {count} global_start entries (at {places}); expected exactly one"]) ++
  (starts.filter fun e => e.1.channelId.isSome).map fun e =>
    .error "topology.start.global_channel" (entryPath e.2)
      "global_start entry must not carry a channel_id"

/-- The channel that an entry of a channel start names, without blanks at its ends. -/
def channelOf? (e : Entry) : Option String :=
  if e.kind = .channelStart then
    (e.channelId.map Text.trimmed).filter fun c => !c.isEmpty
  else none

/-- What is wrong with an entry of a channel start. -/
def channelStartIssue (f : Flow) (e : Entry) (index : Nat) : Option Issue :=
  match channelOf? e with
  | none =>
    some (.error "topology.start.channel_missing_id" (entryPath index)
      "channel_start entry must carry a channel_id")
  | some channel =>
    match f.entries.findIdx? fun e => channelOf? e == some channel with
    | some first =>
      if first < index then
        some (.error "topology.start.channel_duplicate" (entryPath index)
          s!"Channel '{channel}' already has a channel_start at entries[{first}]")
      else if f.design.bot.channels.any fun c => Text.trimmed c == channel then none
      else
        some (.warn "topology.start.channel_undeclared" (entryPath index)
          s!"channel_start targets channel '{channel}' which the bot does not declare")
    | none => none

/-- Every channel start names a channel of its own, which the bot declares. -/
def channelStartIssues (f : Flow) (_ : Options) : List Issue :=
  (f.entries.zipIdx.filter fun e => e.1.kind == .channelStart).filterMap fun e =>
    f.channelStartIssue e.1 e.2

/-- No edge leaves a final node. -/
def finalNodeIssues (f : Flow) (_ : Options) : List Issue :=
  (f.nodes.filter fun n => n.isFinal && !(f.outgoing n.id).isEmpty).map fun n =>
    let id := n.id
    let out := f.outgoing id
    let count := out.length
    let targets := Text.joined ", " (out.map (·.edge.target))
    .error "topology.final.has_outgoing" (nodePath id)
      s!"Final node '{id}' has {count} outgoing edge(s) (to {targets})"

/-- The two edges compete: they have one source and one priority. -/
def competes (a b : Edge) : Bool := a.source == b.source && a.priority == b.priority

/-- The edge competes with an earlier one. -/
def priorityIssue (edges : List Edge) (e : Edge) (index : Nat) : Option Issue :=
  if e.priority = 0 then none
  else
    match edges.findIdx? (competes e) with
    | some first =>
      let source := e.source
      let target := e.target
      let priority := e.priority
      if first < index then
        some (.error "topology.edge.priority_duplicate" (edgePath index)
          s!"Edge {source} -> {target} reuses priority {priority} of graph.edges[{first}]")
      else none
    | none => none

/-- The edges of one node have different priorities; zero is none. -/
def priorityIssues (f : Flow) (_ : Options) : List Issue :=
  f.edges.zipIdx.filterMap fun e => priorityIssue f.edges e.1 e.2

/-- Edges and entries refer to nodes. -/
def referenceIssues (f : Flow) (_ : Options) : List Issue :=
  (f.edges.zipIdx.flatMap fun (e, index) =>
    let source := e.source
    let target := e.target
    (if f.hasNode source then [] else
      [.error "topology.edge.from_missing" (edgePath index)
        s!"Edge source '{source}' does not exist"]) ++
    (if f.hasNode target then [] else
      [.error "topology.edge.to_missing" (edgePath index)
        s!"Edge target '{target}' does not exist"])) ++
  (f.entries.zipIdx.filter fun e => !f.hasNode e.1.target).map fun (e, index) =>
    let kind := e.kind.name
    let target := e.target
    .error "topology.entry.target_missing" (entryPath index)
      s!"{kind} entry targets unknown node '{target}'"

/-- No cycle closes without a guard. -/
def cycleIssues (f : Flow) (o : Options) : List Issue :=
  (f.cycles o).map fun c =>
    let path := Text.joined " -> " c.path
    let label := c.arc.edge.label
    .warn "topology.cycle.unguarded" (edgePath c.arc.index)
      s!"Cycle {path} closes on edge labeled '{label}' without a guard"

/-- The bot declares channels, and none of them is blank. -/
def channelIssues (f : Flow) (_ : Options) : List Issue :=
  let channels := f.design.bot.channels
  if channels.isEmpty then
    [.error "topology.channels.empty" "bot.channels" "Bot must declare at least one channel"]
  else
    (channels.zipIdx.filter fun c => Text.blank c.1).map fun (_, index) =>
      .error "topology.channels.blank" s!"bot.channels[{index}]"
        "Channel identifier must not be empty"

/-- Every node can be reached from some entry that starts at a node. -/
def reachabilityIssues (f : Flow) (_ : Options) : List Issue :=
  let roots := f.entryRoots
  if roots.isEmpty then []
  else
    let reached := f.reachable roots
    ((addNew [] (f.nodes.map (·.id))).filter fun id => !reached.contains id).map fun id =>
      .warn "topology.node.unreachable" (nodePath id)
        s!"Node '{id}' is not reachable from any entry"

end Flow

/-- The rules for the graph, in the order in which they report. -/
def flowRules : List FlowRule := [
  ⟨"global_start", Flow.globalStartIssues⟩,
  ⟨"channel_start", Flow.channelStartIssues⟩,
  ⟨"final_node", Flow.finalNodeIssues⟩,
  ⟨"edge_priority", Flow.priorityIssues⟩,
  ⟨"references", Flow.referenceIssues⟩,
  ⟨"cycles", Flow.cycleIssues⟩,
  ⟨"channels", Flow.channelIssues⟩,
  ⟨"reachability", Flow.reachabilityIssues⟩]

/-- What all rules for the graph report. -/
def flowIssues (f : Flow) (o : Options) : List Issue := flowRules.flatMap fun r => r.apply f o

end ChatPlan
