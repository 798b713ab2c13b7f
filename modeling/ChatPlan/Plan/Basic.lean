import ChatPlan.Check.Pipeline
import ChatPlan.Design.Writer
import ChatPlan.Hash
import ChatPlan.Json.Basic
import ChatPlan.View.Reader

/-
Plans. Compiling a design builds every node, shows it, brings its view into the form of a channel,
and runs all checks. It fails only where a node cannot be built, shown or adapted; whatever checks
find is kept beside the plan. The time at which a plan was made, which a stored plan carries as
well, is left out: it comes from the clock, and nothing reads it.

A plan names the checksum of its design. For it nodes are sorted by their id and edges by everything
but their metadata, so that the order in which they are declared does not count.
-/
namespace ChatPlan

/-! ## Checksums -/

/-- The order of guards: none comes first. -/
def compareGuards : Option String → Option String → Ordering
  | none, none => .eq
  | none, some _ => .lt
  | some _, none => .gt
  | some a, some b => compare a b

/-- The order of edges: by source, target, label, priority and guard. -/
def Edge.compareTo (a b : Edge) : Ordering :=
  (compare a.source b.source).then <| (compare a.target b.target).then <|
    (compare a.label b.label).then <| (compare a.priority b.priority).then <|
      compareGuards a.guard b.guard

namespace Design

/-- The design with sorted nodes and edges; those that are equal in the order stay as they are. -/
def sorted (d : Design) : Design :=
  { d with
    graph :=
      { nodes := d.graph.nodes.mergeSort fun a b => a.id ≤ b.id
        edges := d.graph.edges.mergeSort fun a b => a.compareTo b != .gt } }

/-- The text whose digest is the checksum. -/
def canonicalText (d : Design) : String := d.sorted.toJson.compact

/-- The checksum of the design, in hexadecimal digits. -/
def checksum (d : Design) : String :=
  Hash.hex (Hash.Sha256.digest (Hash.bytesOfText d.canonicalText))

end Design

/-! ## Compiling -/

/-- A node of a plan, with its view on the channel. -/
structure Route where
  node : String
  view : View

/-- What a channel can execute. -/
structure Plan where
  schema : String
  id : String
  checksum : String
  adapter : String
  routes : List Route
  maxTextLen : Option Nat
  maxButtons : Option Nat

/-- The first route of a node. -/
def Plan.route? (p : Plan) (node : String) : Option Route := p.routes.find? (·.node == node)

/-- A plan, and what the checks found. -/
structure Compilation where
  plan : Plan
  checksum : String
  issues : List Issue

namespace Compilation

/-- No check found an error. -/
def isValid (c : Compilation) : Bool := !hasErrors c.issues

/-- The errors among the issues. -/
def errors (c : Compilation) : List Issue := c.issues.filter Issue.isError

end Compilation

/-- What a compile needs besides the design. -/
structure Compiler where
  registry : Registry
  adapter : Adapter
  options : Options := .default
  pipeline : Pipeline := .standard

namespace Compiler

/-- A failure of a kind that names no node gets the node at hand. -/
def nameNode (id : String) : Failure → Failure
  | .factory kind node message => .factory kind (if node.isEmpty then id else node) message
  | e => e

/-- The step of a node. -/
def step (c : Compiler) (d : Design) (n : Node) : Except Failure Step :=
  (c.registry.build n.kind (d.resolvedProps n)).mapError (nameNode n.id)

/-- The view of a node on no channel. -/
def view (c : Compiler) (d : Design) (n : Node) : Except Failure View := do
  let s ← c.step d n
  (s.view (Values.ofProfile? d.profile)).mapError fun e => .spec n.id e.toFailure.message

/-- A failure of the adapter, unless it is one already. -/
def adapterFailure (c : Compiler) (id : String) : Failure → Failure
  | .adapter name node message => .adapter name node message
  | e => .adapter c.adapter.name id e.message

/-- The view of a node, and its route on the channel. -/
def route (c : Compiler) (d : Design) (n : Node) : Except Failure (View × Route) := do
  let v ← c.view d n
  let shown ← (c.adapter.adapt v).mapError (c.adapterFailure n.id)
  return (v, ⟨n.id, shown⟩)

/-- What all checks find in a design with these views. -/
def issues (c : Compiler) (d : Design) (views : List View) : List Issue :=
  let flow := Flow.ofDesign d
  flowIssues flow c.options ++
    c.pipeline.designIssues ⟨flow, c.registry, c.adapter.capabilities, c.options⟩ ++
    c.pipeline.viewsIssues c.adapter.capabilities c.options views

/-- The plan with these views and routes, and what the checks find. -/
def assemble (c : Compiler) (d : Design) (routes : List (View × Route)) : Compilation :=
  let checksum := d.checksum
  { plan := {
      schema := c.options.schema
      id := Hash.Sha1.identifier checksum
      checksum
      adapter := c.adapter.name
      routes := routes.map (·.2)
      maxTextLen := c.adapter.capabilities.maxTextLen
      maxButtons := c.adapter.capabilities.maxButtons }
    checksum
    issues := c.issues d (routes.map (·.1)) }

/-- Compiles a design, or fails at its first node that cannot be compiled. -/
def compile (c : Compiler) (d : Design) : Except Failure Compilation :=
  (d.graph.nodes.mapM (c.route d)).map (c.assemble d)

end Compiler

open Json

def Route.toJson (r : Route) : Json := object [("node", .str r.node), ("view", r.view.toJson)]

def Plan.toJson (p : Plan) : Json :=
  object [("schema", .str p.schema), ("plan_id", .str p.id), ("design_checksum", .str p.checksum),
    ("adapter", .str p.adapter), ("routes", .arr (p.routes.map Route.toJson)),
    ("constraints", object [("max_text_len", Capabilities.ofLimit p.maxTextLen),
      ("max_buttons", Capabilities.ofLimit p.maxButtons)])]

/-! ## Reading what a plan executes -/

def Route.ofTree? (t : Tree) : Option Route :=
  match t.slots [["node"], ["view"]] with
  | some [node, view] => do
    return { node := ← node.required Tree.asString?, view := ← view.required View.ofTree? }
  | _ => none

end ChatPlan
