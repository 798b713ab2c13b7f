import ChatPlan.Check.Basic
import ChatPlan.Guard.Parser

/-
Checks of a design, node by node and edge by edge. Its shape: what has to be there, and the words
that it may use. Its outputs: what a node can emit has to be declared, what it declares has to be
something that it can emit, and edges react to declared outputs. Its policies: each has to be
allowed for the kind of its node. Its variables: the names in the profile, the keys under which
steps keep what they capture, and what edges set.
-/
namespace ChatPlan.Shape

/-! ## Shape -/

def documentIssues (d : Design) : List Issue :=
  (if Text.blank d.schema then
    [.error "design.schema.missing" "schema" "Design has no schema identifier"] else []) ++
  (if Text.blank d.bot.id then [.error "design.bot.id_missing" "bot.id" "Bot has no id"] else []) ++
  (if d.version.status = .unknown then
    [.error "design.version.status_unknown" "version.status"
      "Version status must be 'development' or 'production'"] else [])

def entryIssues (d : Design) : List Issue :=
  (if d.entries.isEmpty then
    [.error "design.entries.empty" "entries" "Design declares no entries"] else []) ++
  (d.entries.zipIdx.filter fun e => e.1.kind == .unknown).map fun e =>
    .error "design.entry.kind_unknown" (entryPath e.2 ++ ".kind")
      "Entry kind must be global_start, channel_start or forced"

/-- The id of a node was used before. -/
def duplicateIssue (d : Design) (id : String) (index : Nat) : Option Issue :=
  match d.graph.nodes.findIdx? fun n => n.id == id with
  | some first =>
    if first < index then
      some (.error "design.node.duplicate_id" s!"graph.nodes[{index}]"
        s!"Node id '{id}' is already used by graph.nodes[{first}]")
    else none
  | none => none

/-- The kind of a node is no name, or no kind that is known. -/
def kindIssue (r : Registry) (id kind : String) : Option Issue :=
  if !isKindName kind then
    some (.error "design.node.kind_invalid" (nodePath id ++ ".kind")
      s!"Node kind '{kind}' is not a valid identifier")
  else if (r.kind? kind).isNone then
    let known := Text.joined ", " r.names
    some (.error "design.node.kind_unknown" (nodePath id ++ ".kind")
      s!"Node kind '{kind}' is not registered; known kinds: {known}")
  else none

/-- A node refers to properties that nobody shares. -/
def referenceIssue (d : Design) (n : Node) : Option Issue :=
  match n.propsRef with
  | none => none
  | some name =>
    if Members.has d.props name then none
    else
      some (.error "design.props_ref.unknown" (nodePath n.id ++ ".props_ref")
        s!"Node references unknown shared props '{name}'")

def nodeIssues (c : DesignContext) (n : Node) (index : Nat) : List Issue :=
  if Text.blank n.id then
    [.error "design.node.id_missing" s!"graph.nodes[{index}]" "Node has no id"]
  else
    (duplicateIssue c.design n.id index).toList ++ (kindIssue c.registry n.id n.kind).toList ++
      (referenceIssue c.design n).toList

def edgeIssues (e : Edge) (index : Nat) : List Issue :=
  let source := e.source
  let target := e.target
  (if Text.blank e.label then
    [.error "design.edge.label_missing" (edgePath index ++ ".label")
      s!"Edge {source} -> {target} has no label"] else []) ++
  match e.guardText? with
  | none => []
  | some guard =>
    match Guard.parse guard with
    | .ok _ => []
    | .error g =>
      let reason := g.toFailure.message
      [.error "design.edge.guard_invalid" (edgePath index ++ ".guard")
        s!"Guard '{guard}' does not parse: {reason}"]

/-- The issues of the shape of a design. -/
def issues (c : DesignContext) : List Issue :=
  documentIssues c.design ++ entryIssues c.design ++
    (c.flow.nodes.zipIdx.flatMap fun n => nodeIssues c n.1 n.2) ++
    c.flow.edges.zipIdx.flatMap fun e => edgeIssues e.1 e.2

end ChatPlan.Shape

namespace ChatPlan.Outputs

/-! ## Outputs -/

/-- The place of an output in issues. -/
def outputPath (n : Node) (index : Nat) : String := nodePath n.id ++ s!".outputs[{index}]"

/-- The place of all outputs of a node in issues. -/
def outputsPath (n : Node) : String := nodePath n.id ++ ".outputs"

/-- An output is declared twice. -/
def duplicateIssues (n : Node) : List Issue :=
  let kind := n.kind
  (n.outputs.zipIdx.filter fun o => n.outputs.idxOf o.1 < o.2).map fun (output, index) =>
    .error s!"output.{kind}.duplicate_output" (outputPath n index)
      s!"Output '{output}' is declared more than once"

/-- The output stands for an element, or is standard. -/
def isMapped (elements : List Element) (output : String) : Bool :=
  standardOutputs.contains output || elements.any fun e => e.isNamed output

/-- Outputs and elements belong together. -/
def interactiveIssues (n : Node) (element : String) (elements : List Element) : List Issue :=
  let id := n.id
  let kind := n.kind
  let standard := Text.joined ", " standardOutputs
  ((n.outputs.zipIdx.filter fun o => !isMapped elements o.1).map fun (output, index) =>
    .error s!"output.{kind}.unmapped_output" (outputPath n index)
      (s!"Output '{output}' of '{id}' matches no {element} and is not a standard output" ++
        s!" ({standard})")) ++
  (elements.filter fun e => !n.outputs.any e.isNamed).map fun e =>
    let name := e.displayName
    .error s!"output.{kind}.missing_{element}_output" (outputsPath n)
      s!"The {element} '{name}' of '{id}' has no matching output"

/-- The outputs are those of a fixed set. A final node may declare none. -/
def fixedIssues (n : Node) (required optional : List String) : List Issue :=
  if n.isFinal && n.outputs.isEmpty then []
  else
    let id := n.id
    let kind := n.kind
    let known := required ++ optional
    let listed := Text.joined ", " (known.mergeSort fun a b => a ≤ b)
    ((required.filter fun o => !n.outputs.contains o).map fun output =>
      .error s!"output.{kind}.missing_fixed_output" (outputsPath n)
        s!"Node '{id}' must expose output '{output}'") ++
    (n.outputs.zipIdx.filter fun o => !known.contains o.1).map fun (output, index) =>
      .error s!"output.{kind}.unexpected_output" (outputPath n index)
        s!"Kind '{kind}' cannot emit '{output}'; its outputs are {listed}"

/-- The outputs of the policies that have one. -/
def policyOutputs (b : Behavior) : List String :=
  (b.timeout.map (·.output)).toList ++ (b.validation.map (·.output)).toList ++
    (b.fallback.map (·.output)).toList

/-- A policy leads to an output that is not declared. -/
def policyIssues (n : Node) (p : Props) : List Issue :=
  match Behavior.read p with
  | .ok (some b) =>
    let id := n.id
    let kind := n.kind
    ((policyOutputs b).filter fun o => !n.outputs.contains o).map fun output =>
      .warn s!"output.{kind}.behavior_output_missing" (outputsPath n)
        s!"Node '{id}' routes a behavior to '{output}' but does not declare it"
  | _ => []

/-- The outputs of one node. Nothing is known of those of an unknown kind. -/
def nodeIssues (c : DesignContext) (n : Node) : List Issue :=
  match c.registry.kind? n.kind with
  | none => []
  | some k =>
    duplicateIssues n ++
    (match k.outputs with
      | .interactive element elements => interactiveIssues n element (elements (c.props n))
      | .fixed required optional => fixedIssues n required optional) ++
    policyIssues n (c.props n)

/-- An edge reacts to an output that its source does not declare. -/
def edgeIssue (f : Flow) (e : Edge) (index : Nat) : Option Issue :=
  match f.node? e.source with
  | none => none
  | some n =>
    if Text.blank e.label || n.outputs.contains e.label then none
    else
      let source := e.source
      let target := e.target
      let label := e.label
      some (.error "output.edge.unknown_label" (edgePath index)
        (s!"Edge {source} -> {target} reacts to '{label}', which '{source}' does not declare as" ++
          " an output"))

/-- The issues of the outputs of a design. -/
def issues (c : DesignContext) : List Issue :=
  c.flow.nodes.flatMap (nodeIssues c) ++
    c.flow.edges.zipIdx.filterMap fun e => edgeIssue c.flow e.1 e.2

end ChatPlan.Outputs

namespace ChatPlan.Policies

/-! ## Policies -/

/-- A policy that the kind of the node does not allow. -/
def policyIssue (n : Node) (allowed : List Policy) (p : Policy) : Issue :=
  let key := p.key
  let kind := n.kind
  let listed := if allowed.isEmpty then "none" else Text.joined ", " (allowed.map Policy.key)
  .error s!"behavior.{key}.not_allowed" (nodePath n.id ++ ".props." ++ key)
    s!"Behavior '{key}' is not allowed on kind '{kind}'; allowed: {listed}"

/-- The policies of one node that are not allowed. -/
def nodeIssues (c : DesignContext) (n : Node) : List Issue :=
  match c.registry.kind? n.kind with
  | none => []
  | some k =>
    ((presentPolicies (c.props n)).filter fun p => !k.allowed.contains p).map
      (policyIssue n k.allowed)

/-- The issues of the policies of a design. -/
def issues (c : DesignContext) : List Issue := c.flow.nodes.flatMap (nodeIssues c)

end ChatPlan.Policies

namespace ChatPlan.Variables

/-! ## Names of variables -/

/-- A name that is no name of a variable. -/
def nameIssue (path what name : String) : Issue :=
  .error "variable.name.invalid" path
    (s!"{what} '{name}' must start with a letter or underscore and contain only letters, digits" ++
      " and underscores")

/-- The names among these that are no names of variables. -/
def nameIssues (place what : String) (names : List String) : List Issue :=
  (names.filter fun name => !isIdentifier name).map fun name =>
    nameIssue (place ++ "." ++ name) what name

def profileIssues (p : Profile) : List Issue :=
  nameIssues "profile.context" "Context variable" (p.context.map (·.1)) ++
    nameIssues "profile.variables" "Profile variable" (p.supplied.map (·.1))

/-- The profile names the variable. -/
def isDeclared (d : Design) (name : String) : Bool :=
  d.profile.any fun p => Members.has p.context name || Members.has p.supplied name

/-- The key under which a node keeps something. -/
def keyIssue (d : Design) (n : Node) : Option Issue :=
  match Persistence.read (d.resolvedProps n) with
  | .ok (some p) =>
    let key := p.key
    let path := nodePath n.id ++ ".props.persist"
    if !isIdentifier key then some (nameIssue path "Persistence key" key)
    else if isDeclared d key then none
    else
      some (.info "variable.persist.undeclared" path
        s!"Persistence key '{key}' is not declared in the profile")
  | _ => none

def edgeIssues (e : Edge) (index : Nat) : List Issue :=
  match e.metadata with
  | none => []
  | some m =>
    nameIssues (edgePath index ++ ".metadata.set") "Variable" (m.assignments.map (·.1))

/-- The issues of the names of variables. -/
def issues (c : DesignContext) : List Issue :=
  (c.design.profile.toList.flatMap profileIssues) ++ c.flow.nodes.filterMap (keyIssue c.design) ++
    c.flow.edges.zipIdx.flatMap fun e => edgeIssues e.1 e.2

end ChatPlan.Variables
