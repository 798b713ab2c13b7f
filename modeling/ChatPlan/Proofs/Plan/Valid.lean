import ChatPlan.Proofs.Check.Errors
import ChatPlan.Proofs.Flow.Rules
import ChatPlan.Proofs.Plan.Compile
import ChatPlan.Proofs.Step.Kinds

/-
What a valid plan promises. Whatever a user can pick at a node has an output there, and every output
is one that the node can emit. This needs both ways of reading properties: the check looks at
elements, and what the view offers was made from them.

A run of a conversation starts at the target of an entry and follows edges. `Certified` collects
what the checks make sure of when none of them finds an error; from it, one step keeps a
conversation on a node that is safe (`Certified.step`), and so does a run of any length
(`Certified.run`).
-/
namespace ChatPlan

/-! ## Outputs -/

/-- The outputs of a node fit what it shows. Where a user can pick something, each pick was made from
an element with a declared output, and each output is standard or stands for an element; elsewhere
the outputs are fixed, and only a final node may do without them. -/
def Mapped (n : Node) (p : Props) (v : View) : OutputRule → Prop
  | .interactive _ elements =>
    List.SublistForall₂
      (fun pick e => Element.Makes e pick ∧
        ∃ o ∈ n.outputs, e.id = some o ∨ e.payload = some o ∨ e.label = some o)
      v.picks (elements p) ∧
    ∀ o ∈ n.outputs, o ∈ standardOutputs ∨ ∃ e ∈ elements p, o ∈ e.identifiers
  | .fixed required optional =>
    (n.isFinal = true ∧ n.outputs = []) ∨
      (∀ o ∈ required, o ∈ n.outputs) ∧ ∀ o ∈ n.outputs, o ∈ required ++ optional

/-- The outputs fit the elements, and what the view offers was made from these. -/
theorem mapped_of_fits {k : Kind} (hk : k ∈ builtinKinds) {n : Node} {p : Props} {s : Step}
    {values : Values} {v : View} (hs : k.build p = .ok s) (hv : s.view values = .ok v)
    (h : Outputs.Fits n p k.outputs) : Mapped n p v k.outputs := by
  cases hrule : k.outputs with
  | fixed required optional =>
    rw [hrule] at h
    exact h
  | interactive element elements =>
    rw [hrule] at h
    obtain ⟨hdeclared, hnamed⟩ := h
    obtain ⟨es, hmade, hsub⟩ := List.sublistForall₂_iff.1 (Kind.picks_of_view hk hs hv hrule)
    have hanswered : ∀ e ∈ es,
        ∃ o ∈ n.outputs, e.id = some o ∨ e.payload = some o ∨ e.label = some o := by
      intro e he
      obtain ⟨o, ho, hid⟩ := hnamed e (hsub.subset he)
      exact ⟨o, ho, Element.named_of_mem_identifiers hid⟩
    have hmakes : List.Forall₂ Element.Makes es v.picks := hmade.flip
    have hboth := ((List.forall₂_and_left es v.picks).2 ⟨hanswered, hmakes⟩).flip
    exact ⟨List.sublistForall₂_iff.2 ⟨es, hboth.imp fun _ _ h => h.symm, hsub⟩, hdeclared⟩

/-- A valid plan leaves no output unmapped. Every node has a view; its outputs are distinct, and fit
its kind and what the view offers. -/
theorem valid_plan_maps_outputs (k : Channel) (o : Options) {d : Design} {p : Compilation}
    (hp : (Compiler.forChannel k o).compile d = .ok p) (hv : p.isValid = true)
    {n : Node} (hn : n ∈ d.graph.nodes) :
    ∃ v, (Compiler.forChannel k o).view d n = .ok v ∧ n.outputs.Nodup ∧
      ∃ kind ∈ builtinKinds, kind.name = n.kind ∧ Mapped n (d.resolvedProps n) v kind.outputs := by
  obtain ⟨rs, hrs, rfl⟩ := Compiler.compile_eq_ok_iff.1 hp
  obtain ⟨i, hi⟩ := List.mem_iff_getElem?.1 hn
  obtain ⟨v, hview, -⟩ := Compiler.exists_view hrs hi
  obtain ⟨kind, s, hkind, hs, hsv⟩ := Compiler.view_eq_ok hview
  obtain ⟨hmem, hname⟩ := Registry.mem_builtinKinds hkind
  simp only [Compilation.isValid, Compiler.assemble, Compiler.issues, Compiler.forChannel,
    standard_designIssues_eq, hasErrors_append, Bool.not_eq_true', Bool.or_eq_false_iff] at hv
  obtain ⟨⟨-, -, houtputs, -⟩, -⟩ := hv
  obtain ⟨hdistinct, hfits⟩ := Outputs.fits_of_clean houtputs hn hkind
  exact ⟨v, hview, hdistinct, kind, hmem, hname, mapped_of_fits hmem hs hsv hfits⟩

/-- The question of the survey can be answered. -/
theorem valid_plan_maps_survey :
    ∃ p, (Compiler.forChannel .webchat .default).compile survey = .ok p ∧ p.isValid = true ∧
      ∃ v, (Compiler.forChannel .webchat .default).view survey survey.graph.nodes[0] = .ok v ∧
        survey.graph.nodes[0].outputs.Nodup ∧
          ∃ kind ∈ builtinKinds, kind.name = "confirm" ∧
            Mapped survey.graph.nodes[0] (survey.resolvedProps survey.graph.nodes[0]) v
              kind.outputs := by
  obtain ⟨p, hp, hv⟩ := compile_survey
  exact ⟨p, hp, hv, valid_plan_maps_outputs .webchat .default hp hv (List.getElem_mem _)⟩

/-! ## Runs -/

namespace Flow

/-- The arcs are a run from this node: each leaves the node to which the one before it leads. -/
def IsRun (f : Flow) : String → List Arc → Prop
  | _, [] => True
  | id, a :: rest => a ∈ f.outgoing id ∧ f.IsRun a.edge.target rest

/-- The nodes that a run visits, from its start on. -/
def visited (start : String) (run : List Arc) : List String :=
  start :: run.map (·.edge.target)

/-- The steps of a run: the node at which it stands, and the arc that it takes there. -/
def steps (start : String) (run : List Arc) : List (String × Arc) :=
  (visited start run).zip run

theorem steps_cons (start : String) (a : Arc) (run : List Arc) :
    steps start (a :: run) = (start, a) :: steps a.edge.target run := rfl

theorem visited_cons (start : String) (a : Arc) (run : List Arc) :
    visited start (a :: run) = start :: visited a.edge.target run := rfl

end Flow

open ChatPlan.Flow

/-- A node at which a conversation may stand. -/
structure SafeNode (d : Design) (p : Plan) (id : String) : Prop where
  declared : ∃ n ∈ d.graph.nodes, n.id = id
  routed : p.routes.countP (·.node == id) = 1
  priorities : ∀ a ∈ (ofDesign d).outgoing id, ∀ b ∈ (ofDesign d).outgoing id,
    a.index ≠ b.index → a.edge.priority = b.edge.priority → a.edge.priority = 0

/-- An edge that a conversation may take from the node at which it stands. -/
structure SafeStep (d : Design) (id : String) (e : Edge) : Prop where
  source : e.source = id
  notFinal : ∀ n ∈ d.graph.nodes, n.id = id → n.isFinal = false
  labelled : Text.blank e.label = false
  declared : ∀ n ∈ d.graph.nodes, n.id = id → e.label ∈ n.outputs
  guarded : ∀ g, e.guard = some g → Text.blank g = false → ∃ r, Guard.parse g = .ok r

/-- What the checks make sure of when none of them finds an error. -/
structure Certified (d : Design) : Prop where
  ids : (d.graph.nodes.map (·.id)).Nodup
  final : ∀ n ∈ d.graph.nodes, n.isFinal = true → (ofDesign d).outgoing n.id = []
  priorities : d.graph.edges.Pairwise fun a b => competes b a = true → b.priority = 0
  references : ∀ e ∈ d.graph.edges,
    (ofDesign d).hasNode e.source ∧ (ofDesign d).hasNode e.target
  entries : ∀ e ∈ d.entries, (ofDesign d).hasNode e.target
  edges : ∀ e ∈ d.graph.edges, Text.blank e.label = false ∧
    ∀ g, e.guardText? = some g → ∃ r, Guard.parse g = .ok r
  labels : ∀ e ∈ d.graph.edges, ∀ n, (ofDesign d).node? e.source = some n →
    Text.blank e.label = true ∨ e.label ∈ n.outputs

namespace Certified

variable {d : Design} {p : Plan} {id : String} {a : Arc}

/-- A design in which all checks find no error is certified. -/
theorem of_clean {k : Channel} {o : Options} {views : List View}
    (h : hasErrors ((Compiler.forChannel k o).issues d views) = false) : Certified d := by
  simp only [Compiler.issues, Compiler.forChannel, flowIssues_eq, standard_designIssues_eq,
    hasErrors_append, Bool.or_eq_false_iff] at h
  obtain ⟨⟨⟨_, _, hfinal, hpriority, hreference, _⟩, hshape, houtputs, _⟩, _⟩ := h
  have hrefs := referenceIssues_clean.1 hreference
  exact {
    ids := Shape.nodup_ids_of_clean hshape
    final := finalNodeIssues_clean.1 hfinal
    priorities := priorityIssues_clean.1 hpriority
    references := hrefs.1
    entries := hrefs.2
    edges := fun _ he => Shape.edge_of_clean hshape he
    labels := fun _ he _ hn => Outputs.label_of_clean houtputs he hn }

theorem safeNode (h : Certified d) (hp : p.routes.map (·.node) = d.graph.nodes.map (·.id))
    (hid : (ofDesign d).hasNode id = true) : SafeNode d p id := by
  obtain ⟨n, hn, rfl⟩ := hasNode_iff.1 hid
  refine ⟨⟨n, hn, rfl⟩, ?_, ?_⟩
  · have hcount : (p.routes.map (·.node)).count n.id = 1 := by
      rw [hp]
      exact List.count_eq_one_of_mem h.ids (List.mem_map_of_mem hn)
    rwa [List.count, List.countP_map] at hcount
  · intro a ha b hb hne hprio
    obtain ⟨ha, hsa⟩ := mem_outgoing.1 ha
    obtain ⟨hb, hsb⟩ := mem_outgoing.1 hb
    obtain ⟨hi, hea⟩ := List.getElem?_eq_some_iff.1 (Design.mem_arcs.1 ha)
    obtain ⟨hj, heb⟩ := List.getElem?_eq_some_iff.1 (Design.mem_arcs.1 hb)
    have hpair := List.pairwise_iff_getElem.1 h.priorities
    -- whichever of the two stands later is the one that must have no priority
    rcases Nat.lt_or_gt_of_ne hne with hlt | hlt
    · have h0 := hpair _ _ hi hj hlt
      rw [hea, heb] at h0
      rw [hprio]
      exact h0 (by simp [competes, hsa, hsb, hprio])
    · have h0 := hpair _ _ hj hi hlt
      rw [hea, heb] at h0
      exact h0 (by simp [competes, hsa, hsb, hprio])

/-- One step: what leaves a node is a safe edge, and leads to a declared node. -/
theorem step (h : Certified d) (ha : a ∈ (ofDesign d).outgoing id) :
    SafeStep d id a.edge ∧ (ofDesign d).hasNode a.edge.target = true := by
  obtain ⟨harc, hsource⟩ := mem_outgoing.1 ha
  have hedge : a.edge ∈ d.graph.edges := List.mem_of_getElem? (Design.mem_arcs.1 harc)
  obtain ⟨hlabel, hguard⟩ := h.edges _ hedge
  refine ⟨⟨hsource, ?_, hlabel, ?_, ?_⟩, (h.references _ hedge).2⟩
  · intro n hn hid
    subst hid
    cases hfinal : n.isFinal with
    | false => rfl
    | true =>
      rw [h.final n hn hfinal] at ha
      cases ha
  · intro n hn hid
    rcases h.labels _ hedge n ((node?_eq_some_iff h.ids).2 ⟨hn, hid.trans hsource.symm⟩) with hblank | hmem
    · rw [hlabel] at hblank
      cases hblank
    · exact hmem
  · intro g hg hblank
    exact hguard g (by simp [Edge.guardText?, hg, Option.filter, hblank])

/-- A run of any length: it stays on safe nodes and takes safe edges. -/
theorem run (h : Certified d) (hp : p.routes.map (·.node) = d.graph.nodes.map (·.id))
    {arcs : List Arc} (hid : (ofDesign d).hasNode id = true) (hrun : (ofDesign d).IsRun id arcs) :
    (∀ v ∈ visited id arcs, SafeNode d p v) ∧ ∀ s ∈ steps id arcs, SafeStep d s.1 s.2.edge := by
  -- on the arcs, for any start: a step leads to a declared node, from which the rest is a run
  induction arcs generalizing id with
  | nil => simpa [visited, steps] using h.safeNode hp hid
  | cons a arcs ih =>
    obtain ⟨ha, hrest⟩ := hrun
    obtain ⟨hstep, htarget⟩ := h.step ha
    obtain ⟨hnodes, hsteps⟩ := ih htarget hrest
    rw [visited_cons, steps_cons]
    exact ⟨List.forall_mem_cons.2 ⟨h.safeNode hp hid, hnodes⟩,
      List.forall_mem_cons.2 ⟨hstep, hsteps⟩⟩

end Certified

theorem certified_of_valid {k : Channel} {o : Options} {d : Design} {p : Compilation}
    (hp : (Compiler.forChannel k o).compile d = .ok p) (hv : p.isValid = true) : Certified d := by
  obtain ⟨rs, -, rfl⟩ := Compiler.compile_eq_ok_iff.1 hp
  exact Certified.of_clean (by simpa [Compilation.isValid, Compiler.assemble] using hv)

/-- A valid plan guides every conversation. Whatever entry it comes through and however long it
lasts, it stands only at declared nodes, each with exactly one route and with at most one edge of
any priority, and takes only edges out of nodes that are not final, whose labels are declared there
and whose guards can be read. -/
theorem valid_plan_guides_run (k : Channel) (o : Options) {d : Design} {p : Compilation}
    (hp : (Compiler.forChannel k o).compile d = .ok p) (hv : p.isValid = true)
    {e : Entry} (he : e ∈ d.entries) {run : List Arc} (hrun : (ofDesign d).IsRun e.target run) :
    (∀ id ∈ visited e.target run, SafeNode d p.plan id) ∧
      ∀ s ∈ steps e.target run, SafeStep d s.1 s.2.edge := by
  have hd := certified_of_valid hp hv
  exact hd.run (Compiler.routes_nodes hp) (hd.entries e he) hrun

/-- Asked once more, the survey ends at its last word. -/
theorem valid_plan_guides_survey :
    ∃ p, (Compiler.forChannel .webchat .default).compile survey = .ok p ∧ p.isValid = true ∧
      (∀ id ∈ ["ask", "ask", "end"], SafeNode survey p.plan id) ∧
      ∀ s ∈ [("ask", ⟨0, survey.graph.edges[0]⟩), ("ask", ⟨1, survey.graph.edges[1]⟩)],
        SafeStep survey s.1 (Arc.edge s.2) := by
  obtain ⟨p, hp, hv⟩ := compile_survey
  have hrun : (ofDesign survey).IsRun "ask"
      [⟨0, survey.graph.edges[0]⟩, ⟨1, survey.graph.edges[1]⟩] :=
    ⟨mem_outgoing.2 ⟨Design.mem_arcs.2 rfl, rfl⟩, mem_outgoing.2 ⟨Design.mem_arcs.2 rfl, rfl⟩, trivial⟩
  exact ⟨p, hp, hv, valid_plan_guides_run .webchat .default hp hv (e := ⟨.globalStart, none, "ask"⟩)
    (by simp [survey]) hrun⟩

end ChatPlan
