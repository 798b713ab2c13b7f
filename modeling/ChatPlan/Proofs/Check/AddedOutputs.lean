import ChatPlan.Proofs.Check.PolicyOutputs
import Mathlib.Data.List.Dedup

/-
Outputs that are added to a node. Where no output of a node stands for one of its elements, the
check of outputs says so and names the element. Once these names are declared as well, each of them
once, nothing of the kind is left to say of the node, and nothing else is found that was not found
before (`added_outputs_mend`).
-/
namespace ChatPlan

/-- The node with further outputs at the end. -/
def Node.addOutputs (n : Node) (names : List String) : Node :=
  { n with outputs := n.outputs ++ names }

/-- The design with further outputs at the node with this number. -/
def Design.addOutputs (d : Design) (k : Nat) (names : List String) : Design :=
  { d with graph := { d.graph with nodes := d.graph.nodes.modify k (·.addOutputs names) } }

/-! ## Lists in which one member changes -/

section Lists

variable {α β : Type} {l : List α} {k : Nat} {f : α → α}

theorem flatMap_modify_sublist {g : α → List β}
    (h : ∀ a, l[k]? = some a → (g (f a)).Sublist (g a)) :
    ((l.modify k f).flatMap g).Sublist (l.flatMap g) := by
  induction l generalizing k with
  | nil => rw [List.modify_nil]
  | cons a l ih =>
    cases k with
    | zero => exact (h a rfl).append (.refl _)
    | succ k => exact (List.Sublist.refl _).append (ih h)

theorem find?_modify {p : α → Bool} (hp : ∀ a, p (f a) = p a) :
    (l.modify k f).find? p = l.find? p ∨ (l.modify k f).find? p = (l.find? p).map f := by
  induction l generalizing k with
  | nil => rw [List.modify_nil]; exact .inl rfl
  | cons a l ih =>
    cases k with
    | zero =>
      rw [List.modify_zero_cons, List.find?_cons, List.find?_cons, hp]
      cases p a with
      | false => exact .inl rfl
      | true => exact .inr rfl
    | succ k =>
      rw [List.modify_succ_cons, List.find?_cons, List.find?_cons]
      cases p a with
      | false => exact ih
      | true => exact .inl rfl

theorem filterMap_sublist {g h : α → Option β} (hgh : ∀ a ∈ l, g a = none ∨ g a = h a) :
    (l.filterMap g).Sublist (l.filterMap h) := by
  induction l with
  | nil => exact .slnil
  | cons a l ih =>
    obtain ⟨ha, hl⟩ := List.forall_mem_cons.1 hgh
    rw [List.filterMap_cons, List.filterMap_cons]
    rcases ha with ha | ha
    · rw [ha]
      cases h a with
      | none => exact ih hl
      | some b => exact (ih hl).cons b
    · rw [ha]
      cases h a with
      | none => exact ih hl
      | some b => exact (ih hl).cons_cons b

/-- New members at the end, each of them once, repeat nothing. -/
theorem filter_idxOf_append {l new : List String} (hnew : new.Nodup) (hl : ∀ a ∈ new, a ∉ l) :
    ((l ++ new).zipIdx.filter fun p => (l ++ new).idxOf p.1 < p.2) =
      l.zipIdx.filter fun p => l.idxOf p.1 < p.2 := by
  have hold : (l.zipIdx.filter fun p => (l ++ new).idxOf p.1 < p.2) =
      l.zipIdx.filter fun p => l.idxOf p.1 < p.2 := by
    refine List.filter_congr fun p hp => ?_
    rw [List.idxOf_append_of_mem (List.fst_mem_of_mem_zipIdx hp)]
  have hadded : ((new.zipIdx (0 + l.length)).filter fun p => (l ++ new).idxOf p.1 < p.2) = [] := by
    refine List.filter_eq_nil_iff.2 fun p hp => ?_
    obtain ⟨hle, hlt, heq⟩ := List.mem_zipIdx hp
    have hi : p.2 - (0 + l.length) < new.length := by omega
    have hmem : p.1 ∉ l := hl p.1 (heq ▸ List.getElem_mem hi)
    rw [List.idxOf_append_of_notMem hmem, heq, hnew.idxOf_getElem _ hi]
    simp only [decide_eq_true_eq]
    omega
  rw [List.zipIdx_append, List.filter_append, hold, hadded, List.append_nil]

end Lists

namespace Outputs

variable {n : Node} {names : List String}

/-- What is said of an element for which no output stands. -/
def elementIssue (n : Node) (element : String) (e : Element) : Issue :=
  .error s!"output.{n.kind}.missing_{element}_output" (outputsPath n)
    s!"The {element} '{e.displayName}' of '{n.id}' has no matching output"

theorem duplicateIssues_addOutputs (hnames : names.Nodup)
    (hnew : ∀ name ∈ names, name ∉ n.outputs) :
    duplicateIssues (n.addOutputs names) = duplicateIssues n :=
  congrArg (List.map _) (filter_idxOf_append hnames hnew)

/-- Names of elements are mapped, and nothing is missing once each element has a name among the
outputs. -/
theorem interactiveIssues_addOutputs {element : String} {es : List Element}
    (hmapped : ∀ name ∈ names, isMapped es name = true)
    (hnamed : ∀ e ∈ es, (n.outputs ++ names).any e.isNamed = true) :
    (interactiveIssues (n.addOutputs names) element es).Sublist
      (interactiveIssues n element es) := by
  have hunmapped : ((n.outputs ++ names).zipIdx.filter fun o => !isMapped es o.1) =
      n.outputs.zipIdx.filter fun o => !isMapped es o.1 := by
    have hadded : ((names.zipIdx (0 + n.outputs.length)).filter fun o => !isMapped es o.1) = [] := by
      refine List.filter_eq_nil_iff.2 fun o ho => ?_
      rw [hmapped o.1 (List.fst_mem_of_mem_zipIdx ho)]
      exact Bool.false_ne_true
    rw [List.zipIdx_append, List.filter_append, hadded, List.append_nil]
  have hmissing : (es.filter fun e => !(n.outputs ++ names).any e.isNamed) = [] := by
    refine List.filter_eq_nil_iff.2 fun e he => ?_
    rw [hnamed e he]
    exact Bool.false_ne_true
  rw [interactiveIssues, Node.addOutputs]
  dsimp only
  rw [hunmapped, hmissing]
  exact .append (.refl _) (List.nil_sublist _)

theorem policyIssues_addOutputs (p : Props) :
    (policyIssues (n.addOutputs names) p).Sublist (policyIssues n p) := by
  rw [policyIssues, policyIssues]
  split
  · refine List.Sublist.map _ (List.monotone_filter_right _ fun o ho => ?_)
    rw [Bool.not_eq_true', List.contains_eq_mem, decide_eq_false_iff_not] at ho ⊢
    exact fun hmem => ho (List.mem_append_left _ hmem)
  · exact .slnil

/-! ## Findings of elements -/

theorem code_ne_missing {kind element : String} (word : String) (h : word.toList[1]? ≠ some 'm') :
    "output." ++ kind ++ word ≠ s!"output.{kind}.missing_{element}_output" := by
  intro heq
  have hword : word = ".missing_" ++ (element ++ "_output") := by
    simpa [toString, String.append_assoc] using heq
  exact h (by rw [hword]; simp)

theorem missing_ne_unknown {kind element : String} :
    s!"output.{kind}.missing_{element}_output" ≠ "output.edge.unknown_label" := by
  intro heq
  -- the two codes end differently
  have hlast := congrArg (·.toList.reverse.head?) heq
  simp [toString] at hlast

variable {c : DesignContext} {kind : Kind} {element : String} {elements : Props → List Element}
  (hkind : c.registry.kind? n.kind = some kind) (hrule : kind.outputs = .interactive element elements)

include hkind hrule

theorem exists_element_of_code {i : Issue} (hi : i ∈ nodeIssues c n)
    (hcode : i.code = s!"output.{n.kind}.missing_{element}_output") :
    ∃ e ∈ elements (c.props n), n.outputs.any e.isNamed = false ∧ i = elementIssue n element e := by
  rw [nodeIssues, hkind] at hi
  simp only [hrule, interactiveIssues, List.mem_append] at hi
  rcases hi with (hi | hi | hi) | hi
  · obtain ⟨q, -, rfl⟩ := List.mem_map.1 hi
    exact absurd hcode (code_ne_missing ".duplicate_output" (by decide))
  · obtain ⟨q, -, rfl⟩ := List.mem_map.1 hi
    exact absurd hcode (code_ne_missing ".unmapped_output" (by decide))
  · obtain ⟨e, he, rfl⟩ := List.mem_map.1 hi
    obtain ⟨he, hnone⟩ := List.mem_filter.1 he
    exact ⟨e, he, by simpa using hnone, rfl⟩
  · rw [policyIssues] at hi
    split at hi
    · obtain ⟨o, -, rfl⟩ := List.mem_map.1 hi
      exact absurd hcode (code_ne_missing ".behavior_output_missing" (by decide))
    · cases hi

/-- An element is reported if no output stands for it, or for another element with its name. -/
theorem elementIssue_mem_iff {e : Element} : elementIssue n element e ∈ nodeIssues c n ↔
    ∃ e' ∈ elements (c.props n), n.outputs.any e'.isNamed = false ∧
      e'.displayName = e.displayName := by
  constructor
  · intro h
    obtain ⟨e', he', hnone, heq⟩ := exists_element_of_code hkind hrule h rfl
    exact ⟨e', he', hnone, by simpa [elementIssue, Issue.error, toString] using heq.symm⟩
  · rintro ⟨e', he', hnone, hname⟩
    have hsame : elementIssue n element e = elementIssue n element e' := by
      rw [elementIssue, elementIssue, hname]
    rw [hsame, nodeIssues, hkind]
    simp only [hrule, interactiveIssues, List.mem_append]
    exact .inl (.inr (.inr (List.mem_map.2
      ⟨e', List.mem_filter.2 ⟨he', by rw [hnone]; rfl⟩, rfl⟩)))

/-- The names are those of the elements that are reported to have no output, each of them once. -/
structure MissingNames (c : DesignContext) (n : Node) (element : String) (es : List Element)
    (names : List String) : Prop where
  nodup : names.Nodup
  mem_iff : ∀ name, name ∈ names ↔
    ∃ e ∈ es, elementIssue n element e ∈ nodeIssues c n ∧ e.displayName = name

omit hkind hrule in
theorem isNamed_displayName {e : Element} (h : e.identifiers ≠ []) :
    e.isNamed e.displayName = true := by
  obtain ⟨name, rest, hids⟩ := List.exists_cons_of_ne_nil h
  rw [Element.isNamed, List.contains_iff_mem, Element.displayName, hids]
  exact List.mem_cons_self

/-- The names of the elements for which the node has no output, each of them once. -/
def missingNames (n : Node) (es : List Element) : List String :=
  ((es.filter fun e => !n.outputs.any e.isNamed).map Element.displayName).dedup

/-- What is reported can always be named. -/
theorem missingNames_spec : MissingNames c n element (elements (c.props n))
    (missingNames n (elements (c.props n))) where
  nodup := List.nodup_dedup _
  mem_iff name := by
    simp only [missingNames, List.mem_dedup, List.mem_map, List.mem_filter, Bool.not_eq_true',
      elementIssue_mem_iff hkind hrule]
    constructor
    · rintro ⟨e, ⟨he, hnone⟩, rfl⟩
      exact ⟨e, he, ⟨e, he, hnone, rfl⟩, rfl⟩
    · rintro ⟨_, -, ⟨e, he, hnone, hname⟩, rfl⟩
      exact ⟨e, ⟨he, hnone⟩, hname⟩

theorem MissingNames.exists_element (h : MissingNames c n element (elements (c.props n)) names)
    {name : String} (hname : name ∈ names) :
    ∃ e ∈ elements (c.props n), n.outputs.any e.isNamed = false ∧ e.displayName = name := by
  obtain ⟨e, -, hreported, rfl⟩ := (h.mem_iff name).1 hname
  exact (elementIssue_mem_iff hkind hrule).1 hreported

/-- With the missing names, a node has nothing missing, and no other finding than before. -/
theorem nodeIssues_addOutputs (hids : ∀ e ∈ elements (c.props n), e.identifiers ≠ [])
    (h : MissingNames c n element (elements (c.props n)) names) :
    (nodeIssues c (n.addOutputs names)).Sublist (nodeIssues c n) ∧
      ∀ i ∈ nodeIssues c (n.addOutputs names),
        i.code ≠ s!"output.{n.kind}.missing_{element}_output" := by
  have hnew : ∀ name ∈ names, name ∉ n.outputs := by
    intro name hname hdeclared
    obtain ⟨e, he, hnone, rfl⟩ := h.exists_element hkind hrule hname
    exact List.any_eq_false.1 hnone _ hdeclared (isNamed_displayName (hids e he))
  have hmapped : ∀ name ∈ names, isMapped (elements (c.props n)) name = true := by
    intro name hname
    obtain ⟨e, he, -, rfl⟩ := h.exists_element hkind hrule hname
    rw [isMapped, Bool.or_eq_true]
    exact .inr (List.any_eq_true.2 ⟨e, he, isNamed_displayName (hids e he)⟩)
  have hnamed : ∀ e ∈ elements (c.props n), (n.outputs ++ names).any e.isNamed = true := by
    intro e he
    rw [List.any_append, Bool.or_eq_true]
    -- an output stands for the element already, or the element is reported and its name declared
    by_cases hbefore : n.outputs.any e.isNamed = true
    · exact .inl hbefore
    · have hreported : elementIssue n element e ∈ nodeIssues c n :=
        (elementIssue_mem_iff hkind hrule).2 ⟨e, he, by simpa using hbefore, rfl⟩
      have hname : e.displayName ∈ names := (h.mem_iff _).2 ⟨e, he, hreported, rfl⟩
      exact .inr (List.any_eq_true.2 ⟨_, hname, isNamed_displayName (hids e he)⟩)
  have hkind' : c.registry.kind? (n.addOutputs names).kind = some kind := hkind
  constructor
  · rw [nodeIssues, nodeIssues, hkind', hkind]
    simp only [hrule]
    rw [duplicateIssues_addOutputs h.nodup hnew]
    exact ((List.Sublist.refl _).append (interactiveIssues_addOutputs hmapped hnamed)).append
      (policyIssues_addOutputs _)
  · intro i hi hcode
    obtain ⟨e, he, hnone, -⟩ := exists_element_of_code hkind' hrule hi hcode
    exact Bool.false_ne_true (hnone.symm.trans (hnamed e he))

omit hkind hrule in
theorem place_of_mem_nodeIssues {i : Issue} (hi : i ∈ nodeIssues c n) :
    i.path = outputsPath n ∨ ∃ j < n.outputs.length, i.path = outputPath n j := by
  have hplaced {p : String × Nat → Bool} {f : String × Nat → Issue}
      (hf : ∀ q, (f q).path = outputPath n q.2) (h : i ∈ (n.outputs.zipIdx.filter p).map f) :
      ∃ j < n.outputs.length, i.path = outputPath n j := by
    obtain ⟨q, hq, rfl⟩ := List.mem_map.1 h
    exact ⟨q.2, List.snd_lt_of_mem_zipIdx (List.mem_of_mem_filter hq), hf q⟩
  have hall {α : Type} {l : List α} {f : α → Issue} (hf : ∀ a, (f a).path = outputsPath n)
      (h : i ∈ l.map f) : i.path = outputsPath n := by
    obtain ⟨a, -, rfl⟩ := List.mem_map.1 h
    exact hf a
  rw [nodeIssues] at hi
  split at hi
  · cases hi
  · rcases List.mem_append.1 hi with hi | hi
    · rcases List.mem_append.1 hi with hi | hi
      · exact .inr (hplaced (fun _ => rfl) hi)
      · split at hi
        · rcases List.mem_append.1 hi with hi | hi
          · exact .inr (hplaced (fun _ => rfl) hi)
          · exact .inl (hall (fun _ => rfl) hi)
        · unfold fixedIssues at hi
          split at hi
          · cases hi
          · rcases List.mem_append.1 hi with hi | hi
            · exact .inl (hall (fun _ => rfl) hi)
            · exact .inr (hplaced (fun _ => rfl) hi)
    · rw [policyIssues] at hi
      split at hi
      · exact .inl (hall (fun _ => rfl) hi)
      · cases hi

omit hkind hrule

/-! ## A design with further outputs -/

section Design

variable {d : Design} {k : Nat} {names : List String} (r : Registry) (caps : Capabilities)
  (o : Options)

theorem code_of_edgeIssue {f : Flow} {e : Edge} {index : Nat} {i : Issue}
    (h : edgeIssue f e index = some i) : i.code = "output.edge.unknown_label" := by
  unfold edgeIssue at h
  split at h
  · cases h
  · split at h
    · cases h
    · cases h
      rfl

theorem edgeIssue_addOutputs (e : Edge) (index : Nat) :
    edgeIssue (.ofDesign (d.addOutputs k names)) e index = none ∨
      edgeIssue (.ofDesign (d.addOutputs k names)) e index = edgeIssue (.ofDesign d) e index := by
  have hnode : (d.addOutputs k names).node? e.source = d.node? e.source ∨
      (d.addOutputs k names).node? e.source = (d.node? e.source).map (·.addOutputs names) :=
    find?_modify fun _ => rfl
  simp only [edgeIssue, Flow.node?, Flow.ofDesign]
  rcases hnode with hnode | hnode
  · rw [hnode]
    exact .inr rfl
  · rw [hnode]
    cases d.node? e.source with
    | none => exact .inr rfl
    | some m =>
      by_cases hlabel : (Text.blank e.label || (m.outputs ++ names).contains e.label) = true
      · exact .inl (if_pos hlabel)
      · have hbefore : ¬(Text.blank e.label || m.outputs.contains e.label) = true := by
          simp only [Bool.or_eq_true, List.contains_eq_mem, List.mem_append, decide_eq_true_eq]
            at hlabel ⊢
          exact fun h => hlabel (h.imp_right .inl)
        exact .inr ((if_neg hlabel).trans (if_neg hbefore).symm)

/-- Where a design declares the names of the elements of a node that were reported to have no output,
each of them once, the check of outputs finds nothing that it did not find before, and no more often.
It reports no element of the node any more, and nothing at the new outputs; what is still reported of
such elements is reported of other nodes, as before. -/
theorem added_outputs_mend {n : Node} {kind : Kind} {element : String}
    {elements : Props → List Element} (hn : d.graph.nodes[k]? = some n)
    (hkind : r.kind? n.kind = some kind) (hrule : kind.outputs = .interactive element elements)
    (hids : ∀ e ∈ elements (d.resolvedProps n), e.identifiers ≠ [])
    (hnames : MissingNames (contextOf r caps o d) n element (elements (d.resolvedProps n)) names) :
    (issues (contextOf r caps o (d.addOutputs k names))).Sublist (issues (contextOf r caps o d)) ∧
    (d.addOutputs k names).graph.nodes[k]? = some (n.addOutputs names) ∧
    (∀ i ∈ nodeIssues (contextOf r caps o (d.addOutputs k names)) (n.addOutputs names),
      i.code ≠ s!"output.{n.kind}.missing_{element}_output" ∧
        ∀ j, n.outputs.length ≤ j → i.path ≠ outputPath n j) ∧
    ∀ i ∈ issues (contextOf r caps o (d.addOutputs k names)),
      i.code = s!"output.{n.kind}.missing_{element}_output" →
        ∃ j m, j ≠ k ∧ d.graph.nodes[j]? = some m ∧ i ∈ nodeIssues (contextOf r caps o d) m := by
  obtain ⟨hless, hnone⟩ := nodeIssues_addOutputs (c := contextOf r caps o d) hkind hrule hids hnames
  have hplace : (d.addOutputs k names).graph.nodes[k]? = some (n.addOutputs names) := by
    rw [Design.addOutputs, List.getElem?_modify_eq, hn]
    rfl
  refine ⟨?less, hplace, fun i hi => ⟨hnone i hi, fun j hj hpath => ?new⟩, fun i hi hcode => ?others⟩
  case less =>
    refine .append (flatMap_modify_sublist fun m hm => ?_)
      (filterMap_sublist fun e _ => edgeIssue_addOutputs e.1 e.2)
    obtain rfl := Option.some.inj (hn.symm.trans hm)
    exact hless
  case new =>
    rcases place_of_mem_nodeIssues (hless.subset hi) with hall | ⟨l, hl, hat⟩
    · exact outputsPath_ne n j (hall.symm.trans hpath)
    · have hjl : l = j := outputPath_injective n (hat.symm.trans hpath)
      omega
  case others =>
    rcases List.mem_append.1 hi with hi | hi
    · obtain ⟨m, hm, hi⟩ := List.mem_flatMap.1 hi
      obtain ⟨j, hj⟩ := List.mem_iff_getElem?.1 hm
      by_cases hjk : j = k
      · subst hjk
        obtain rfl := Option.some.inj (hplace.symm.trans hj)
        exact absurd hcode (hnone i hi)
      · have hsame : (d.addOutputs k names).graph.nodes[j]? = d.graph.nodes[j]? :=
          List.getElem?_modify_ne _ _ (Ne.symm hjk)
        exact ⟨j, m, hjk, hsame.symm.trans hj, hi⟩
    · obtain ⟨e, -, he⟩ := List.mem_filterMap.1 hi
      exact absurd (hcode.symm.trans (code_of_edgeIssue he)) missing_ne_unknown

end Design

end Outputs

/-- A question with an output for one of its three buttons; the other two bear the same label. -/
def reception.ask : Node where
  id := "ask"
  kind := "buttons"
  props := [
    ("buttons", .arr [
      .obj [("id", .str "rooms"), ("label", .str "Rooms")],
      .obj [("label", .str "Help")],
      .obj [("label", .str "Help"), ("payload", .str " ")]]),
    ("text", .str "How can we help?")]
  propsRef := none
  outputs := ["rooms"]
  isFinal := false
  position := none
  size := none

/-- The question is asked under one id twice, and an edge waits for an output that is missing. -/
def reception : Design where
  schema := "chat.design/v1"
  bot := ⟨"bot", ["web"]⟩
  version := ⟨"v1", .development⟩
  entries := [⟨.globalStart, none, "ask"⟩]
  graph := {
    nodes := [reception.ask, reception.ask]
    edges := [⟨"ask", "ask", "Help", 1, none, none⟩] }
  profile := none
  props := []

namespace Outputs

/-- With one more output, nothing is missing at the first question, and less is found than before. -/
theorem reception_mends : ∃ names,
    MissingNames (contextOf .builtin .webchat .default reception) reception.ask "button"
      (Props.buttonElements (reception.resolvedProps reception.ask)) names ∧ names = ["Help"] ∧
    (issues (contextOf .builtin .webchat .default (reception.addOutputs 0 names))).Sublist
      (issues (contextOf .builtin .webchat .default reception)) ∧
    ∀ i ∈ nodeIssues (contextOf .builtin .webchat .default (reception.addOutputs 0 names))
        (reception.ask.addOutputs names), i.code ≠ "output.buttons.missing_button_output" := by
  have hkind : Registry.builtin.kind? reception.ask.kind = some (.ofContent "buttons"
      choicePolicies (.interactive "button" Props.buttonElements) readButtonsContent) := rfl
  have hids : ((Props.buttonElements (reception.resolvedProps reception.ask)).all
      fun e => !e.identifiers.isEmpty) = true := by decide +kernel
  have hnames := missingNames_spec (c := contextOf .builtin .webchat .default reception) hkind rfl
  obtain ⟨hless, -, hnode, -⟩ := added_outputs_mend (d := reception) (k := 0) .builtin .webchat
    .default rfl hkind rfl (fun e he => by simpa using List.all_eq_true.1 hids e he) hnames
  refine ⟨_, hnames, by decide +kernel, hless, fun i hi => ?_⟩
  exact (hnode i hi).1

end Outputs

end ChatPlan
