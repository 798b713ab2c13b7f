import ChatPlan.Flow.Rules
import ChatPlan.Proofs.Flow.Outgoing
import ChatPlan.Proofs.Issues
import ChatPlan.Proofs.Lists
import Mathlib.Data.List.Nodup

/-
What it means for a rule of the graph to report no error. Each rule is read as a condition on the
declared nodes, edges and entries.
-/
namespace ChatPlan.Flow

variable {d : Design} {o : Options}

theorem flowIssues_eq (f : Flow) (o : Options) : flowIssues f o =
    f.globalStartIssues o ++ (f.channelStartIssues o ++ (f.finalNodeIssues o ++
      (f.priorityIssues o ++ (f.referenceIssues o ++ (f.cycleIssues o ++
        (f.channelIssues o ++ f.reachabilityIssues o)))))) := by
  simp [flowIssues, flowRules]

theorem hasNode_iff {id : String} :
    (ofDesign d).hasNode id = true ↔ ∃ n ∈ d.graph.nodes, n.id = id := by
  simp only [hasNode, node?, Design.node?, List.find?_isSome, beq_iff_eq]
  rfl

theorem node?_eq_some_iff (hids : (d.graph.nodes.map (·.id)).Nodup) {id : String} {n : Node} :
    (ofDesign d).node? id = some n ↔ n ∈ d.graph.nodes ∧ n.id = id := by
  constructor
  · intro h
    exact ⟨List.mem_of_find?_eq_some h, id_of_node? h⟩
  · intro h
    obtain ⟨hn, rfl⟩ := h
    cases hf : (ofDesign d).node? n.id with
    | none => exact absurd (by simp) (List.find?_eq_none.1 hf n hn)
    | some m =>
      have hm : m ∈ d.graph.nodes := List.mem_of_find?_eq_some hf
      rw [List.inj_on_of_nodup_map hids hm hn (id_of_node? hf)]

theorem finalNodeIssues_clean : hasErrors (finalNodeIssues (ofDesign d) o) = false ↔
    ∀ n ∈ d.graph.nodes, n.isFinal = true → (ofDesign d).outgoing n.id = [] := by
  rw [finalNodeIssues, hasErrors_map (fun _ => rfl), List.filter_eq_nil_iff]
  simp only [Bool.and_eq_true, Bool.not_eq_true', not_and, Bool.not_eq_false,
    List.isEmpty_iff]
  rfl

/-- The rule reports an edge exactly if it competes with an edge before it. -/
theorem priorityIssue_isSome {es : List Edge} {e : Edge} {j : Nat} :
    (priorityIssue es e j).isSome = true ↔
      e.priority ≠ 0 ∧ ∃ a ∈ es.take j, competes e a = true := by
  rw [← exists_findIdx?_lt_iff, priorityIssue]
  by_cases h0 : e.priority = 0
  · simp [h0]
  · cases hfirst : es.findIdx? (competes e) with
    | none => simp [h0]
    | some first => by_cases hlt : first < j <;> simp [h0, hlt]

theorem priorityIssue_code {es : List Edge} {e : Edge} {j : Nat} {i : Issue}
    (h : priorityIssue es e j = some i) :
    i.severity = .error ∧ i.code = "topology.edge.priority_duplicate" := by
  unfold priorityIssue at h
  split at h
  · cases h
  · split at h
    · split at h
      · cases h
        exact ⟨rfl, rfl⟩
      · cases h
    · cases h

/-- Of two edges with one source and one priority, the later has priority zero. -/
theorem priorityIssues_clean : hasErrors (priorityIssues (ofDesign d) o) = false ↔
    d.graph.edges.Pairwise fun a b => competes b a = true → b.priority = 0 := by
  rw [priorityIssues, hasErrors_filterMap, pairwise_iff_zipIdx]
  · apply forall₂_congr
    intro p _
    rw [← Option.not_isSome_iff_eq_none, priorityIssue_isSome]
    simp only [not_and, not_exists, ne_eq]
    exact ⟨fun h a ha hc => by_contra fun h0 => h h0 a ha hc, fun h h0 a ha hc => h0 (h a ha hc)⟩
  · intro p i hi
    simp [Issue.isError, (priorityIssue_code hi).1]

theorem referenceIssues_clean : hasErrors (referenceIssues (ofDesign d) o) = false ↔
    (∀ e ∈ d.graph.edges, (ofDesign d).hasNode e.source ∧ (ofDesign d).hasNode e.target) ∧
      ∀ e ∈ d.entries, (ofDesign d).hasNode e.target := by
  rw [referenceIssues, hasErrors_append, Bool.or_eq_false_iff, hasErrors_flatMap,
    hasErrors_map (fun _ => rfl), List.filter_eq_nil_iff]
  apply and_congr
  · rw [← forall_zipIdx_iff (l := d.graph.edges)]
    apply forall₂_congr
    intro p _
    rw [hasErrors_append, Bool.or_eq_false_iff]
    apply and_congr
    · cases (ofDesign d).hasNode p.1.source <;> simp
    · cases (ofDesign d).hasNode p.1.target <;> simp
  · rw [← forall_zipIdx_iff (l := d.entries)]
    apply forall₂_congr
    intro p _
    simp

end ChatPlan.Flow
