import ChatPlan.Check.Nodes
import ChatPlan.Check.Pipeline
import ChatPlan.Proofs.Issues
import ChatPlan.Proofs.Lists
import Mathlib.Data.List.Nodup

/-
What it means for the checks of a design to report no error: the ids of its nodes are distinct,
every edge has a label that its source declares, every guard can be read, and no node declares an
output twice or one that it cannot emit.
-/
namespace ChatPlan.Outputs

/-! ## Outputs of a node -/

variable {n : Node}

theorem duplicateIssues_clean : hasErrors (duplicateIssues n) = false ↔ n.outputs.Nodup := by
  rw [duplicateIssues, hasErrors_map (fun _ => rfl), List.filter_eq_nil_iff, List.Nodup,
    pairwise_iff_zipIdx]
  apply forall₂_congr
  intro p hp
  have hmem : p.1 ∈ n.outputs := List.fst_mem_of_mem_zipIdx hp
  rw [decide_eq_true_iff, ← List.mem_take_iff_idxOf_lt hmem]
  constructor
  · intro hnot a ha heq
    exact hnot (heq ▸ ha)
  · intro hne hin
    exact hne p.1 hin rfl

/-- Every output is standard or stands for an element, and every element has an output. -/
theorem interactiveIssues_clean {element : String} {elements : List Element} :
    hasErrors (interactiveIssues n element elements) = false ↔
      (∀ o ∈ n.outputs, o ∈ standardOutputs ∨ ∃ e ∈ elements, o ∈ e.identifiers) ∧
        ∀ e ∈ elements, ∃ o ∈ n.outputs, o ∈ e.identifiers := by
  rw [interactiveIssues, hasErrors_append, Bool.or_eq_false_iff, hasErrors_misfits (fun _ => rfl),
    hasErrors_map (fun _ => rfl), List.filter_eq_nil_iff]
  simp [isMapped, Element.isNamed]

theorem fixedIssues_clean {required optional : List String} :
    hasErrors (fixedIssues n required optional) = false ↔
      (n.isFinal = true ∧ n.outputs = []) ∨
        (∀ o ∈ required, o ∈ n.outputs) ∧ ∀ o ∈ n.outputs, o ∈ required ++ optional := by
  rw [fixedIssues]
  by_cases hnone : n.isFinal = true ∧ n.outputs = []
  · simp [hnone]
  · have hcheck : (n.isFinal && n.outputs.isEmpty) = false := by
      simpa [List.isEmpty_iff] using hnone
    rw [hcheck, if_neg Bool.false_ne_true, hasErrors_append, Bool.or_eq_false_iff,
      hasErrors_misfits (fun _ => rfl), hasErrors_map (fun _ => rfl), List.filter_eq_nil_iff]
    simp [hnone]

theorem hasErrors_policyIssues (p : Props) : hasErrors (policyIssues n p) = false := by
  rw [policyIssues]
  split
  · simp [hasErrors, Issue.warn, Issue.isError]
  · rfl

/-- The outputs of a node of this kind fit its rule, under these properties. -/
def Fits (n : Node) (p : Props) : OutputRule → Prop
  | .interactive _ elements =>
    (∀ o ∈ n.outputs, o ∈ standardOutputs ∨ ∃ e ∈ elements p, o ∈ e.identifiers) ∧
      ∀ e ∈ elements p, ∃ o ∈ n.outputs, o ∈ e.identifiers
  | .fixed required optional =>
    (n.isFinal = true ∧ n.outputs = []) ∨
      (∀ o ∈ required, o ∈ n.outputs) ∧ ∀ o ∈ n.outputs, o ∈ required ++ optional

/-- The check finds no error in a node exactly if its outputs are distinct and fit its kind. -/
theorem nodeIssues_clean {c : DesignContext} {k : Kind} (hk : c.registry.kind? n.kind = some k) :
    hasErrors (nodeIssues c n) = false ↔ n.outputs.Nodup ∧ Fits n (c.props n) k.outputs := by
  rw [nodeIssues, hk]
  simp only [hasErrors_append, Bool.or_eq_false_iff, hasErrors_policyIssues, and_true,
    duplicateIssues_clean]
  apply and_congr_right'
  cases k.outputs with
  | fixed required optional => exact fixedIssues_clean
  | interactive element elements => exact interactiveIssues_clean

theorem fits_of_clean {c : DesignContext} (h : hasErrors (issues c) = false) {n : Node}
    (hn : n ∈ c.flow.nodes) {k : Kind} (hk : c.registry.kind? n.kind = some k) :
    n.outputs.Nodup ∧ Fits n (c.props n) k.outputs := by
  rw [issues, hasErrors_append, Bool.or_eq_false_iff, hasErrors_flatMap] at h
  exact (nodeIssues_clean hk).1 (h.1 n hn)

end ChatPlan.Outputs

namespace ChatPlan

/-! ## Designs -/

theorem standard_designIssues_eq (c : DesignContext) : Pipeline.standard.designIssues c =
    Shape.issues c ++ (Outputs.issues c ++ (Policies.issues c ++
      (Length.designIssues c ++ Variables.issues c))) := by
  simp [Pipeline.designIssues, Pipeline.standard, allDesignPasses]

/-- The context of a check over a design. -/
abbrev contextOf (r : Registry) (k : Capabilities) (o : Options) (d : Design) : DesignContext :=
  ⟨Flow.ofDesign d, r, k, o⟩

theorem standard_viewIssues_eq (c : ViewContext) (v : View) : Pipeline.standard.viewIssues c v =
    Filters.issues c v ++ (Length.viewIssues c v ++ Fit.issues c v) := by
  simp [Pipeline.viewIssues, Pipeline.standard, allViewPasses]

namespace Shape

/-- The id of a node was used before exactly if an earlier node has it. -/
theorem duplicateIssue_isSome {d : Design} {id : String} {j : Nat} :
    (duplicateIssue d id j).isSome = true ↔ ∃ n ∈ d.graph.nodes.take j, n.id = id := by
  have hfirst := exists_findIdx?_lt_iff (p := fun n : Node => n.id == id) (l := d.graph.nodes)
    (j := j)
  simp only [beq_iff_eq] at hfirst
  rw [← hfirst, duplicateIssue]
  cases hf : d.graph.nodes.findIdx? fun n => n.id == id with
  | none => simp
  | some first => by_cases hlt : first < j <;> simp [hlt]

theorem duplicateIssue_isError {d : Design} {id : String} {j : Nat} {i : Issue}
    (h : duplicateIssue d id j = some i) : i.isError = true := by
  unfold duplicateIssue at h
  split at h
  · split at h
    · cases h
      rfl
    · cases h
  · cases h

theorem id_of_nodeIssues_clean {c : DesignContext} {n : Node} {j : Nat}
    (h : hasErrors (nodeIssues c n j) = false) :
    ∀ m ∈ c.design.graph.nodes.take j, m.id ≠ n.id := by
  intro m hm hid
  rw [nodeIssues] at h
  split at h
  · simp at h
  · have hdup : (duplicateIssue c.design n.id j).isSome = true :=
      duplicateIssue_isSome.2 ⟨m, hm, hid⟩
    obtain ⟨i, hi⟩ := Option.isSome_iff_exists.1 hdup
    simp [hi, hasErrors, duplicateIssue_isError hi] at h

/-- The ids of nodes about which nothing is wrong are distinct. -/
theorem nodup_ids_of_clean {c : DesignContext} (h : hasErrors (issues c) = false) :
    (c.design.graph.nodes.map (·.id)).Nodup := by
  simp only [issues, hasErrors_append, Bool.or_eq_false_iff, hasErrors_flatMap] at h
  rw [List.Nodup, List.pairwise_map]
  exact pairwise_iff_zipIdx.2 fun p hp m hm => id_of_nodeIssues_clean (h.1.2 p hp) m hm

/-- An edge about which nothing is wrong has a label, and a guard that can be read. -/
theorem edgeIssues_clean {e : Edge} {j : Nat} : hasErrors (edgeIssues e j) = false ↔
    Text.blank e.label = false ∧ ∀ g, e.guardText? = some g → ∃ r, Guard.parse g = .ok r := by
  rw [edgeIssues, hasErrors_append, Bool.or_eq_false_iff]
  apply and_congr
  · cases Text.blank e.label <;> simp
  · cases hg : e.guardText? with
    | none => simp
    | some g =>
      cases hp : Guard.parse g with
      | error r => simp [hp]
      | ok r => simp [hp]

theorem edge_of_clean {c : DesignContext} (h : hasErrors (issues c) = false) {e : Edge}
    (he : e ∈ c.flow.edges) :
    Text.blank e.label = false ∧ ∀ g, e.guardText? = some g → ∃ r, Guard.parse g = .ok r := by
  simp only [issues, hasErrors_append, Bool.or_eq_false_iff, hasErrors_flatMap] at h
  obtain ⟨i, hi⟩ := exists_mem_zipIdx he
  exact edgeIssues_clean.1 (h.2 (e, i) hi)

end Shape

namespace Outputs

theorem edgeIssue_isError {f : Flow} {e : Edge} {j : Nat} {i : Issue}
    (h : edgeIssue f e j = some i) : i.isError = true := by
  unfold edgeIssue at h
  split at h
  · cases h
  · split at h
    · cases h
    · cases h
      rfl

/-- An edge that is no error is not labelled, or its source declares the label. -/
theorem edgeIssue_eq_none {f : Flow} {e : Edge} {j : Nat} : edgeIssue f e j = none ↔
    ∀ n, f.node? e.source = some n → Text.blank e.label = true ∨ e.label ∈ n.outputs := by
  rw [edgeIssue]
  cases f.node? e.source with
  | none => simp
  | some n =>
    simp only [Option.some.injEq, forall_eq']
    have hor : (Text.blank e.label || n.outputs.contains e.label) = true ↔
        Text.blank e.label = true ∨ e.label ∈ n.outputs := by simp
    rw [← hor]
    cases Text.blank e.label || n.outputs.contains e.label <;> simp

theorem label_of_clean {c : DesignContext} (h : hasErrors (issues c) = false) {e : Edge}
    (he : e ∈ c.flow.edges) {n : Node} (hn : c.flow.node? e.source = some n) :
    Text.blank e.label = true ∨ e.label ∈ n.outputs := by
  rw [issues, hasErrors_append, Bool.or_eq_false_iff,
    hasErrors_filterMap fun _ _ hi => edgeIssue_isError hi] at h
  obtain ⟨i, hi⟩ := exists_mem_zipIdx he
  exact edgeIssue_eq_none.1 (h.2 (e, i) hi) n hn

end Outputs

end ChatPlan
