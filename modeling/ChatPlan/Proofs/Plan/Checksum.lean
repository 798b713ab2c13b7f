import ChatPlan.Plan.Basic
import ChatPlan.Proofs.Design.Writer
import ChatPlan.Proofs.Flow.Order
import ChatPlan.Proofs.Json.Printer
import ChatPlan.Proofs.Lists
import ChatPlan.Proofs.Plan.Order

/-
What the text behind a checksum says of a design. It says everything but the order in which nodes
and edges are declared. Of that order it says too much: sorting leaves nodes with one id, and edges
that differ in their metadata alone, as they stand, so the text does depend on how these are ordered
among themselves, and on nothing else of the order.
-/
namespace ChatPlan

/-! ## The order of edges -/

/-- What the order of edges looks at. -/
def Edge.sortKey (e : Edge) : String × String × String × Int × Option String :=
  (e.source, e.target, e.label, e.priority, e.guard)

theorem compareGuards_eq : compareGuards = compare (α := Option String) := by
  funext a b
  cases a <;> cases b <;> rfl

namespace Edge

theorem compareTo_eq_compareLex : compareTo =
    compareLex (compareOn source) (compareLex (compareOn target) (compareLex (compareOn label)
      (compareLex (compareOn priority) (compareOn guard)))) := by
  funext a b
  rw [compareTo, compareGuards_eq]
  rfl

instance : Std.TransCmp compareTo := by
  rw [compareTo_eq_compareLex]
  infer_instance

/-- Edges that the order does not tell apart agree in all that it looks at. -/
theorem compareTo_eq_eq {a b : Edge} : a.compareTo b = .eq ↔ a.sortKey = b.sortKey := by
  simp only [compareTo, compareGuards_eq, Ordering.then_eq_eq, Std.LawfulEqOrd.compare_eq_iff_eq,
    sortKey, Prod.mk.injEq]

/-- The order by which edges are sorted. -/
abbrev le (a b : Edge) : Bool := a.compareTo b != .gt

theorem le_eq_isLE (a b : Edge) : le a b = (a.compareTo b).isLE := by
  rw [le]
  cases a.compareTo b <;> rfl

theorem compareTo_swap (a b : Edge) : b.compareTo a = (a.compareTo b).swap :=
  Std.OrientedCmp.eq_swap

theorem le_trans (a b c : Edge) (hab : le a b) (hbc : le b c) : le a c := by
  rw [le_eq_isLE] at *
  exact Std.TransCmp.isLE_trans hab hbc

theorem le_total (a b : Edge) : le a b || le b a := by
  rw [le_eq_isLE, le_eq_isLE, compareTo_swap a b]
  cases a.compareTo b <;> rfl

theorem tied_le (a : Edge) : tied le a = (·.sortKey == a.sortKey) := by
  funext b
  have hkeys : b.sortKey = a.sortKey ↔ a.compareTo b = .eq := eq_comm.trans compareTo_eq_eq.symm
  rw [tied, le_eq_isLE, le_eq_isLE, compareTo_swap a b, Bool.eq_iff_iff, beq_iff_eq, hkeys]
  cases a.compareTo b <;> decide

end Edge

namespace Node

/-- The order by which nodes are sorted. -/
abbrev le (a b : Node) : Bool := a.id ≤ b.id

theorem le_trans (a b c : Node) (hab : le a b) (hbc : le b c) : le a c := by
  simp only [le, decide_eq_true_eq] at *
  exact String.le_trans hab hbc

theorem le_total (a b : Node) : le a b || le b a := by
  simpa [le] using String.le_total a.id b.id

theorem tied_le (a : Node) : tied le a = (·.id == a.id) := by
  funext b
  rw [Bool.eq_iff_iff, tied_iff, beq_iff_eq]
  simp only [le, decide_eq_true_eq]
  exact ⟨fun h => String.le_antisymm h.2 h.1, fun h => by simp [h]⟩

end Node

/-! ## Designs with the same text -/

namespace Design

/-- What the order leaves as it stands is declared in the same order in both designs: the nodes with
one id, and the edges that agree in all but their metadata. -/
structure SameTies (d d' : Design) : Prop where
  nodes : ∀ id, d.graph.nodes.filter (·.id == id) = d'.graph.nodes.filter (·.id == id)
  edges : ∀ key, d.graph.edges.filter (·.sortKey == key) = d'.graph.edges.filter (·.sortKey == key)

theorem sorted_nodes_eq_iff {d d' : Design} : d.sorted.graph.nodes = d'.sorted.graph.nodes ↔
    ∀ id, d.graph.nodes.filter (·.id == id) = d'.graph.nodes.filter (·.id == id) := by
  have hsort : d.graph.nodes.mergeSort Node.le = d'.graph.nodes.mergeSort Node.le ↔ _ :=
    mergeSort_eq_iff Node.le_trans Node.le_total
  simp only [Node.tied_le] at hsort
  exact hsort.trans
    ⟨fun h id => h ⟨id, "", [], none, [], false, none, none⟩, fun h a => h a.id⟩

theorem sorted_edges_eq_iff {d d' : Design} : d.sorted.graph.edges = d'.sorted.graph.edges ↔
    ∀ key, d.graph.edges.filter (·.sortKey == key) = d'.graph.edges.filter (·.sortKey == key) := by
  have hsort : d.graph.edges.mergeSort Edge.le = d'.graph.edges.mergeSort Edge.le ↔ _ :=
    mergeSort_eq_iff Edge.le_trans Edge.le_total
  simp only [Edge.tied_le] at hsort
  exact hsort.trans
    ⟨fun h key => h ⟨key.1, key.2.1, key.2.2.1, key.2.2.2.1, key.2.2.2.2, none⟩,
      fun h a => h a.sortKey⟩

theorem canonicalText_eq_iff_sorted {d d' : Design} :
    d.canonicalText = d'.canonicalText ↔ d.sorted = d'.sorted :=
  ⟨fun h => toJson_injective (Json.compact_inj h), fun h => by rw [canonicalText, canonicalText, h]⟩

/-- Two designs have the same text exactly if they agree in all but their graphs, and in the order
of what sorting leaves as it stands. -/
theorem canonicalText_eq_iff {d d' : Design} : d.canonicalText = d'.canonicalText ↔
    { d with graph := d'.graph } = d' ∧ d.SameTies d' := by
  rw [canonicalText_eq_iff_sorted]
  constructor
  · intro h
    refine ⟨?_, sorted_nodes_eq_iff.1 (by rw [h]), sorted_edges_eq_iff.1 (by rw [h])⟩
    exact congrArg (fun e : Design => { e with graph := d'.graph }) h
  · intro h
    obtain ⟨hrest, hties⟩ := h
    have hnodes := sorted_nodes_eq_iff.2 hties.nodes
    have hedges := sorted_edges_eq_iff.2 hties.edges
    calc d.sorted
        = { ({ d with graph := d'.graph } : Design) with
            graph := ⟨d.sorted.graph.nodes, d.sorted.graph.edges⟩ } := rfl
      _ = { d' with graph := ⟨d'.sorted.graph.nodes, d'.sorted.graph.edges⟩ } := by
          rw [hrest, hnodes, hedges]
      _ = d'.sorted := rfl

theorem reordered_sorted (d : Design) : d.Reordered d.sorted where
  nodes := (List.mergeSort_perm _ _).symm
  edges := (List.mergeSort_perm _ _).symm
  rest := rfl

/-- Two orders without shared ids, and without edges that agree in all but their metadata. -/
theorem sameTies_of_nodup {d d' : Design} (h : d.Reordered d')
    (hids : (d.graph.nodes.map (·.id)).Nodup) (hkeys : (d.graph.edges.map (·.sortKey)).Nodup) :
    d.SameTies d' where
  nodes := filter_key_eq_of_perm h.nodes hids
  edges := filter_key_eq_of_perm h.edges hkeys

end Design

/-- Whatever is changed in a design but the order in which nodes and edges are declared changes the
text behind its checksum. -/
theorem reordered_of_canonicalText_eq {d d' : Design} (h : d.canonicalText = d'.canonicalText) :
    d.Reordered d' := by
  have hsorted := d'.reordered_sorted.symm
  rw [← Design.canonicalText_eq_iff_sorted.1 h] at hsorted
  exact d.reordered_sorted.trans hsorted

/-- The survey and its mirror image have the same text, so one is an order of the other. -/
theorem canonicalText_survey_backwards : survey.canonicalText = survey.backwards.canonicalText ∧
    survey.Reordered survey.backwards := by
  have hties := Design.sameTies_of_nodup survey_reordered (by decide) (by decide)
  have htext : survey.canonicalText = survey.backwards.canonicalText :=
    Design.canonicalText_eq_iff.2 ⟨rfl, hties⟩
  exact ⟨htext, reordered_of_canonicalText_eq htext⟩

/-- Two orders of a design have the same text, and so the same checksum, exactly if they agree in
the order of nodes with one id and of edges that differ in their metadata alone. -/
theorem checksum_reordered {d d' : Design} (h : d.Reordered d') :
    (d.canonicalText = d'.canonicalText ↔ d.SameTies d') ∧
      (d.SameTies d' → d.checksum = d'.checksum) := by
  have htext : d.canonicalText = d'.canonicalText ↔ d.SameTies d' := by
    rw [Design.canonicalText_eq_iff, and_iff_right h.rest]
  refine ⟨htext, fun hties => ?_⟩
  rw [Design.checksum, Design.checksum, htext.2 hties]

/-- The survey has the same checksum from its end. -/
theorem checksum_survey_backwards : survey.Reordered survey.backwards ∧
    survey.SameTies survey.backwards ∧ survey.checksum = survey.backwards.checksum := by
  have hties := Design.sameTies_of_nodup survey_reordered (by decide) (by decide)
  exact ⟨survey_reordered, hties, (checksum_reordered survey_reordered).2 hties⟩

/-- An edge of the survey with this description. -/
def survey.twin (description : String) : Edge :=
  ⟨"ask", "end", "yes", 0, none, some ⟨[], some description⟩⟩

/-- The survey with two edges that differ in their descriptions alone. -/
def survey.twins (first second : String) : Design :=
  { survey with graph := ⟨survey.graph.nodes, [survey.twin first, survey.twin second]⟩ }

theorem survey.sorted_twins (a b : String) : (survey.twins a b).sorted = survey.twins a b := by
  have hnodes : survey.graph.nodes.mergeSort Node.le = survey.graph.nodes :=
    List.mergeSort_of_pairwise (by decide)
  have hkey : (twin a).sortKey = (twin b).sortKey := rfl
  have hedges : [twin a, twin b].mergeSort Edge.le = [twin a, twin b] := by
    refine List.mergeSort_of_pairwise (List.pairwise_pair.2 ?_)
    rw [Edge.le_eq_isLE, Edge.compareTo_eq_eq.2 hkey]
    rfl
  calc (survey.twins a b).sorted
      = { survey with graph :=
          ⟨survey.graph.nodes.mergeSort Node.le, [twin a, twin b].mergeSort Edge.le⟩ } := rfl
    _ = survey.twins a b := by rw [hnodes, hedges, twins]

theorem bytesOfText_compact (v : Json) :
    Hash.bytesOfText v.compact = v.chars.flatMap String.utf8EncodeChar := by
  rw [Hash.bytesOfText, Json.compact, String.toUTF8_eq_toByteArray, String.toByteArray_ofList,
    List.utf8Encode, List.toList_data_toByteArray]

/-- Which of two edges comes first, if they differ in their descriptions alone, is told by the
checksum. -/
theorem checksum_depends_on_order : (survey.twins "a" "b").Reordered (survey.twins "b" "a") ∧
    (survey.twins "a" "b").checksum ≠ (survey.twins "b" "a").checksum := by
  refine ⟨⟨.refl _, .swap _ _ _, rfl⟩, ?_⟩
  simp only [Design.checksum, Design.canonicalText, survey.sorted_twins, bytesOfText_compact]
  decide +kernel

end ChatPlan
