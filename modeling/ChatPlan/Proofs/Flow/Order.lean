import ChatPlan.Proofs.Flow.Outgoing
import ChatPlan.Proofs.Flow.Reach
import ChatPlan.Proofs.Flow.Rules
import ChatPlan.Proofs.Verdicts
import Mathlib.Data.List.Perm.Basic

/-
Designs that differ only in the order in which nodes and edges are declared (`Design.Reordered`),
and what of a design does not depend on that order. The rules of the graph, apart from that for
cycles, give the same verdicts in any order. Where a rule keeps what it saw first, it is the number
of its issues that counts, and this does not depend on which of several edges or nodes came first.
-/
namespace ChatPlan

/-! ## Reordered designs -/

/-- The same design with its nodes and edges declared in another order. -/
structure Design.Reordered (d d' : Design) : Prop where
  nodes : d.graph.nodes.Perm d'.graph.nodes
  edges : d.graph.edges.Perm d'.graph.edges
  rest : { d with graph := d'.graph } = d'

namespace Design.Reordered

variable {d d' : Design}

theorem symm (h : d.Reordered d') : d'.Reordered d where
  nodes := h.nodes.symm
  edges := h.edges.symm
  rest := by rw [← h.rest]

theorem trans {d'' : Design} (h : d.Reordered d') (h' : d'.Reordered d'') : d.Reordered d'' where
  nodes := h.nodes.trans h'.nodes
  edges := h.edges.trans h'.edges
  rest := by rw [← h'.rest, ← h.rest]

theorem bot_eq (h : d.Reordered d') : d'.bot = d.bot := by rw [← h.rest]

theorem entries_eq (h : d.Reordered d') : d'.entries = d.entries := by rw [← h.rest]

theorem profile_eq (h : d.Reordered d') : d'.profile = d.profile := by rw [← h.rest]

theorem props_eq (h : d.Reordered d') : d'.props = d.props := by rw [← h.rest]

theorem resolvedProps_eq (h : d.Reordered d') (n : Node) :
    d'.resolvedProps n = d.resolvedProps n := by
  rw [resolvedProps, resolvedProps, h.props_eq]

theorem hasNode_eq (h : d.Reordered d') (id : String) :
    (Flow.ofDesign d').hasNode id = (Flow.ofDesign d).hasNode id := by
  rw [Bool.eq_iff_iff, Flow.hasNode_iff, Flow.hasNode_iff]
  simp only [h.nodes.mem_iff]

theorem node?_eq (h : d.Reordered d') (hids : (d.graph.nodes.map (·.id)).Nodup) (id : String) :
    (Flow.ofDesign d').node? id = (Flow.ofDesign d).node? id := by
  have hids' : (d'.graph.nodes.map (·.id)).Nodup := (h.nodes.map _).nodup_iff.1 hids
  ext n
  rw [Flow.node?_eq_some_iff hids, Flow.node?_eq_some_iff hids', h.nodes.mem_iff]

theorem exists_outgoing (h : d.Reordered d') (id : String) (P : Edge → Prop) :
    (∃ a ∈ (Flow.ofDesign d').outgoing id, P a.edge) ↔
      ∃ a ∈ (Flow.ofDesign d).outgoing id, P a.edge := by
  rw [Flow.exists_mem_outgoing, Flow.exists_mem_outgoing]
  simp only [h.edges.mem_iff]

theorem isEmpty_outgoing (h : d.Reordered d') (id : String) :
    ((Flow.ofDesign d').outgoing id).isEmpty = ((Flow.ofDesign d).outgoing id).isEmpty := by
  rw [Bool.eq_iff_iff, List.isEmpty_iff, List.isEmpty_iff, Flow.outgoing_eq_nil_iff,
    Flow.outgoing_eq_nil_iff]
  simp only [h.edges.mem_iff]

theorem leads_eq (h : d.Reordered d') : (Flow.ofDesign d').Leads = (Flow.ofDesign d).Leads := by
  ext a b
  have hedge := h.exists_outgoing a fun e => e.target = b
  simp only [Flow.Leads, Flow.targets, List.mem_filter, List.mem_map, h.hasNode_eq, hedge]

theorem mem_reachable (h : d.Reordered d') (roots : List String) (id : String) :
    id ∈ (Flow.ofDesign d').reachable roots ↔ id ∈ (Flow.ofDesign d).reachable roots := by
  rw [Flow.mem_reachable, Flow.mem_reachable, Flow.Reaches, Flow.Reaches, h.leads_eq]

end Design.Reordered

end ChatPlan

namespace ChatPlan.Flow

/-! ## The rules -/

variable {d d' : Design} (h : d.Reordered d') (o : Options)

include h

theorem entries_reordered : (ofDesign d').entries = (ofDesign d).entries := h.entries_eq

theorem bot_reordered : (ofDesign d').design.bot = (ofDesign d).design.bot := h.bot_eq

theorem globalStartIssues_reordered :
    globalStartIssues (ofDesign d') o = globalStartIssues (ofDesign d) o := by
  rw [globalStartIssues, globalStartIssues, globalStarts, globalStarts, entries_reordered h]

theorem channelStartIssues_reordered :
    channelStartIssues (ofDesign d') o = channelStartIssues (ofDesign d) o := by
  simp only [channelStartIssues, channelStartIssue, entries_reordered h, bot_reordered h]

theorem channelIssues_reordered : channelIssues (ofDesign d') o = channelIssues (ofDesign d) o := by
  rw [channelIssues, channelIssues, bot_reordered h]

theorem finalNodeIssues_reordered :
    SameVerdicts (finalNodeIssues (ofDesign d) o) (finalNodeIssues (ofDesign d') o) := by
  refine SameVerdicts.map_filter h.nodes (fun n _ => ?_) fun n => rfl
  rw [h.isEmpty_outgoing]

/-- The source and priority of an edge that has one. -/
def priorityKey (e : Edge) : Option (String × Int) :=
  if e.priority = 0 then none else some (e.source, e.priority)

omit h in
theorem priorityIssue_isSome_eq (es : List Edge) (p : Edge × Nat) :
    (priorityIssue es p.1 p.2).isSome = repeats priorityKey es p := by
  rw [Bool.eq_iff_iff, priorityIssue_isSome, repeats]
  by_cases h0 : p.1.priority = 0
  · simp [priorityKey, h0]
  · have hsome : priorityKey p.1 = some (p.1.source, p.1.priority) := by simp [priorityKey, h0]
    have hkey (a : Edge) :
        priorityKey a = some (p.1.source, p.1.priority) ↔ competes p.1 a = true := by
      by_cases ha : a.priority = 0
      · simp [priorityKey, competes, ha, h0]
      · simp only [priorityKey, ha, ↓reduceIte, Option.some.injEq, Prod.mk.injEq, competes,
          Bool.and_eq_true, beq_iff_eq]
        exact and_congr eq_comm eq_comm
    simp [h0, hkey, hsome]

omit h in
/-- The verdicts on priorities: one error for every edge that repeats a key. -/
theorem priorityIssues_verdicts : (priorityIssues (ofDesign d) o).map Issue.verdict =
    List.replicate (d.graph.edges.zipIdx.countP (repeats priorityKey d.graph.edges))
      (.error, "topology.edge.priority_duplicate") := by
  rw [List.eq_replicate_iff]
  constructor
  · rw [List.length_map, priorityIssues, List.length_filterMap_eq_countP]
    exact List.countP_congr fun p _ => by rw [← priorityIssue_isSome_eq]; rfl
  · intro v hv
    obtain ⟨i, hi, rfl⟩ := List.mem_map.1 hv
    obtain ⟨p, _, hp⟩ := List.mem_filterMap.1 hi
    rw [Issue.verdict, (priorityIssue_code hp).1, (priorityIssue_code hp).2]

theorem priorityIssues_reordered :
    SameVerdicts (priorityIssues (ofDesign d) o) (priorityIssues (ofDesign d') o) := by
  have hkeys : (d.graph.edges.filterMap priorityKey).Perm (d'.graph.edges.filterMap priorityKey) :=
    h.edges.filterMap priorityKey
  -- in either order the edges with a key are as many, and so are the distinct keys
  have hcount := countP_repeats priorityKey d.graph.edges
  have hcount' := countP_repeats priorityKey d'.graph.edges
  rw [List.toFinset_eq_of_perm _ _ hkeys, hkeys.length_eq] at hcount
  rw [SameVerdicts, priorityIssues_verdicts, priorityIssues_verdicts,
    show d.graph.edges.zipIdx.countP (repeats priorityKey d.graph.edges) =
      d'.graph.edges.zipIdx.countP (repeats priorityKey d'.graph.edges) by omega]

theorem referenceIssues_reordered :
    SameVerdicts (referenceIssues (ofDesign d) o) (referenceIssues (ofDesign d') o) := by
  refine SameVerdicts.append (SameVerdicts.flatMap_zipIdx h.edges fun e _ i j => ?_) ?_
  · simp only [h.hasNode_eq]
    refine SameVerdicts.append ?_ ?_
    · cases (ofDesign d).hasNode e.source <;> exact SameVerdicts.of_map_eq rfl
    · cases (ofDesign d).hasNode e.target <;> exact SameVerdicts.of_map_eq rfl
  · simp only [h.hasNode_eq, entries_reordered h]
    exact SameVerdicts.refl _

theorem entryRoots_reordered : (ofDesign d').entryRoots = (ofDesign d).entryRoots := by
  have hentries : (ofDesign d').design.entries = (ofDesign d).design.entries := h.entries_eq
  rw [entryRoots, entryRoots, hentries]
  exact List.filter_congr fun id _ => h.hasNode_eq id

theorem reachabilityIssues_reordered :
    SameVerdicts (reachabilityIssues (ofDesign d) o) (reachabilityIssues (ofDesign d') o) := by
  have hids : (addNew [] ((ofDesign d).nodes.map (·.id))).Perm
      (addNew [] ((ofDesign d').nodes.map (·.id))) := by
    rw [List.perm_ext_iff_of_nodup (nodup_addNew List.nodup_nil _) (nodup_addNew List.nodup_nil _)]
    intro id
    rw [mem_addNew, mem_addNew]
    exact or_congr Iff.rfl (h.nodes.map (·.id)).mem_iff
  simp only [reachabilityIssues, entryRoots_reordered h]
  split
  · exact SameVerdicts.refl _
  · refine SameVerdicts.map_filter hids (fun id _ => ?_) fun id => rfl
    have hreach := h.mem_reachable (ofDesign d).entryRoots id
    rw [Bool.not_inj_iff, Bool.eq_iff_iff, List.contains_iff_mem, List.contains_iff_mem, hreach]

omit h in
theorem hasErrors_cycleIssues (f : Flow) : hasErrors (f.cycleIssues o) = false := by
  simp [hasErrors, cycleIssues, Issue.warn, Issue.isError]

omit h in
theorem filter_cycleIssues (f : Flow) :
    (f.cycleIssues o).filter (·.code != "topology.cycle.unguarded") = [] := by
  simp [cycleIssues, Issue.warn]

/-- The verdicts of all rules, apart from those on cycles. -/
theorem flowIssues_reordered :
    SameVerdicts ((flowIssues (ofDesign d) o).filter (·.code != "topology.cycle.unguarded"))
      ((flowIssues (ofDesign d') o).filter (·.code != "topology.cycle.unguarded")) := by
  simp only [flowIssues_eq, List.filter_append, filter_cycleIssues, List.nil_append,
    globalStartIssues_reordered h, channelStartIssues_reordered h, channelIssues_reordered h]
  refine SameVerdicts.append (.refl _) <| SameVerdicts.append (.refl _) <|
    SameVerdicts.append ?_ <| SameVerdicts.append ?_ <| SameVerdicts.append ?_ <|
      SameVerdicts.append (.refl _) ?_
  · exact (finalNodeIssues_reordered h o).filter_code _
  · exact (priorityIssues_reordered h o).filter_code _
  · exact (referenceIssues_reordered h o).filter_code _
  · exact (reachabilityIssues_reordered h o).filter_code _

/-- Cycles are no errors, so those that are found do not matter to the errors of a design. -/
theorem hasErrors_flowIssues_reordered :
    hasErrors (flowIssues (ofDesign d) o) = hasErrors (flowIssues (ofDesign d') o) := by
  simp only [flowIssues_eq, hasErrors_append, hasErrors_cycleIssues,
    globalStartIssues_reordered h, channelStartIssues_reordered h, channelIssues_reordered h,
    (finalNodeIssues_reordered h o).hasErrors_eq, (priorityIssues_reordered h o).hasErrors_eq,
    (referenceIssues_reordered h o).hasErrors_eq, (reachabilityIssues_reordered h o).hasErrors_eq]

end ChatPlan.Flow
