import ChatPlan.Proofs.Flow.Reach
import ChatPlan.Proofs.Flow.Rules

/-
What cannot be reached. The search finds the roots and all to which declared edges lead from them
through declared nodes, and its rounds end before they run out. The rule of the graph reports the
other nodes, each id once and in the order in which the ids are first declared, unless no entry
starts at a node (`reachability_exact`).
-/
namespace ChatPlan

namespace Design

/-- A node with this id is declared. -/
def Declares (d : Design) (id : String) : Prop := ∃ n ∈ d.graph.nodes, n.id = id

/-- A declared edge leads from here to a declared node. -/
def Connects (d : Design) (a b : String) : Prop :=
  ∃ e ∈ d.graph.edges, e.source = a ∧ e.target = b ∧ d.Declares b

/-- A path of declared edges leads from here to there, through declared nodes and at least one edge.
-/
def HasPath (d : Design) : String → String → Prop := Relation.TransGen d.Connects

/-- An entry that starts at a declared node starts at this one, or has a path to it. -/
def IsEntered (d : Design) (id : String) : Prop :=
  ∃ e ∈ d.entries, d.Declares e.target ∧ (e.target = id ∨ d.HasPath e.target id)

end Design

namespace Flow

variable {d : Design} {a b id : String} {known roots : List String}

/-! ## The search -/

theorem leads_iff : (ofDesign d).Leads a b ↔ d.Connects a b := by
  rw [Leads, targets, List.mem_filter, List.mem_map, hasNode_iff]
  constructor
  · rintro ⟨⟨arc, harc, rfl⟩, hb⟩
    obtain ⟨e, he, hsource, htarget⟩ :=
      exists_mem_outgoing (P := fun e => e.target = arc.edge.target).1 ⟨arc, harc, rfl⟩
    exact ⟨e, he, hsource, htarget, hb⟩
  · rintro ⟨e, he, hsource, rfl, hb⟩
    obtain ⟨arc, harc, htarget⟩ :=
      exists_mem_outgoing (P := fun e' => e'.target = e.target).2 ⟨e, he, hsource, rfl⟩
    exact ⟨⟨arc, harc, htarget⟩, hb⟩

theorem reaches_iff : (ofDesign d).Reaches a b ↔ a = b ∨ d.HasPath a b := by
  have hleads : (ofDesign d).Leads = d.Connects := by
    funext a b
    exact propext leads_iff
  rw [Reaches, Relation.reflTransGen_iff_eq_or_transGen, hleads, Design.HasPath, eq_comm]

theorem mem_reachable_iff : id ∈ (ofDesign d).reachable roots ↔
    id ∈ roots ∨ ∃ r ∈ roots, d.HasPath r id := by
  simp only [mem_reachable, reaches_iff, and_or_left, exists_or, exists_eq_right]

theorem reachFrom_of_closed {f : Flow} (h : f.Closed known) (rounds : Nat) :
    f.reachFrom rounds known = known := by
  cases rounds with
  | zero => rfl
  | succ rounds =>
    have hnothing : addNew known (known.flatMap f.targets) = known := by
      apply addNew_eq_self
      intro b hb
      obtain ⟨a, ha, hab⟩ := List.mem_flatMap.1 hb
      exact h a ha b hab
    simp only [reachFrom, hnothing, if_true]

theorem reachFrom_add {f : Flow} {rounds : Nat} (more : Nat)
    (h : f.Closed (f.reachFrom rounds known)) :
    f.reachFrom (rounds + more) known = f.reachFrom rounds known := by
  induction rounds generalizing known with
  | zero => exact reachFrom_of_closed h _
  | succ rounds ih =>
    rw [Nat.succ_add, reachFrom, reachFrom]
    rw [reachFrom] at h
    split at h
    · rename_i hlen
      rw [if_pos hlen, if_pos hlen]
    · rename_i hlen
      rw [if_neg hlen, if_neg hlen]
      exact ih h

theorem nodup_reachFrom {f : Flow} {rounds : Nat} (h : known.Nodup) :
    (f.reachFrom rounds known).Nodup := by
  induction rounds generalizing known with
  | zero => exact h
  | succ rounds ih =>
    rw [reachFrom]
    split
    · exact h
    · exact ih (nodup_addNew h _)

/-- The search ends by itself: no more rounds than nodes are needed. -/
theorem reachFrom_enough (f : Flow) (roots : List String) (more : Nat) :
    f.reachFrom (f.nodes.length + more) (addNew [] roots) = f.reachable roots :=
  reachFrom_add more (closed_reachFrom List.countP_le_length)

theorem nodup_reachable (f : Flow) (roots : List String) : (f.reachable roots).Nodup :=
  nodup_reachFrom (nodup_addNew List.nodup_nil roots)

/-! ## The rule -/

theorem addNew_concat (known new : List String) (s : String) : addNew known (new ++ [s]) =
    if s ∈ addNew known new then addNew known new else addNew known new ++ [s] := by
  rw [addNew, List.foldl_append]
  simp [addNew]

/-- The names come in the order in which they first stand in the list. -/
theorem pairwise_addNew (names : List String) :
    (addNew [] names).Pairwise fun a b => names.idxOf a < names.idxOf b := by
  induction names using List.reverseRecOn with
  | nil => exact .nil
  | append_singleton names s ih =>
    have hmem (a : String) (ha : a ∈ addNew [] names) : a ∈ names := by simpa using ha
    have hnames : (addNew [] names).Pairwise
        fun a b => (names ++ [s]).idxOf a < (names ++ [s]).idxOf b := by
      refine ih.imp_of_mem fun ha hb hlt => ?_
      rwa [List.idxOf_append_of_mem (hmem _ ha), List.idxOf_append_of_mem (hmem _ hb)]
    rw [addNew_concat]
    split
    · exact hnames
    · rename_i hs
      refine List.pairwise_append.2 ⟨hnames, List.pairwise_singleton _ _, fun a ha b hb => ?_⟩
      rw [List.mem_singleton.1 hb, List.idxOf_append_of_mem (hmem a ha),
        List.idxOf_append_of_notMem (by simpa using hs)]
      have hlt := List.idxOf_lt_length_of_mem (hmem a ha)
      omega

/-- What the rule reports of an id that cannot be reached. -/
def unreachableIssue (id : String) : Issue :=
  .warn "topology.node.unreachable" (nodePath id) s!"Node '{id}' is not reachable from any entry"

/-- The ids that the rule reports. -/
def unreachableIds (d : Design) : List String :=
  if (ofDesign d).entryRoots.isEmpty then []
  else (addNew [] (d.graph.nodes.map (·.id))).filter fun id =>
    !((ofDesign d).reachable (ofDesign d).entryRoots).contains id

theorem reachabilityIssues_eq (d : Design) (o : Options) :
    (ofDesign d).reachabilityIssues o = (unreachableIds d).map unreachableIssue := by
  rw [reachabilityIssues, unreachableIds]
  split <;> rfl

theorem pairwise_unreachableIds (d : Design) : (unreachableIds d).Pairwise fun a b =>
    (d.graph.nodes.map (·.id)).idxOf a < (d.graph.nodes.map (·.id)).idxOf b := by
  rw [unreachableIds]
  split
  · exact .nil
  · exact (pairwise_addNew _).filter _

theorem mem_entryRoots : id ∈ (ofDesign d).entryRoots ↔
    (∃ e ∈ d.entries, e.target = id) ∧ d.Declares id := by
  rw [entryRoots, List.mem_filter, List.mem_map, hasNode_iff]
  rfl

theorem isEmpty_entryRoots :
    (ofDesign d).entryRoots.isEmpty = true ↔ ¬∃ e ∈ d.entries, d.Declares e.target := by
  rw [List.isEmpty_iff, List.eq_nil_iff_forall_not_mem]
  simp only [mem_entryRoots]
  grind

theorem mem_reachable_entryRoots :
    id ∈ (ofDesign d).reachable (ofDesign d).entryRoots ↔ d.IsEntered id := by
  simp only [mem_reachable, reaches_iff, mem_entryRoots, Design.IsEntered]
  grind

theorem mem_unreachableIds : id ∈ unreachableIds d ↔
    (∃ e ∈ d.entries, d.Declares e.target) ∧ d.Declares id ∧ ¬d.IsEntered id := by
  rw [unreachableIds]
  split
  · rename_i hnone
    simp [isEmpty_entryRoots.1 hnone]
  · rename_i hsome
    rw [isEmpty_entryRoots, not_not] at hsome
    have hdeclared : id ∈ addNew [] (d.graph.nodes.map (·.id)) ↔ d.Declares id := by
      simp [Design.Declares]
    rw [List.mem_filter, hdeclared, ← mem_reachable_entryRoots]
    simp [hsome]

end Flow

open ChatPlan.Flow

/-- The search from any roots finds the roots and the ends of all paths from them, each once, and
further rounds find nothing. The rule reports nothing if no entry starts at a declared node, and
else one warning for each declared id that no entry leads to, in the order in which the ids are
first declared. -/
theorem reachability_exact (d : Design) (o : Options) :
    (∀ roots, (∀ id, id ∈ (ofDesign d).reachable roots ↔
        id ∈ roots ∨ ∃ r ∈ roots, d.HasPath r id) ∧
      ((ofDesign d).reachable roots).Nodup ∧
      ∀ more, (ofDesign d).reachFrom (d.graph.nodes.length + more) (addNew [] roots) =
        (ofDesign d).reachable roots) ∧
    ∃ ids : List String, (ofDesign d).reachabilityIssues o = ids.map unreachableIssue ∧
      ids.Pairwise (fun a b =>
        (d.graph.nodes.map (·.id)).idxOf a < (d.graph.nodes.map (·.id)).idxOf b) ∧
      ∀ id, id ∈ ids ↔
        (∃ e ∈ d.entries, d.Declares e.target) ∧ d.Declares id ∧ ¬d.IsEntered id := by
  refine ⟨fun roots => ⟨fun id => mem_reachable_iff, nodup_reachable _ roots, fun more => ?_⟩, ?_⟩
  · exact reachFrom_enough (ofDesign d) roots more
  · exact ⟨unreachableIds d, reachabilityIssues_eq d o, pairwise_unreachableIds d,
      fun id => mem_unreachableIds⟩

end ChatPlan
