import ChatPlan.Proofs.Flow.Reach
import ChatPlan.Proofs.Flow.Rules
import Mathlib.Data.List.Chain

/-
The depth-first search for cycles, read as a machine. A stage says where the search stands, a move
is what it does with the arc on top of its stack, and the searches from all nodes are one run of
moves (`cycles_run`). A stage says which move comes next, so there is no other run (`Run.unique`).

What holds of a run is proved of a move first:
  - the stack is a path of distinct declared nodes (`Stage.Valid.move`);
  - an arc that was reported is no longer ahead (`not_ahead_of_reported`), so no run reports it
    twice (`nodup_of_run`).
-/
namespace ChatPlan.Flow

/-- Where a search stands: the nodes that it left, the latest first, its stack, and the nodes from
which it still has to start. -/
structure Stage where
  done : List String
  stack : List Frame
  roots : List Node

/-- The nodes on the stack, from its top. -/
def Stage.path (s : Stage) : List String := s.stack.map (·.id)

/-- A move of the search, and the cycles that it reports. -/
inductive Move (f : Flow) (o : Options) : Stage → List Cycle → Stage → Prop
  /-- A node that was left is no start. -/
  | drop {done n roots} (hdone : n.id ∈ done) : Move f o ⟨done, [], n :: roots⟩ [] ⟨done, [], roots⟩
  | start {done n roots} (hdone : n.id ∉ done) :
      Move f o ⟨done, [], n :: roots⟩ [] ⟨done, [⟨n.id, f.outgoing n.id⟩], roots⟩
  /-- A node whose arcs were all followed is left. -/
  | leave {done id rest roots} :
      Move f o ⟨done, ⟨id, []⟩ :: rest, roots⟩ [] ⟨id :: done, rest, roots⟩
  /-- An arc that leads nowhere, may close a cycle, or leads to a node that was left. -/
  | skip {done id a left rest roots}
      (hskip : f.hasNode a.edge.target = false ∨
        (onStack (⟨id, left⟩ :: rest) a.edge.target = true ∧ isExempt o a.edge = true) ∨
        (onStack (⟨id, left⟩ :: rest) a.edge.target = false ∧ a.edge.target ∈ done)) :
      Move f o ⟨done, ⟨id, a :: left⟩ :: rest, roots⟩ [] ⟨done, ⟨id, left⟩ :: rest, roots⟩
  /-- An arc back to a node on the stack. -/
  | close {done id a left rest roots} (hnode : f.hasNode a.edge.target = true)
      (hstack : onStack (⟨id, left⟩ :: rest) a.edge.target = true)
      (hexempt : isExempt o a.edge = false) :
      Move f o ⟨done, ⟨id, a :: left⟩ :: rest, roots⟩
        [⟨cyclePath (⟨id, left⟩ :: rest) a.edge.target, a⟩] ⟨done, ⟨id, left⟩ :: rest, roots⟩
  /-- An arc to a node that was not seen before. -/
  | enter {done id a left rest roots} (hnode : f.hasNode a.edge.target = true)
      (hstack : onStack (⟨id, left⟩ :: rest) a.edge.target = false)
      (hdone : a.edge.target ∉ done) :
      Move f o ⟨done, ⟨id, a :: left⟩ :: rest, roots⟩ []
        ⟨done, ⟨a.edge.target, f.outgoing a.edge.target⟩ :: ⟨id, left⟩ :: rest, roots⟩

/-- A run to the end, the cycles that it reports, and the nodes that it left. -/
inductive Run (f : Flow) (o : Options) : Stage → List Cycle → List String → Prop
  | stop {done} : Run f o ⟨done, [], []⟩ [] done
  | move {s cs s' cs' done} (hmove : Move f o s cs s') (hrun : Run f o s' cs' done) :
      Run f o s (cs ++ cs') done

theorem Run.silent {f : Flow} {o : Options} {s s' : Stage} {cs : List Cycle} {done : List String}
    (hmove : Move f o s [] s') (hrun : Run f o s' cs done) : Run f o s cs done := by
  simpa using Run.move hmove hrun

theorem Move.unique {f : Flow} {o : Options} {s s' s'' : Stage} {cs cs' : List Cycle}
    (h : Move f o s cs s') (h' : Move f o s cs' s'') : cs = cs' ∧ s' = s'' := by
  cases h <;> cases h' <;> grind

theorem Run.after {f : Flow} {o : Options} {s s' : Stage} {cs cs' : List Cycle}
    {all : List String} (hrun : Run f o s cs all) (hmove : Move f o s cs' s') :
    ∃ later, cs = cs' ++ later ∧ Run f o s' later all := by
  cases hrun with
  | stop => cases hmove
  | move hmove' hrun' =>
    obtain ⟨rfl, rfl⟩ := hmove.unique hmove'
    exact ⟨_, rfl, hrun'⟩

theorem Run.unique {f : Flow} {o : Options} {s : Stage} {cs cs' : List Cycle}
    {all all' : List String} (h : Run f o s cs all) (h' : Run f o s cs' all') :
    cs = cs' ∧ all = all' := by
  induction h generalizing cs' all' with
  | stop =>
    cases h' with
    | stop => exact ⟨rfl, rfl⟩
    | move hmove => cases hmove
  | move hmove _ ih =>
    cases h' with
    | stop => cases hmove
    | move hmove' hrun' =>
      obtain ⟨rfl, rfl⟩ := hmove.unique hmove'
      obtain ⟨rfl, rfl⟩ := ih hrun'
      exact ⟨rfl, rfl⟩

/-! ## The search is a run -/

section Search

variable {f : Flow} {o : Options} {done : List String} {id : String} {a : Arc} {left : List Arc}
  {rest : List Frame} {n : Node}

theorem hasNode_of_node? (h : f.node? id = some n) : f.hasNode id = true := by
  rw [hasNode, h]
  rfl

theorem search_of_missing (h : f.node? a.edge.target = none) :
    f.search o done (⟨id, a :: left⟩ :: rest) = f.search o done (⟨id, left⟩ :: rest) := by
  rw [search]
  split
  · rfl
  · rename_i hsome
    rw [h] at hsome
    cases hsome

theorem search_of_node (h : f.node? a.edge.target = some n) :
    f.search o done (⟨id, a :: left⟩ :: rest) =
      if onStack (⟨id, left⟩ :: rest) a.edge.target then
        let found := f.search o done (⟨id, left⟩ :: rest)
        if isExempt o a.edge then found
        else (⟨cyclePath (⟨id, left⟩ :: rest) a.edge.target, a⟩ :: found.1, found.2)
      else if done.contains a.edge.target then f.search o done (⟨id, left⟩ :: rest)
      else f.search o done
        (⟨a.edge.target, f.outgoing a.edge.target⟩ :: ⟨id, left⟩ :: rest) := by
  rw [search]
  split
  · rename_i hnone
    rw [h] at hnone
    cases hnone
  · rename_i m hsome
    rw [h] at hsome
    cases hsome
    rw [id_of_node? h]

/-- A search empties its stack, and whatever comes after it goes on from there. -/
theorem run_of_search {stack : List Frame} {roots : List Node} {cs : List Cycle}
    {all : List String} (h : Run f o ⟨(f.search o done stack).2, [], roots⟩ cs all) :
    Run f o ⟨done, stack, roots⟩ ((f.search o done stack).1 ++ cs) all := by
  induction done, stack using search.induct f o with
  | case1 done => simpa [search] using h
  | case2 done id rest ih =>
    rw [search] at h ⊢
    exact .silent .leave (ih h)
  | case3 done id a left rest hnode ih =>
    have hmissing : f.hasNode a.edge.target = false := by rw [hasNode, hnode]; rfl
    rw [search_of_missing hnode] at h ⊢
    exact .silent (.skip (.inl hmissing)) (ih h)
  | case4 done id a left rest n hnode hstack hexempt ih =>
    rw [id_of_node? hnode] at hstack
    rw [search_of_node hnode, if_pos hstack, if_pos hexempt] at h ⊢
    exact .silent (.skip (.inr (.inl ⟨hstack, hexempt⟩))) (ih h)
  | case5 done id a left rest n hnode hstack hexempt ih =>
    rw [id_of_node? hnode] at hstack
    rw [search_of_node hnode, if_pos hstack, if_neg hexempt] at h ⊢
    have hclose : Move f o ⟨done, ⟨id, a :: left⟩ :: rest, roots⟩
        [⟨cyclePath (⟨id, left⟩ :: rest) a.edge.target, a⟩] ⟨done, ⟨id, left⟩ :: rest, roots⟩ :=
      .close (hasNode_of_node? hnode) hstack (by simpa using hexempt)
    simpa using Run.move hclose (ih h)
  | case6 done id a left rest n hnode hstack hdone ih =>
    rw [id_of_node? hnode] at hstack hdone
    rw [search_of_node hnode, if_neg hstack, if_pos hdone] at h ⊢
    exact .silent (.skip (.inr (.inr ⟨by simpa using hstack, by simpa using hdone⟩))) (ih h)
  | case7 done id a left rest n hnode hstack hdone ih =>
    rw [id_of_node? hnode] at hstack hdone ih
    rw [search_of_node hnode, if_neg hstack, if_neg hdone] at h ⊢
    exact .silent (.enter (hasNode_of_node? hnode) (by simpa using hstack) (by simpa using hdone))
      (ih h)

end Search

theorem cyclesFrom_run (f : Flow) (o : Options) (done : List String) (ns : List Node) :
    ∃ all, Run f o ⟨done, [], ns⟩ (f.cyclesFrom o done ns) all := by
  induction done, ns using cyclesFrom.induct f o with
  | case1 done => exact ⟨done, .stop⟩
  | case2 done n ns hdone ih =>
    obtain ⟨all, hrun⟩ := ih
    rw [cyclesFrom, if_pos hdone]
    exact ⟨all, .silent (.drop (by simpa using hdone)) hrun⟩
  | case3 done n ns hdone found ih =>
    obtain ⟨all, hrun⟩ := ih
    rw [cyclesFrom, if_neg hdone]
    exact ⟨all, .silent (.start (by simpa using hdone)) (run_of_search hrun)⟩

theorem cycles_run (f : Flow) (o : Options) :
    ∃ all, Run f o ⟨[], [], f.nodes⟩ (f.cycles o) all := cyclesFrom_run f o [] f.nodes

/-! ## The stack is a path -/

/-- The nodes on the stack are declared and distinct, each was entered by an edge from the node
below it, and the arcs that are left to it are the last of those that leave it. -/
structure Stage.Valid (f : Flow) (s : Stage) : Prop where
  roots : ∀ n ∈ s.roots, f.hasNode n.id = true
  declared : ∀ id ∈ s.path, f.hasNode id = true
  distinct : s.path.Nodup
  linked : s.path.IsChain fun b a => f.Leads a b
  left : ∀ fr ∈ s.stack, fr.left <:+ f.outgoing fr.id

theorem onStack_iff {stack : List Frame} {id : String} :
    onStack stack id = true ↔ id ∈ stack.map (·.id) := by
  simp [onStack, List.any_eq_true, List.mem_map]

section Valid

variable {d : Design} {o : Options} {s s' : Stage} {cs : List Cycle}

theorem leads_of_outgoing {a : Arc} {id : String} (ha : a ∈ (ofDesign d).outgoing id)
    (hnode : (ofDesign d).hasNode a.edge.target = true) : (ofDesign d).Leads id a.edge.target :=
  List.mem_filter.2 ⟨List.mem_map.2 ⟨a, ha, rfl⟩, hnode⟩

theorem Stage.Valid.pop {done : List String} {id : String} {a : Arc} {left : List Arc}
    {rest : List Frame} {roots : List Node}
    (h : Stage.Valid (ofDesign d) ⟨done, ⟨id, a :: left⟩ :: rest, roots⟩) :
    Stage.Valid (ofDesign d) ⟨done, ⟨id, left⟩ :: rest, roots⟩ where
  roots := h.roots
  declared := h.declared
  distinct := h.distinct
  linked := h.linked
  left := by
    have hleft := List.forall_mem_cons.1 h.left
    exact List.forall_mem_cons.2 ⟨(List.suffix_cons a left).trans hleft.1, hleft.2⟩

theorem Stage.Valid.top {done : List String} {id : String} {a : Arc} {left : List Arc}
    {rest : List Frame} {roots : List Node}
    (h : Stage.Valid (ofDesign d) ⟨done, ⟨id, a :: left⟩ :: rest, roots⟩) :
    a ∈ (ofDesign d).outgoing id :=
  (h.left _ List.mem_cons_self).subset List.mem_cons_self

theorem Stage.Valid.move (h : s.Valid (ofDesign d)) (hmove : Move (ofDesign d) o s cs s') :
    s'.Valid (ofDesign d) := by
  cases hmove with
  | drop => exact { h with roots := (List.forall_mem_cons.1 h.roots).2 }
  | start =>
    have hroots := List.forall_mem_cons.1 h.roots
    exact {
      roots := hroots.2
      declared := by simpa [path] using hroots.1
      distinct := List.nodup_singleton _
      linked := List.isChain_singleton _
      left := by simp }
  | leave =>
    exact {
      roots := h.roots
      declared := (List.forall_mem_cons.1 h.declared).2
      distinct := h.distinct.of_cons
      linked := h.linked.tail
      left := (List.forall_mem_cons.1 h.left).2 }
  | skip => exact h.pop
  | close => exact h.pop
  | enter hnode hstack =>
    have hpop := h.pop
    refine ⟨h.roots, List.forall_mem_cons.2 ⟨hnode, hpop.declared⟩, ?_, ?_, ?_⟩
    · refine List.nodup_cons.2 ⟨fun hmem => ?_, hpop.distinct⟩
      rw [onStack_iff.2 hmem] at hstack
      cases hstack
    · exact hpop.linked.cons_cons (leads_of_outgoing h.top hnode)
    · exact List.forall_mem_cons.2 ⟨List.suffix_refl _, hpop.left⟩

theorem Stage.valid_start (d : Design) : Stage.Valid (ofDesign d) ⟨[], [], d.graph.nodes⟩ where
  roots := fun n hn => hasNode_iff.2 ⟨n, hn, rfl⟩
  declared := by simp [path]
  distinct := List.nodup_nil
  linked := List.isChain_nil
  left := by simp

end Valid

/-! ## Every arc is reported at most once -/

/-- The arc is still to be looked at: it is left on the stack, or leaves a node that was not seen. -/
def Stage.Ahead (s : Stage) (a : Arc) : Prop :=
  (∃ fr ∈ s.stack, a ∈ fr.left) ∨ (a.edge.source ∉ s.done ∧ a.edge.source ∉ s.path)

theorem Stage.ahead_cons {done : List String} {id : String} {left : List Arc} {rest : List Frame}
    {roots : List Node} {a : Arc} : Stage.Ahead ⟨done, ⟨id, left⟩ :: rest, roots⟩ a ↔
      a ∈ left ∨ (∃ fr ∈ rest, a ∈ fr.left) ∨
        (a.edge.source ∉ done ∧ a.edge.source ≠ id ∧ a.edge.source ∉ rest.map (·.id)) := by
  simp only [Ahead, path, List.map_cons, List.mem_cons, not_or, exists_eq_or_imp, or_assoc]

section Ahead

variable {d : Design} {o : Options} {s s' : Stage} {cs : List Cycle} {all : List String} {a : Arc}

theorem Stage.Ahead.of_pop {done : List String} {id : String} {left : List Arc} {rest : List Frame}
    {roots : List Node} {b : Arc} (h : Stage.Ahead ⟨done, ⟨id, left⟩ :: rest, roots⟩ b) :
    Stage.Ahead ⟨done, ⟨id, a :: left⟩ :: rest, roots⟩ b :=
  ahead_cons.2 ((ahead_cons.1 h).imp_left (List.mem_cons_of_mem a))

/-- Whatever is ahead after a move was ahead before it. -/
theorem Stage.Ahead.of_move (h : s'.Ahead a) (hmove : Move (ofDesign d) o s cs s') : s.Ahead a := by
  cases hmove with
  | drop => exact h
  | start hdone =>
    rcases ahead_cons.1 h with ha | ⟨fr, hfr, -⟩ | ⟨hnew, -⟩
    · exact .inr ⟨(mem_outgoing.1 ha).2 ▸ hdone, List.not_mem_nil⟩
    · cases hfr
    · exact .inr ⟨hnew, List.not_mem_nil⟩
  | leave =>
    rcases h with ha | ⟨hdone, hpath⟩
    · exact ahead_cons.2 (.inr (.inl ha))
    · rw [List.mem_cons, not_or] at hdone
      exact ahead_cons.2 (.inr (.inr ⟨hdone.2, hdone.1, hpath⟩))
  | skip => exact h.of_pop
  | close => exact h.of_pop
  | enter hnode hstack hdone =>
    apply of_pop
    rcases ahead_cons.1 h with ha | ha | ⟨hnew, -, hpath⟩
    · obtain ⟨-, hsource⟩ := mem_outgoing.1 ha
      refine .inr ⟨hsource ▸ hdone, fun hmem => ?_⟩
      rw [hsource, path, ← onStack_iff, hstack] at hmem
      cases hmem
    · exact .inl ha
    · exact .inr ⟨hnew, hpath⟩

theorem not_ahead_of_reported (hs : s.Valid (ofDesign d)) (hmove : Move (ofDesign d) o s cs s')
    {c : Cycle} (hc : c ∈ cs) : s.Ahead c.arc ∧ ¬s'.Ahead c.arc := by
  cases hmove with
  | drop => cases hc
  | start => cases hc
  | leave => cases hc
  | skip => cases hc
  | enter => cases hc
  | @close done id a left rest roots _ _ _ =>
    obtain rfl := List.mem_singleton.1 hc
    obtain ⟨-, hsource⟩ := mem_outgoing.1 hs.top
    have hpop := List.forall_mem_cons.1 hs.pop.left
    refine ⟨Stage.ahead_cons.2 (.inl List.mem_cons_self), fun h => ?_⟩
    rcases Stage.ahead_cons.1 h with ha | ⟨fr, hfr, ha⟩ | ⟨-, hne, -⟩
    · -- no arc leaves a node twice
      have hnodup : (a :: left).Nodup := (hs.left _ List.mem_cons_self).sublist.nodup nodup_outgoing
      exact (List.nodup_cons.1 hnodup).1 ha
    · -- frames below stand for other nodes
      have hother : fr.id = id := (mem_outgoing.1 ((hpop.2 fr hfr).subset ha)).2.symm.trans hsource
      exact (List.nodup_cons.1 hs.distinct).1 (List.mem_map.2 ⟨fr, hfr, hother⟩)
    · exact hne hsource

/-- A run reports only arcs that are ahead of it, and none twice. -/
theorem nodup_of_run (hrun : Run (ofDesign d) o s cs all) (hs : s.Valid (ofDesign d)) :
    (∀ c ∈ cs, s.Ahead c.arc) ∧ (cs.map (·.arc)).Nodup := by
  induction hrun with
  | stop => exact ⟨by simp, List.nodup_nil⟩
  | @move s cs s' cs' all hmove _ ih =>
    obtain ⟨hahead, hnodup⟩ := ih (hs.move hmove)
    have hfirst (c : Cycle) (hc : c ∈ cs) := not_ahead_of_reported hs hmove hc
    refine ⟨fun c hc => ?_, ?_⟩
    · rcases List.mem_append.1 hc with hc | hc
      · exact (hfirst c hc).1
      · exact (hahead c hc).of_move hmove
    · rw [List.map_append, List.nodup_append']
      refine ⟨?_, hnodup, ?_⟩
      · cases hmove <;> simp
      · intro b hb hb'
        obtain ⟨c, hc, rfl⟩ := List.mem_map.1 hb
        obtain ⟨c', hc', heq⟩ := List.mem_map.1 hb'
        exact (hfirst c hc).2 (heq ▸ hahead c' hc')

end Ahead

end ChatPlan.Flow
