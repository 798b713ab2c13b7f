import ChatPlan.Proofs.Flow.Search
import ChatPlan.Proofs.Issues
import Mathlib.Data.List.Nodup
import Mathlib.Logic.Relation

/-
The rule for cycles is exact (`cycleIssues_exact`). An arc back into the stack closes a round trip
over it, so whatever is reported lies on a cycle. Conversely, a node is left only after every arc
out of it was excused or led to a node that was left before it (`Explored`); so what is neither
excused nor reported leads from later to earlier nodes only, and never round in a circle.
-/
namespace ChatPlan.Flow

/-! ## A reported cycle is a round trip -/

/-- A way over declared nodes, along edges, on which no node comes twice. -/
structure IsWay (f : Flow) (way : List String) (first last : String) : Prop where
  first : way.head? = some first
  last : way.getLast? = some last
  distinct : way.Nodup
  linked : way.IsChain f.Leads
  declared : ∀ id ∈ way, f.hasNode id = true

/-- The path goes from the target of the edge to its source, and by the edge back to its start. -/
def IsRound (f : Flow) (path : List String) (e : Edge) : Prop :=
  ∃ way, path = way ++ [e.target] ∧ f.IsWay way e.target e.source

theorem exists_takeWhile_append {stack : List Frame} {id : String}
    (h : onStack stack id = true) : ∃ below, stack.map (·.id) =
      (stack.takeWhile (·.id != id)).map (·.id) ++ id :: below := by
  induction stack with
  | nil => simp [onStack] at h
  | cons fr stack ih =>
    by_cases hid : fr.id = id
    · exact ⟨stack.map (·.id), by simp [hid]⟩
    · have hrest : onStack stack id = true := by simpa [onStack, hid] using h
      obtain ⟨below, hbelow⟩ := ih hrest
      exact ⟨below, by simp [hid, hbelow]⟩

section Round

variable {d : Design} {o : Options} {s s' : Stage} {cs : List Cycle} {all : List String}

/-- An arc from the top of the stack back into it closes a round trip over the stack. -/
theorem Stage.Valid.isRound {done : List String} {id : String} {a : Arc} {left : List Arc}
    {rest : List Frame} {roots : List Node}
    (h : Stage.Valid (ofDesign d) ⟨done, ⟨id, a :: left⟩ :: rest, roots⟩)
    (hstack : onStack (⟨id, left⟩ :: rest) a.edge.target = true) :
    (ofDesign d).IsRound (cyclePath (⟨id, left⟩ :: rest) a.edge.target) a.edge := by
  obtain ⟨-, hsource⟩ := mem_outgoing.1 h.top
  obtain ⟨below, hpath⟩ := exists_takeWhile_append hstack
  set front := ((⟨id, left⟩ :: rest).takeWhile (·.id != a.edge.target)).map (·.id) with hfront
  -- read from the bottom, the nodes down to the target are the way
  have hpart : (⟨done, ⟨id, left⟩ :: rest, roots⟩ : Stage).path =
      (front ++ [a.edge.target]) ++ below := by
    rw [path, hpath]
    simp
  have hway : (front ++ [a.edge.target]).reverse = a.edge.target :: front.reverse := by simp
  have hpop := h.pop
  refine ⟨a.edge.target :: front.reverse, rfl, rfl, ?_, ?_, ?_, ?_⟩
  · rw [← hway, List.getLast?_reverse, hsource]
    cases hcase : front with
    | nil =>
      rw [hcase] at hpath
      exact congrArg List.head? hpath.symm
    | cons b front =>
      rw [hcase] at hpath
      exact congrArg List.head? hpath.symm
  · rw [← hway, List.nodup_reverse]
    exact List.Nodup.of_append_left (hpart ▸ hpop.distinct)
  · rw [← hway, List.isChain_reverse]
    exact List.IsChain.left_of_append (hpart ▸ hpop.linked)
  · intro b hb
    rw [← hway, List.mem_reverse] at hb
    exact hpop.declared b (hpart ▸ List.mem_append_left below hb)

/-- What a run reports: live edges that are not exempt, each with a round trip that it closes. -/
theorem round_of_run (hrun : Run (ofDesign d) o s cs all) (hs : s.Valid (ofDesign d)) {c : Cycle}
    (hc : c ∈ cs) : c.arc ∈ d.arcs ∧ isExempt o c.arc.edge = false ∧
      (ofDesign d).IsRound c.path c.arc.edge := by
  induction hrun with
  | stop => cases hc
  | move hmove _ ih =>
    rcases List.mem_append.1 hc with hc | hc
    · cases hmove with
      | drop => cases hc
      | start => cases hc
      | leave => cases hc
      | skip => cases hc
      | enter => cases hc
      | close hnode hstack hexempt =>
        obtain rfl := List.mem_singleton.1 hc
        exact ⟨(mem_outgoing.1 hs.top).1, hexempt, hs.isRound hstack⟩
    · exact ih (hs.move hmove) hc

end Round

/-! ## What is not reported leads round in no circle -/

/-- Every arc out of a node that was left is excused, or leads to a node that was left before. -/
def Explored (f : Flow) (excused : Arc → Prop) : List String → Prop
  | [] => True
  | id :: before =>
    (∀ a ∈ f.outgoing id, excused a ∨ a.edge.target ∈ before) ∧ f.Explored excused before

/-- Every arc out of a node on the stack is left to it, is excused, or leads to a node above it or
to one that was left: these are `beyond`. -/
def Followed (f : Flow) (excused : Arc → Prop) : List String → List Frame → Prop
  | _, [] => True
  | beyond, fr :: rest =>
    (∀ a ∈ f.outgoing fr.id, a ∈ fr.left ∨ excused a ∨ a.edge.target ∈ beyond) ∧
      f.Followed excused (fr.id :: beyond) rest

/-- An arc that is not excused leads from here to there. -/
def Unexcused (f : Flow) (excused : Arc → Prop) (id target : String) : Prop :=
  ∃ a ∈ f.outgoing id, ¬excused a ∧ a.edge.target = target

section Explored

variable {f : Flow} {o : Options} {excused : Arc → Prop} {s s' : Stage} {cs : List Cycle}
  {all : List String}

theorem Followed.mono {beyond beyond' : List String} {stack : List Frame}
    (h : f.Followed excused beyond stack) (hsub : beyond ⊆ beyond') :
    f.Followed excused beyond' stack := by
  induction stack generalizing beyond beyond' with
  | nil => trivial
  | cons fr rest ih =>
    refine ⟨fun a ha => ?_, ih h.2 (List.cons_subset_cons fr.id hsub)⟩
    exact (h.1 a ha).imp_right (Or.imp_right fun hmem => hsub hmem)

/-- The arc on top of the stack may be taken off if it is excused or leads to a node that was left. -/
theorem Followed.pop {done : List String} {id : String} {a : Arc} {left : List Arc}
    {rest : List Frame} (h : f.Followed excused done (⟨id, a :: left⟩ :: rest))
    (ha : excused a ∨ a.edge.target ∈ done) :
    f.Followed excused done (⟨id, left⟩ :: rest) := by
  refine ⟨fun b hb => ?_, h.2⟩
  rcases h.1 b hb with hmem | hb
  · rcases List.mem_cons.1 hmem with rfl | hmem
    · exact .inr ha
    · exact .inl hmem
  · exact .inr hb

/-- All that a search may pass over is excused: arcs that lead nowhere, exempt ones, and those that
it reports. -/
structure Excuses (f : Flow) (o : Options) (excused : Arc → Prop) (cs : List Cycle) : Prop where
  missing : ∀ a, f.hasNode a.edge.target = false → excused a
  exempt : ∀ a, isExempt o a.edge = true → excused a
  reported : ∀ c ∈ cs, excused c.arc

theorem explored_move (hmove : Move f o s cs s') (hcs : f.Excuses o excused cs)
    (hdone : f.Explored excused s.done) (hstack : f.Followed excused s.done s.stack) :
    f.Explored excused s'.done ∧ f.Followed excused s'.done s'.stack := by
  cases hmove with
  | drop => exact ⟨hdone, hstack⟩
  | start => exact ⟨hdone, fun a ha => .inl ha, trivial⟩
  | leave =>
    refine ⟨⟨fun a ha => ?_, hdone⟩, hstack.2⟩
    rcases hstack.1 a ha with hmem | ha
    · cases hmem
    · exact ha
  | @skip done id a left rest roots hskip =>
    refine ⟨hdone, hstack.pop ?_⟩
    rcases hskip with hmissing | ⟨-, hexempt⟩ | ⟨-, hmem⟩
    · exact .inl (hcs.missing a hmissing)
    · exact .inl (hcs.exempt a hexempt)
    · exact .inr hmem
  | close => exact ⟨hdone, hstack.pop (.inl (hcs.reported _ List.mem_cons_self))⟩
  | @enter done id a left rest roots =>
    -- the arc is kept in mind by the new node, which is above the one that it leaves
    have hmono : f.Followed excused (a.edge.target :: done) (⟨id, a :: left⟩ :: rest) :=
      hstack.mono (List.subset_cons_self _ _)
    exact ⟨hdone, fun b hb => .inl hb, hmono.pop (.inr List.mem_cons_self)⟩

theorem explored_of_run (hrun : Run f o s cs all) (hcs : f.Excuses o excused cs)
    (hdone : f.Explored excused s.done) (hstack : f.Followed excused s.done s.stack) :
    f.Explored excused all := by
  induction hrun with
  | stop => exact hdone
  | move hmove _ ih =>
    have hfirst : f.Excuses o excused _ :=
      { hcs with reported := fun c hc => hcs.reported c (List.mem_append_left _ hc) }
    obtain ⟨hdone', hstack'⟩ := explored_move hmove hfirst hdone hstack
    exact ih { hcs with reported := fun c hc => hcs.reported c (List.mem_append_right _ hc) }
      hdone' hstack'

/-- Every node at which the search is, or from which it has still to start, is left in the end. -/
theorem left_of_run (hrun : Run f o s cs all) {id : String}
    (hid : id ∈ s.done ∨ id ∈ s.path ∨ ∃ n ∈ s.roots, n.id = id) : id ∈ all := by
  induction hrun with
  | stop => simpa [Stage.path] using hid
  | move hmove _ ih =>
    apply ih
    cases hmove <;> grind [Stage.path]

/-- What was left leads only to what was left before. -/
theorem Explored.closed {ids : List String} (h : f.Explored excused ids) {id target : String}
    (hid : id ∈ ids) (hstep : f.Unexcused excused id target) : target ∈ ids := by
  induction ids with
  | nil => cases hid
  | cons first before ih =>
    rcases List.mem_cons.1 hid with rfl | hid
    · obtain ⟨a, ha, hexcused, rfl⟩ := hstep
      exact List.mem_cons_of_mem _ ((h.1 a ha).resolve_left hexcused)
    · exact List.mem_cons_of_mem _ (ih h.2 hid)

theorem Explored.closed_path {ids : List String} (h : f.Explored excused ids) {id target : String}
    (hid : id ∈ ids) (hpath : Relation.ReflTransGen (f.Unexcused excused) id target) :
    target ∈ ids := by
  induction hpath with
  | refl => exact hid
  | tail _ hstep ih => exact h.closed ih hstep

/-- No arcs that are not excused lead from a node that was left back to it. -/
theorem acyclic_of_explored {ids : List String} (h : f.Explored excused ids) {id : String}
    (hid : id ∈ ids) : ¬Relation.TransGen (f.Unexcused excused) id id := by
  induction ids with
  | nil => cases hid
  | cons first before ih =>
    intro hround
    refine ih h.2 ?_ hround
    rcases List.mem_cons.1 hid with rfl | hid
    · -- the first step leads to what was left before, and no step leads out of that
      obtain ⟨_, ⟨a, ha, hexcused, rfl⟩, hrest⟩ := Relation.TransGen.head'_iff.1 hround
      exact h.2.closed_path ((h.1 a ha).resolve_left hexcused) hrest
    · exact hid

end Explored

/-! ## The issues about cycles -/

/-- Both ends of the edge are declared nodes. -/
def IsLive (f : Flow) (e : Edge) : Prop := f.hasNode e.source = true ∧ f.hasNode e.target = true

/-- A live edge with this property leads from here to there. -/
def Passage (d : Design) (P : Arc → Prop) (id target : String) : Prop :=
  ∃ a ∈ d.arcs, (ofDesign d).IsLive a.edge ∧ P a ∧ a.edge.source = id ∧ a.edge.target = target

/-- The message about a cycle: its nodes, and the label of the edge that closes it. -/
def cycleMessage (path : List String) (label : String) : String :=
  let nodes := Text.joined " -> " path
  s!"Cycle {nodes} closes on edge labeled '{label}' without a guard"

section Exact

variable {d : Design} {o : Options}

theorem isLive_of_round {a : Arc} {path : List String} (h : (ofDesign d).IsRound path a.edge) :
    (ofDesign d).IsLive a.edge := by
  obtain ⟨way, -, hway⟩ := h
  exact ⟨hway.declared _ (List.mem_of_getLast? hway.last),
    hway.declared _ (List.mem_of_head? hway.first)⟩

theorem round_of_cycles {c : Cycle} (hc : c ∈ (ofDesign d).cycles o) : c.arc ∈ d.arcs ∧
    isExempt o c.arc.edge = false ∧ (ofDesign d).IsRound c.path c.arc.edge := by
  obtain ⟨_, hrun⟩ := cycles_run (ofDesign d) o
  exact round_of_run hrun (Stage.valid_start d) hc

theorem nodup_cycles : (((ofDesign d).cycles o).map (·.arc.index)).Nodup := by
  obtain ⟨_, hrun⟩ := cycles_run (ofDesign d) o
  have hnodup := (nodup_of_run hrun (Stage.valid_start d)).2
  have hmap : ((ofDesign d).cycles o).map (·.arc.index) =
      (((ofDesign d).cycles o).map (·.arc)).map (·.index) := by rw [List.map_map]; rfl
  rw [hmap]
  refine hnodup.map_on ?_
  intro a ha b hb hindex
  obtain ⟨c, hc, rfl⟩ := List.mem_map.1 ha
  obtain ⟨c', hc', rfl⟩ := List.mem_map.1 hb
  exact List.inj_on_of_nodup_map (d.index_arcs ▸ List.nodup_range) (round_of_cycles hc).1
    (round_of_cycles hc').1 hindex

/-- Live edges that are neither exempt nor reported lead round in no circle. -/
theorem acyclic_passage {P : Arc → Prop} (hexempt : ∀ a, P a → isExempt o a.edge = false)
    (hreported : ∀ a, P a → ∀ c ∈ (ofDesign d).cycles o, c.arc ≠ a) (id : String) :
    ¬Relation.TransGen (Passage d P) id id := by
  intro hround
  obtain ⟨all, hrun⟩ := cycles_run (ofDesign d) o
  let excused (a : Arc) : Prop := (ofDesign d).hasNode a.edge.target = false ∨
    isExempt o a.edge = true ∨ ∃ c ∈ (ofDesign d).cycles o, c.arc = a
  have hexcuses : (ofDesign d).Excuses o excused ((ofDesign d).cycles o) :=
    ⟨fun a h => .inl h, fun a h => .inr (.inl h), fun c hc => .inr (.inr ⟨c, hc, rfl⟩)⟩
  have hexplored : (ofDesign d).Explored excused all := explored_of_run hrun hexcuses trivial trivial
  have hstep (a b : String) (h : Passage d P a b) : (ofDesign d).Unexcused excused a b := by
    obtain ⟨c, hc, hlive, hP, rfl, rfl⟩ := h
    refine ⟨c, mem_outgoing.2 ⟨hc, rfl⟩, ?_, rfl⟩
    rintro (hmissing | hsafe | ⟨c', hc', hsame⟩)
    · rw [hlive.2] at hmissing
      cases hmissing
    · rw [hexempt c hP] at hsafe
      cases hsafe
    · exact hreported c hP c' hc' hsame
  -- the circle starts at a declared node, and every declared node is left in the end
  obtain ⟨_, ⟨c, -, hlive, -, hid, -⟩, -⟩ := Relation.TransGen.head'_iff.1 hround
  obtain ⟨n, hn, hnid⟩ := hasNode_iff.1 (hid ▸ hlive.1)
  have hleft : id ∈ all := left_of_run hrun (.inr (.inr ⟨n, hn, hnid⟩))
  exact acyclic_of_explored hexplored hleft (Relation.TransGen.mono hstep _ _ hround)

end Exact

/-- The rule for cycles is exact. Its search comes to one end, it reports no edge twice, and:
the live edges that are neither exempt nor reported lead round in no circle, so a circle of live
edges none of which is exempt is always reported; and whatever is reported is a live edge that is
not exempt, at its place in the design, with a round trip that it closes. -/
theorem cycleIssues_exact (d : Design) (o : Options) :
    (∃ left, ∀ cs all, Run (ofDesign d) o ⟨[], [], d.graph.nodes⟩ cs all ↔
      cs = (ofDesign d).cycles o ∧ all = left) ∧
    ((cycleIssues (ofDesign d) o).map (·.path)).Nodup ∧
    (∀ id, ¬Relation.TransGen (Passage d fun a => isExempt o a.edge = false ∧
      edgePath a.index ∉ (cycleIssues (ofDesign d) o).map (·.path)) id id) ∧
    (∀ id, Relation.TransGen (Passage d fun a => isExempt o a.edge = false) id id →
      ∃ i ∈ cycleIssues (ofDesign d) o, i.code = "topology.cycle.unguarded") ∧
    ∀ i ∈ cycleIssues (ofDesign d) o, ∃ a ∈ d.arcs, ∃ path, (ofDesign d).IsLive a.edge ∧
      isExempt o a.edge = false ∧ (ofDesign d).IsRound path a.edge ∧
      i = .warn "topology.cycle.unguarded" (edgePath a.index) (cycleMessage path a.edge.label) := by
  have hpaths : (cycleIssues (ofDesign d) o).map (·.path) =
      ((ofDesign d).cycles o).map fun c => edgePath c.arc.index := by
    rw [cycleIssues, List.map_map]
    rfl
  refine ⟨?_, ?_, ?_, ?_, ?_⟩
  · obtain ⟨left, hrun⟩ := cycles_run (ofDesign d) o
    refine ⟨left, fun cs all => ⟨fun h => h.unique hrun, ?_⟩⟩
    rintro ⟨rfl, rfl⟩
    exact hrun
  · rw [hpaths, ← Function.comp_def edgePath, ← List.map_map]
    exact nodup_cycles.map edgePath_injective
  · refine acyclic_passage (fun a ha => ha.1) fun a ha c hc hsame => ha.2 ?_
    rw [hpaths, ← hsame]
    exact List.mem_map.2 ⟨c, hc, rfl⟩
  · intro id hround
    cases hcycles : (ofDesign d).cycles o with
    | nil => exact absurd hround (acyclic_passage (fun a ha => ha) (by simp [hcycles]) id)
    | cons c cs =>
      rw [cycleIssues, hcycles]
      exact ⟨_, List.mem_cons_self, rfl⟩
  · intro i hi
    obtain ⟨c, hc, rfl⟩ := List.mem_map.1 hi
    obtain ⟨harc, hexempt, hround⟩ := round_of_cycles hc
    exact ⟨c.arc, harc, c.path, isLive_of_round hround, hexempt, hround, rfl⟩

end ChatPlan.Flow
