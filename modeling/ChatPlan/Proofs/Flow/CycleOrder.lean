import ChatPlan.Proofs.Flow.Cycles
import ChatPlan.Proofs.Flow.Order
import Mathlib.Data.List.Permutation

/-
What the rule for cycles says of a design whose nodes and edges are declared in another order
(`cycle_verdict_reordered`). Only the edge that closes a cycle is asked for its guard, and which one
closes it depends on where the search starts and which way it turns first. So the verdict is the
same in every order if no edge on a circle is exempt from closing it, and where some are and some
are not, the order may matter (`exchange_order_matters`).

An order in which the rule reports is made for a circle of the graph: its first node is declared
first, and its edges before all others, so that the search follows it round (`Circuit.reported`).
-/
namespace ChatPlan.Flow

/-! ## The verdict -/

/-- The rules of the graph report an unguarded cycle. -/
def ReportsCycle (d : Design) (o : Options) : Prop :=
  ∃ i ∈ flowIssues (ofDesign d) o, i.code = "topology.cycle.unguarded"

/-- Live edges that are not exempt lead round in a circle. -/
def HasBareCircle (d : Design) (o : Options) : Prop :=
  ∃ id, Relation.TransGen (Passage d fun a => isExempt o a.edge = false) id id

/-- A live edge that is not exempt closes a round trip, whatever the other edges of the trip are. -/
def HasOpenRound (d : Design) (o : Options) : Prop :=
  ∃ e ∈ d.graph.edges, (ofDesign d).IsLive e ∧ isExempt o e = false ∧
    ∃ path, (ofDesign d).IsRound path e

section Verdict

variable {d : Design} {o : Options}

theorem channelStartIssue_code {e : Entry} {index : Nat} {i : Issue}
    (h : channelStartIssue (ofDesign d) e index = some i) :
    i.code ≠ "topology.cycle.unguarded" := by
  unfold channelStartIssue at h
  grind [Issue.error, Issue.warn]

theorem reportsCycle_iff : ReportsCycle d o ↔ (ofDesign d).cycles o ≠ [] := by
  have hcycles : (∃ i ∈ cycleIssues (ofDesign d) o, i.code = "topology.cycle.unguarded") ↔
      (ofDesign d).cycles o ≠ [] := by
    simp [cycleIssues, Issue.warn, List.eq_nil_iff_forall_not_mem]
  rw [← hcycles, ReportsCycle]
  refine ⟨fun h => ?_, fun h => ?_⟩
  · obtain ⟨i, hi, hcode⟩ := h
    simp only [flowIssues_eq, List.mem_append] at hi
    rcases hi with hi | hi | hi | hi | hi | hi | hi | hi
    · simp only [globalStartIssues] at hi
      grind [Issue.error]
    · obtain ⟨p, -, hp⟩ := List.mem_filterMap.1 hi
      exact absurd hcode (channelStartIssue_code hp)
    · obtain ⟨n, -, rfl⟩ := List.mem_map.1 hi
      simp [Issue.error] at hcode
    · obtain ⟨p, -, hp⟩ := List.mem_filterMap.1 hi
      rw [(priorityIssue_code hp).2] at hcode
      simp at hcode
    · simp only [referenceIssues] at hi
      grind [Issue.error]
    · exact ⟨i, hi, hcode⟩
    · simp only [channelIssues] at hi
      grind [Issue.error]
    · simp only [reachabilityIssues] at hi
      grind [Issue.warn]
  · obtain ⟨i, hi, hcode⟩ := h
    refine ⟨i, ?_, hcode⟩
    simp only [flowIssues_eq, List.mem_append]
    grind

end Verdict

/-! ## What does not depend on the order -/

section Reordered

variable {d d' : Design}

theorem isLive_reordered (h : d.Reordered d') (e : Edge) :
    (ofDesign d').IsLive e ↔ (ofDesign d).IsLive e := by
  rw [IsLive, IsLive, h.hasNode_eq, h.hasNode_eq]

theorem passage_iff {P : Edge → Prop} {id target : String} :
    Passage d (fun a => P a.edge) id target ↔ ∃ e ∈ d.graph.edges, (ofDesign d).IsLive e ∧ P e ∧
      e.source = id ∧ e.target = target := by
  simp only [Passage, ← d.edge_arcs, List.mem_map, exists_exists_and_eq_and]

theorem passage_reordered (h : d.Reordered d') (P : Edge → Prop) :
    Passage d' (fun a => P a.edge) = Passage d fun a => P a.edge := by
  ext id target
  simp only [passage_iff, isLive_reordered h, h.edges.mem_iff]

theorem isRound_reordered (h : d.Reordered d') (path : List String) (e : Edge) :
    (ofDesign d').IsRound path e ↔ (ofDesign d).IsRound path e := by
  have hway (way : List String) (first last : String) :
      (ofDesign d').IsWay way first last ↔ (ofDesign d).IsWay way first last := by
    constructor
    · intro hw
      exact ⟨hw.first, hw.last, hw.distinct, h.leads_eq ▸ hw.linked,
        fun id hid => h.hasNode_eq id ▸ hw.declared id hid⟩
    · intro hw
      exact ⟨hw.first, hw.last, hw.distinct, h.leads_eq.symm ▸ hw.linked,
        fun id hid => (h.hasNode_eq id).symm ▸ hw.declared id hid⟩
  simp only [IsRound, hway]

end Reordered

section Always

variable {d d' : Design} {o : Options}

theorem hasBareCircle_reordered (h : d.Reordered d') :
    HasBareCircle d' o ↔ HasBareCircle d o := by
  rw [HasBareCircle, HasBareCircle, passage_reordered h fun e => isExempt o e = false]

theorem hasOpenRound_reordered (h : d.Reordered d') : HasOpenRound d' o ↔ HasOpenRound d o := by
  simp only [HasOpenRound, isLive_reordered h, isRound_reordered h, h.edges.mem_iff]

/-- A circle without exempt edges is reported, wherever the search enters it. -/
theorem HasBareCircle.reported (h : HasBareCircle d o) : ReportsCycle d o := by
  obtain ⟨id, hround⟩ := h
  rw [reportsCycle_iff]
  intro hnone
  exact acyclic_passage (fun a ha => ha) (by simp [hnone]) id hround

/-- Whatever is reported closes a round trip. -/
theorem ReportsCycle.openRound (h : ReportsCycle d o) : HasOpenRound d o := by
  obtain ⟨c, hc⟩ := List.exists_mem_of_ne_nil _ (reportsCycle_iff.1 h)
  obtain ⟨harc, hexempt, hround⟩ := round_of_cycles hc
  have hedge : c.arc.edge ∈ d.graph.edges := List.mem_of_getElem? (Design.mem_arcs.1 harc)
  exact ⟨c.arc.edge, hedge, isLive_of_round hround, hexempt, c.path, hround⟩

end Always

/-! ## An order in which the search goes round -/

/-- Each edge leads to the node that the next one leaves. -/
def IsTrail (es : List Edge) : Prop := es.IsChain fun a b => a.target = b.source

section Trail

variable {d : Design} {o : Options}

/-- The edges of a way, and one more edge from where it ends. -/
theorem exists_trail {way : List String} (hlinked : way.IsChain (ofDesign d).Leads) {e : Edge}
    (he : e ∈ d.graph.edges) (hlast : way.getLast? = some e.source) :
    ∃ es, es ⊆ d.graph.edges ∧ es.map (·.source) = way ∧ IsTrail es ∧ es.getLast? = some e := by
  induction way with
  | nil => cases hlast
  | cons id way ih =>
    cases way with
    | nil =>
      obtain rfl : id = e.source := by simpa using hlast
      exact ⟨[e], by simpa using he, rfl, List.isChain_singleton e, rfl⟩
    | cons next way =>
      obtain ⟨hleads, hrest⟩ := List.isChain_cons_cons.1 hlinked
      obtain ⟨es, hsub, hsources, htrail, hes⟩ := ih hrest (by simpa using hlast)
      obtain ⟨a, ha, htarget⟩ := List.mem_map.1 (List.mem_filter.1 hleads).1
      obtain ⟨b, hb, hsource, hnext⟩ :=
        (exists_mem_outgoing (P := fun e => e.target = next)).1 ⟨a, ha, htarget⟩
      obtain ⟨c, es, rfl⟩ : ∃ c es', es = c :: es' := by
        cases es with
        | nil => cases hsources
        | cons c es => exact ⟨c, es, rfl⟩
      have hc : c.source = next := (List.cons.inj hsources).1
      refine ⟨b :: c :: es, List.cons_subset.2 ⟨hb, hsub⟩, ?_, ?_, by simpa using hes⟩
      · rw [List.map_cons, hsources, hsource]
      · exact htrail.cons_cons (hnext.trans hc.symm)

theorem IsTrail.target {es : List Edge} (h : IsTrail es) {e : Edge} (he : e ∈ es) :
    e.target ∈ es.map (·.source) ∨ es.getLast? = some e := by
  induction es with
  | nil => cases he
  | cons a es ih =>
    cases es with
    | nil =>
      rw [List.mem_singleton.1 he]
      exact .inr rfl
    | cons b es =>
      obtain ⟨hab, hrest⟩ := List.isChain_cons_cons.1 h
      rcases List.mem_cons.1 he with rfl | he
      · rw [hab]
        exact .inl (by simp)
      · exact (ih hrest he).imp (List.mem_cons_of_mem _) (by simp)

/-- Edges that are declared before all others are the first to leave their nodes. -/
theorem outgoing_front {es rest : List Edge} (hedges : d.graph.edges = es ++ rest)
    (hdistinct : (es.map (·.source)).Nodup) {e : Edge} (he : e ∈ es) :
    ∃ a left, (ofDesign d).outgoing e.source = a :: left ∧ a.edge = e := by
  obtain ⟨before, after, rfl⟩ := List.append_of_mem he
  have hother : before.filter (·.source == e.source) = [] := by
    rw [List.filter_eq_nil_iff]
    intro b hb hsame
    rw [List.map_append, List.map_cons, List.nodup_append'] at hdistinct
    refine hdistinct.2.2 (List.mem_map_of_mem hb) ?_
    rw [beq_iff_eq.1 hsame]
    exact List.mem_cons_self
  have hmap : ((ofDesign d).outgoing e.source).map (·.edge) =
      e :: (after ++ rest).filter (·.source == e.source) := by
    rw [map_edge_outgoing, hedges, List.append_assoc, List.filter_append, hother, List.nil_append,
      List.cons_append, List.filter_cons_of_pos (by simp)]
  obtain ⟨a, left, hout, hedge, -⟩ := List.map_eq_cons_iff.1 hmap
  exact ⟨a, left, hout, hedge⟩

/-- The search follows a trail of edges, each of which is the first to leave its node, as long as it
comes to new nodes; and it reports an edge at its end that leads back to the stack. -/
theorem reports_of_trail {es : List Edge} {last : Edge} (htrail : IsTrail es)
    (hlast : es.getLast? = some last) (hexempt : isExempt o last = false)
    (hfront : ∀ e ∈ es, ∃ a left, (ofDesign d).outgoing e.source = a :: left ∧ a.edge = e)
    (hlive : ∀ e ∈ es, (ofDesign d).hasNode e.target = true) {id : String}
    (hid : (es.map (·.source)).head? = some id) {rest : List Frame}
    (hnew : (es.map (·.source) ++ rest.map (·.id)).Nodup)
    (hback : last.target ∈ id :: rest.map (·.id)) {roots : List Node} {cs : List Cycle}
    {all : List String}
    (hrun : Run (ofDesign d) o ⟨[], ⟨id, (ofDesign d).outgoing id⟩ :: rest, roots⟩ cs all) :
    cs ≠ [] := by
  induction es generalizing id rest with
  | nil => cases hlast
  | cons e es ih =>
    obtain rfl : e.source = id := by simpa using hid
    obtain ⟨a, left, hout, rfl⟩ := hfront e List.mem_cons_self
    rw [hout] at hrun
    have hnode : (ofDesign d).hasNode a.edge.target = true := hlive _ List.mem_cons_self
    cases es with
    | nil =>
      obtain rfl : a.edge = last := by simpa using hlast
      have hstack : onStack (⟨a.edge.source, left⟩ :: rest) a.edge.target = true :=
        onStack_iff.2 hback
      obtain ⟨later, rfl, -⟩ := hrun.after (.close hnode hstack hexempt)
      exact List.cons_ne_nil _ _
    | cons b es =>
      obtain ⟨hb, htrail⟩ := List.isChain_cons_cons.1 htrail
      obtain ⟨hsource, hrest⟩ := List.nodup_cons.1 hnew
      have hfresh : b.source ∉ a.edge.source :: rest.map (·.id) := by
        grind
      have hstack : onStack (⟨a.edge.source, left⟩ :: rest) a.edge.target = false := by
        rw [← Bool.not_eq_true, onStack_iff, hb]
        exact hfresh
      obtain ⟨later, rfl, hafter⟩ := hrun.after (.enter hnode hstack List.not_mem_nil)
      rw [hb] at hafter
      refine ih htrail (by simpa using hlast) (fun e he => hfront e (List.mem_cons_of_mem _ he))
        (fun e he => hlive e (List.mem_cons_of_mem _ he)) rfl ?_ ?_ hafter
      · exact List.perm_middle.nodup_iff.2 hnew
      · exact List.mem_cons_of_mem _ hback

end Trail

/-- Some order of the nodes and edges brings an open round to light. -/
theorem HasOpenRound.exists_reported {d : Design} {o : Options} (h : HasOpenRound d o) :
    ∃ d', d.Reordered d' ∧ ReportsCycle d' o := by
  obtain ⟨e, he, -, hexempt, path, way, -, hway⟩ := h
  obtain ⟨es, hsub, hsources, htrail, hlast⟩ := exists_trail hway.linked he hway.last
  have hdistinct : (es.map (·.source)).Nodup := hsources ▸ hway.distinct
  -- the edges of the circle go before the others, and its first node before the others
  obtain ⟨front, hfront, hsublist⟩ := List.subperm_of_subset (hdistinct.of_map _) hsub
  obtain ⟨rest, hrest⟩ := hsublist.exists_perm_append
  obtain ⟨n, hn, hid⟩ := hasNode_iff.1 (hway.declared _ (List.mem_of_head? hway.first))
  obtain ⟨before, after, hnodes⟩ := List.append_of_mem hn
  let d' : Design := { d with graph := ⟨n :: (before ++ after), es ++ rest⟩ }
  have hreordered : d.Reordered d' :=
    ⟨hnodes ▸ List.perm_middle, hrest.trans (hfront.append_right rest), rfl⟩
  refine ⟨d', hreordered, reportsCycle_iff.2 ?_⟩
  obtain ⟨all, hrun⟩ := cycles_run (ofDesign d') o
  obtain ⟨later, hlater, hafter⟩ := hrun.after (.start (n := n) List.not_mem_nil)
  rw [hlater, List.nil_append]
  refine reports_of_trail htrail hlast hexempt
    (fun a ha => outgoing_front (d := d') rfl hdistinct ha) (fun a ha => ?_)
    (by rw [hsources, hway.first, hid]) (by simpa using hdistinct) (by simp [hid]) hafter
  rw [hreordered.hasNode_eq]
  rcases htrail.target ha with hmem | hend
  · exact hway.declared _ (hsources ▸ hmem)
  · obtain rfl : e = a := Option.some.inj (hlast.symm.trans hend)
    exact hway.declared _ (List.mem_of_head? hway.first)

/-- What the verdict on cycles has to do with the order in which nodes and edges are declared.
A circle of live edges none of which is exempt is reported in every order. Some order is reported
exactly if a live edge that is not exempt closes a round trip. So all orders agree, unless there are
such round trips and an exempt edge on each of them. -/
theorem cycle_verdict_reordered (d : Design) (o : Options) :
    (HasBareCircle d o → ∀ d', d.Reordered d' → ReportsCycle d' o) ∧
    ((∃ d', d.Reordered d' ∧ ReportsCycle d' o) ↔ HasOpenRound d o) ∧
    ((HasOpenRound d o → HasBareCircle d o) →
      ∀ d', d.Reordered d' → (ReportsCycle d' o ↔ ReportsCycle d o)) := by
  have hbare (hcircle : HasBareCircle d o) (d' : Design) (h : d.Reordered d') :
      ReportsCycle d' o := ((hasBareCircle_reordered h).2 hcircle).reported
  refine ⟨hbare, ⟨fun h => ?_, HasOpenRound.exists_reported⟩, fun hround d' h => ?_⟩
  · obtain ⟨d', hd', hreports⟩ := h
    exact (hasOpenRound_reordered hd').1 hreports.openRound
  · constructor
    · intro hreports
      exact (hround ((hasOpenRound_reordered h).1 hreports.openRound)).reported
    · intro hreports
      exact hbare (hround hreports.openRound) d' h

/-- Two messages that lead to each other; only the way back is guarded. -/
def exchange : Design where
  schema := "chat.design/v1"
  bot := ⟨"bot", ["web"]⟩
  version := ⟨"v1", .development⟩
  entries := [⟨.globalStart, none, "a"⟩]
  graph := {
    nodes := [⟨"a", "message", [("text", .str "A")], none, ["next"], false, none, none⟩,
      ⟨"b", "message", [("text", .str "B")], none, ["next"], false, none, none⟩]
    edges := [⟨"a", "b", "next", 0, none, none⟩,
      ⟨"b", "a", "next", 0, some "attempts < 3", none⟩] }
  profile := none
  props := []

/-- The same messages, the second one declared first. -/
def exchange.turned : Design :=
  { exchange with graph := ⟨exchange.graph.nodes.reverse, exchange.graph.edges⟩ }

/-- From the first message the search comes back over the guarded edge, and is content; from the
second it comes back over the other one. -/
theorem exchange_order_matters : exchange.Reordered exchange.turned ∧
    ¬ReportsCycle exchange .default ∧ ReportsCycle exchange.turned .default := by
  have hfirst : ((ofDesign exchange).cycles .default).isEmpty = true := by cbv
  have hsecond : ((ofDesign exchange.turned).cycles .default).isEmpty = false := by cbv
  refine ⟨⟨(List.reverse_perm _).symm, .refl _, rfl⟩, ?_, ?_⟩
  · rw [reportsCycle_iff, List.isEmpty_iff.1 hfirst]
    exact fun h => h rfl
  · rw [reportsCycle_iff]
    exact List.isEmpty_eq_false_iff.1 hsecond

end ChatPlan.Flow
