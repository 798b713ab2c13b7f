import ChatPlan.Flow.Graph
import ChatPlan.Proofs.Lists
import Mathlib.Data.List.TakeWhile
import Mathlib.Data.String.Basic

/-
The index over the edges of a design. The arcs of a source stand together among the sorted arcs, and
its span says where, so what leaves a node is what a plain search through the declared edges finds
(`outgoing_eq`). The spans cut the sorted arcs into runs that follow one another without gaps, one
run for each source (`Tiles`), so nothing is lost, taken twice or mixed, and no span reaches beyond
the arcs (`outgoing_is_filter`).
-/
namespace ChatPlan

/-- The edges of a design with their places. -/
def Design.arcs (d : Design) : List Arc := d.graph.edges.mapIdx Arc.mk

theorem Design.mem_arcs {d : Design} {a : Arc} :
    a ∈ d.arcs ↔ d.graph.edges[a.index]? = some a.edge := by
  simp only [arcs, List.mem_mapIdx]
  constructor
  · intro h
    obtain ⟨i, hi, rfl⟩ := h
    exact List.getElem?_eq_getElem hi
  · intro h
    obtain ⟨hi, he⟩ := List.getElem?_eq_some_iff.1 h
    exact ⟨a.index, hi, by rw [he]⟩

theorem Design.index_arcs (d : Design) :
    d.arcs.map (·.index) = List.range d.graph.edges.length := by
  apply List.ext_getElem <;> simp [arcs]

theorem Design.edge_arcs (d : Design) : d.arcs.map (·.edge) = d.graph.edges := by
  apply List.ext_getElem <;> simp [arcs]

theorem Design.nodup_arcs (d : Design) : d.arcs.Nodup := by
  refine List.Nodup.of_map (·.index) ?_
  rw [index_arcs]
  exact List.nodup_range

namespace Flow

/-- The arc leaves this node. -/
def leaves (id : String) (a : Arc) : Bool := a.edge.source == id

/-- The order of arcs by their source. -/
def sourceLe (a b : Arc) : Bool := a.edge.source ≤ b.edge.source

theorem sourceLe_iff {a b : Arc} : sourceLe a b = true ↔ a.edge.source ≤ b.edge.source := by
  simp only [sourceLe, decide_eq_true_eq]

theorem sourceLe_trans (a b c : Arc) (hab : sourceLe a b) (hbc : sourceLe b c) : sourceLe a c :=
  sourceLe_iff.2 (le_trans (sourceLe_iff.1 hab) (sourceLe_iff.1 hbc))

theorem sourceLe_total (a b : Arc) : sourceLe a b || sourceLe b a := by
  simpa only [Bool.or_eq_true, sourceLe_iff] using le_total a.edge.source b.edge.source

/-- The part of a list at a span, if there is one. -/
def slice (arcs : List Arc) : Option Span → List Arc
  | some s => (arcs.drop s.start).take s.size
  | none => []

/-- In sorted arcs, those of the first source stand in front. -/
theorem filter_leaves_head {a : Arc} {rest : List Arc}
    (h : (a :: rest).Pairwise fun a b => sourceLe a b) :
    (a :: rest).filter (leaves a.edge.source) =
      a :: rest.takeWhile (·.edge.source == a.edge.source) := by
  rw [List.filter_cons_of_pos (by simp [leaves])]
  have hle : ∀ b ∈ rest, sourceLe a b := fun b => List.rel_of_pairwise_cons h
  have hrest := h.of_cons
  clear h
  congr 1
  induction rest with
  | nil => rfl
  | cons b rest ih =>
    by_cases hb : b.edge.source = a.edge.source
    · rw [List.filter_cons_of_pos (by simp [leaves, hb]), List.takeWhile_cons_of_pos (by simp [hb]),
        ih (fun c hc => hle c (List.mem_cons_of_mem b hc)) hrest.of_cons]
    · -- every later source is at least that of `b`, which is beyond that of `a`
      rw [List.takeWhile_cons_of_neg (by simp [hb]), List.filter_eq_nil_iff]
      intro c hc hca
      have hca : c.edge.source = a.edge.source := by simpa [leaves] using hca
      have hab : a.edge.source ≤ b.edge.source := sourceLe_iff.1 (hle b List.mem_cons_self)
      have hbc : b.edge.source ≤ c.edge.source := by
        rcases List.mem_cons.1 hc with rfl | hc
        · exact le_refl _
        · exact sourceLe_iff.1 (List.rel_of_pairwise_cons hrest hc)
      exact hb (le_antisymm (hca ▸ hbc) hab)

theorem filter_leaves_other {id : String} {a : Arc} {rest : List Arc} (h : a.edge.source ≠ id) :
    (a :: rest).filter (leaves id) =
      (rest.dropWhile (·.edge.source == a.edge.source)).filter (leaves id) := by
  rw [List.filter_cons_of_neg (by simpa [leaves] using h)]
  conv_lhs => rw [← List.takeWhile_append_dropWhile (p := (·.edge.source == a.edge.source))
    (l := rest), List.filter_append]
  rw [List.filter_eq_nil_iff.2, List.nil_append]
  intro b hb hid
  have hba : b.edge.source = a.edge.source := by simpa using List.mem_takeWhile_imp hb
  exact h (hba ▸ by simpa [leaves] using hid)

theorem slice_run (front : List Arc) (a : Arc) (rest : List Arc) :
    slice (front ++ a :: rest)
        (some ⟨front.length, (rest.takeWhile (·.edge.source == a.edge.source)).length + 1⟩) =
      a :: rest.takeWhile (·.edge.source == a.edge.source) := by
  rw [slice, List.drop_left, List.take_succ_cons]
  congr 1
  exact (List.prefix_iff_eq_take.1 (List.takeWhile_prefix _)).symm

/-- The spans of sorted arcs find the arcs of each source, wherever the arcs stand. -/
theorem slice_spansFrom (id : String) (start : Nat) (arcs : List Arc) (front : List Arc)
    (hstart : front.length = start) (h : arcs.Pairwise fun a b => sourceLe a b) :
    slice (front ++ arcs) (Members.get? (spansFrom start arcs) id) = arcs.filter (leaves id) := by
  -- the arcs in front grow with the start, so that spans count from the same place throughout
  induction start, arcs using spansFrom.induct generalizing front with
  | case1 start => simp [spansFrom, Members.get?, slice]
  | case2 start a rest same ih =>
    rw [spansFrom]
    by_cases hid : a.edge.source = id
    · subst hid
      rw [filter_leaves_head h, ← slice_run front, hstart]
      simp [Members.get?]
    · have hget : Members.get? ((a.edge.source, (⟨start, same.length + 1⟩ : Span)) ::
          spansFrom (start + same.length + 1)
            (rest.dropWhile (·.edge.source == a.edge.source))) id =
          Members.get? (spansFrom (start + same.length + 1)
            (rest.dropWhile (·.edge.source == a.edge.source))) id := by
        simp [Members.get?, hid]
      have hsplit : front ++ a :: rest =
          (front ++ a :: same) ++ rest.dropWhile (·.edge.source == a.edge.source) := by
        simp [same, List.takeWhile_append_dropWhile]
      rw [hget, hsplit, filter_leaves_other hid]
      apply ih
      · simp [hstart]; omega
      · exact h.of_cons.sublist (List.dropWhile_sublist _)

/-- What leaves a node: the declared edges from it, each once and in their order. -/
theorem outgoing_eq (d : Design) (id : String) :
    (ofDesign d).outgoing id = d.arcs.filter (leaves id) := by
  have hsort : (ofDesign d).arcs = d.arcs.mergeSort sourceLe := rfl
  have hspans : (ofDesign d).spans = spansFrom 0 (ofDesign d).arcs := rfl
  have hslice : (ofDesign d).outgoing id =
      slice ([] ++ (ofDesign d).arcs) (Members.get? (spansFrom 0 (ofDesign d).arcs) id) := by
    rw [List.nil_append, ← hspans]
    unfold outgoing
    cases Members.get? (ofDesign d).spans id <;> rfl
  have hsorted : (ofDesign d).arcs.Pairwise fun a b => sourceLe a b :=
    List.pairwise_mergeSort sourceLe_trans sourceLe_total _
  rw [hslice, slice_spansFrom id 0 _ [] rfl hsorted, hsort]
  -- arcs of one source are tied, so sorting keeps them as they were declared
  apply filter_mergeSort sourceLe_trans sourceLe_total
  intro a b ha hb
  have ha : a.edge.source = id := by simpa [leaves] using ha
  have hb : b.edge.source = id := by simpa [leaves] using hb
  exact sourceLe_iff.2 (le_of_eq (ha.trans hb.symm))

theorem mem_outgoing {d : Design} {id : String} {a : Arc} :
    a ∈ (ofDesign d).outgoing id ↔ a ∈ d.arcs ∧ a.edge.source = id := by
  rw [outgoing_eq, List.mem_filter, leaves, beq_iff_eq]

theorem nodup_outgoing {d : Design} {id : String} : ((ofDesign d).outgoing id).Nodup := by
  rw [outgoing_eq]
  exact d.nodup_arcs.filter _

theorem map_edge_outgoing (d : Design) (id : String) :
    ((ofDesign d).outgoing id).map (·.edge) = d.graph.edges.filter (·.source == id) := by
  conv_rhs => rw [← d.edge_arcs, List.filter_map]
  rw [outgoing_eq]
  rfl

theorem exists_mem_outgoing {d : Design} {id : String} {P : Edge → Prop} :
    (∃ a ∈ (ofDesign d).outgoing id, P a.edge) ↔ ∃ e ∈ d.graph.edges, e.source = id ∧ P e := by
  constructor
  · intro h
    obtain ⟨a, ha, hP⟩ := h
    obtain ⟨harc, hsource⟩ := mem_outgoing.1 ha
    exact ⟨a.edge, List.mem_of_getElem? (Design.mem_arcs.1 harc), hsource, hP⟩
  · intro h
    obtain ⟨e, he, hsource, hP⟩ := h
    obtain ⟨i, hi⟩ := List.mem_iff_getElem?.1 he
    exact ⟨⟨i, e⟩, mem_outgoing.2 ⟨Design.mem_arcs.2 hi, hsource⟩, hP⟩

theorem outgoing_eq_nil_iff {d : Design} {id : String} :
    (ofDesign d).outgoing id = [] ↔ ∀ e ∈ d.graph.edges, e.source ≠ id := by
  have hexists : (∃ a, a ∈ (ofDesign d).outgoing id) ↔ ∃ e ∈ d.graph.edges, e.source = id := by
    simpa using exists_mem_outgoing (P := fun _ => True)
  rw [List.eq_nil_iff_forall_not_mem, ← not_exists, hexists]
  simp

end Flow

end ChatPlan

namespace ChatPlan.Flow

/-! ## Spans -/

variable {start : Nat} {arcs : List Arc}

/-- From this place on the spans follow one another without gaps, to the end of the arcs. None of
them is empty, and the arcs at a span have the source that it names. -/
def Tiles (arcs : List Arc) : Nat → List (String × Span) → Prop
  | place, [] => place = arcs.length
  | place, m :: ms =>
    m.2.start = place ∧ 0 < m.2.size ∧ place + m.2.size ≤ arcs.length ∧
      (∀ a ∈ slice arcs (some m.2), a.edge.source = m.1) ∧ Tiles arcs (place + m.2.size) ms

theorem tiles_spansFrom (front : List Arc) (hstart : front.length = start) :
    Tiles (front ++ arcs) start (spansFrom start arcs) := by
  -- the arcs in front grow with the start, so that spans count from the same place throughout
  induction start, arcs using spansFrom.induct generalizing front with
  | case1 start => simp [spansFrom, Tiles, hstart]
  | case2 start a rest same ih =>
    have hrest : rest = same ++ rest.dropWhile (·.edge.source == a.edge.source) :=
      List.takeWhile_append_dropWhile.symm
    have hsplit : front ++ a :: rest =
        (front ++ a :: same) ++ rest.dropWhile (·.edge.source == a.edge.source) := by
      conv_lhs => rw [hrest]
      simp
    rw [spansFrom]
    refine ⟨rfl, Nat.succ_pos _, ?_, fun b hb => ?_, ?_⟩
    · rw [hsplit, List.length_append, List.length_append, hstart]
      exact Nat.le_add_right _ _
    · rw [← hstart, slice_run] at hb
      rcases List.mem_cons.1 hb with rfl | hb
      · rfl
      · simpa using List.mem_takeWhile_imp hb
    · rw [hsplit]
      exact ih (front ++ a :: same) (by simp [hstart]; omega)

theorem mem_names_spansFrom {name : String} :
    name ∈ (spansFrom start arcs).map (·.1) ↔ ∃ a ∈ arcs, a.edge.source = name := by
  induction start, arcs using spansFrom.induct with
  | case1 start => simp [spansFrom]
  | case2 start a rest same ih =>
    rw [spansFrom, List.map_cons, List.mem_cons, ih]
    constructor
    · rintro (rfl | ⟨b, hb, rfl⟩)
      · exact ⟨a, List.mem_cons_self, rfl⟩
      · exact ⟨b, List.mem_cons_of_mem a ((List.dropWhile_sublist _).subset hb), rfl⟩
    · rintro ⟨b, hb, rfl⟩
      rw [← List.takeWhile_append_dropWhile (p := (·.edge.source == a.edge.source)) (l := rest),
        ← List.cons_append, List.mem_append, List.mem_cons] at hb
      rcases hb with (rfl | hb) | hb
      · exact .inl rfl
      · exact .inl (by simpa using List.mem_takeWhile_imp hb)
      · exact .inr ⟨b, hb, rfl⟩

theorem filter_leaves_dropWhile {a : Arc} {rest : List Arc}
    (h : (a :: rest).Pairwise fun a b => sourceLe a b) :
    (rest.dropWhile (·.edge.source == a.edge.source)).filter (leaves a.edge.source) = [] := by
  have hrun : (a :: rest.takeWhile (·.edge.source == a.edge.source)).filter (leaves a.edge.source) =
      a :: rest.takeWhile (·.edge.source == a.edge.source) := by
    rw [List.filter_eq_self]
    intro b hb
    rcases List.mem_cons.1 hb with rfl | hb
    · simp [leaves]
    · exact List.mem_takeWhile_imp hb
  have hall := filter_leaves_head h
  conv_lhs at hall =>
    rw [← List.takeWhile_append_dropWhile (p := (·.edge.source == a.edge.source)) (l := rest),
      ← List.cons_append, List.filter_append, hrun]
  exact List.append_right_eq_self.1 hall

theorem nodup_names_spansFrom (h : arcs.Pairwise fun a b => sourceLe a b) :
    ((spansFrom start arcs).map (·.1)).Nodup := by
  induction start, arcs using spansFrom.induct with
  | case1 start => simp [spansFrom]
  | case2 start a rest same ih =>
    rw [spansFrom, List.map_cons, List.nodup_cons, mem_names_spansFrom]
    refine ⟨?_, ih (h.of_cons.sublist (List.dropWhile_sublist _))⟩
    rintro ⟨b, hb, hsource⟩
    exact List.filter_eq_nil_iff.1 (filter_leaves_dropWhile h) b hb (by simp [leaves, hsource])

/-- The index over the edges of a design loses none of them and takes none twice: its arcs are the
declared ones, sorted by their source, and its spans cut them into one run for each source. What it
finds for an id are the declared edges that leave it, in their order and each once, and nothing
where none leaves it. -/
theorem outgoing_is_filter (d : Design) :
    ((ofDesign d).arcs.Perm d.arcs ∧ (ofDesign d).arcs.Pairwise (fun a b => sourceLe a b) ∧
      Tiles (ofDesign d).arcs 0 (ofDesign d).spans ∧ ((ofDesign d).spans.map (·.1)).Nodup) ∧
    ∀ id, (ofDesign d).outgoing id = d.arcs.filter (·.edge.source == id) ∧
      ((ofDesign d).outgoing id).map (·.edge) = d.graph.edges.filter (·.source == id) ∧
      ((ofDesign d).outgoing id).Nodup ∧
      ((ofDesign d).outgoing id = [] ↔ ∀ e ∈ d.graph.edges, e.source ≠ id) := by
  have hsorted : (ofDesign d).arcs.Pairwise fun a b => sourceLe a b :=
    List.pairwise_mergeSort sourceLe_trans sourceLe_total d.arcs
  refine ⟨⟨List.mergeSort_perm d.arcs sourceLe, hsorted, ?_, ?_⟩, fun id => ⟨?_, ?_, ?_, ?_⟩⟩
  · exact tiles_spansFrom [] rfl
  · exact nodup_names_spansFrom hsorted
  · exact outgoing_eq d id
  · exact map_edge_outgoing d id
  · exact nodup_outgoing
  · exact outgoing_eq_nil_iff

end ChatPlan.Flow
