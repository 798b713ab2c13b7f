import ChatPlan.Proofs.Flow.Order

/-
The rules for the graph find an error exactly in a design that is not well formed
(`flowIssues_clean_iff`). What a rule keeps of the members that it saw before comes down to a
condition on pairs of members, and what it merely warns of does not matter.
-/
namespace ChatPlan

/-- A design whose starts, edges and channels are in order. -/
structure WellFormed (d : Design) : Prop where
  /-- There is one global start, and it is bound to no channel. -/
  start : ∃ e, d.entries.filter (·.kind == .globalStart) = [e] ∧ e.channelId = none
  /-- Every channel start names a channel. -/
  named : ∀ e ∈ d.entries, e.kind = .channelStart →
    ∃ c, e.channelId = some c ∧ Text.trimmed c ≠ ""
  /-- No two channel starts name the same channel. -/
  distinct : d.entries.Pairwise fun a b => a.kind = .channelStart → b.kind = .channelStart →
    a.channelId.map Text.trimmed ≠ b.channelId.map Text.trimmed
  /-- No edge leaves a final node. -/
  final : ∀ e ∈ d.graph.edges, ∀ n ∈ d.graph.nodes, n.id = e.source → n.isFinal = false
  /-- Edges of one source that share a priority have none. -/
  priorities : d.graph.edges.Pairwise fun a b =>
    a.source = b.source → a.priority = b.priority → a.priority = 0
  /-- Edges join declared nodes. -/
  joined : ∀ e ∈ d.graph.edges,
    (∃ n ∈ d.graph.nodes, n.id = e.source) ∧ ∃ n ∈ d.graph.nodes, n.id = e.target
  /-- Entries of any kind start at declared nodes. -/
  entered : ∀ e ∈ d.entries, ∃ n ∈ d.graph.nodes, n.id = e.target
  /-- The bot serves channels, all of which have a name. -/
  channels : d.bot.channels ≠ [] ∧ ∀ c ∈ d.bot.channels, Text.blank c = false

namespace Flow

variable {d : Design} {o : Options}

/-! ## Starts -/

theorem map_fst_globalStarts :
    (ofDesign d).globalStarts.map Prod.fst = d.entries.filter (·.kind == .globalStart) := by
  conv_rhs => rw [← List.zipIdx_map_fst 0 d.entries, List.filter_map]
  rfl

theorem globalStartIssues_clean : hasErrors (globalStartIssues (ofDesign d) o) = false ↔
    ∃ e, d.entries.filter (·.kind == .globalStart) = [e] ∧ e.channelId = none := by
  rw [← map_fst_globalStarts, globalStartIssues, hasErrors_append, Bool.or_eq_false_iff,
    hasErrors_map (fun _ => rfl)]
  rcases (ofDesign d).globalStarts with _ | ⟨p, _ | ⟨q, starts⟩⟩
  · simp
  · simp
  · simp

theorem channelOf?_eq_some_iff {e : Entry} {c : String} : channelOf? e = some c ↔
    e.kind = .channelStart ∧ e.channelId.map Text.trimmed = some c ∧ c ≠ "" := by
  simp [channelOf?]

theorem channelStartIssue_clean {e : Entry} {j : Nat} :
    hasErrors (channelStartIssue (ofDesign d) e j).toList = false ↔
      ∃ c, channelOf? e = some c ∧ ∀ a ∈ d.entries.take j, channelOf? a ≠ some c := by
  rw [channelStartIssue]
  cases hc : channelOf? e with
  | none => simp
  | some c =>
    have hentries : (ofDesign d).entries = d.entries := rfl
    have hearlier : (∀ a ∈ d.entries.take j, channelOf? a ≠ some c) ↔
        ¬∃ i, d.entries.findIdx? (fun a => channelOf? a == some c) = some i ∧ i < j := by
      rw [exists_findIdx?_lt_iff]
      simp
    simp only [Option.some.injEq, exists_eq_left', hentries, hearlier]
    cases hfirst : d.entries.findIdx? fun a => channelOf? a == some c with
    | none => simp
    | some first =>
      by_cases hlt : first < j
      · simp [hlt]
      · simp only [hlt, ↓reduceIte, Option.some.injEq, exists_eq_left', not_false_eq_true, iff_true]
        split <;> simp

theorem channelStartIssues_clean : hasErrors (channelStartIssues (ofDesign d) o) = false ↔
    (∀ e ∈ d.entries, e.kind = .channelStart → ∃ c, e.channelId = some c ∧ Text.trimmed c ≠ "") ∧
      d.entries.Pairwise fun a b => a.kind = .channelStart → b.kind = .channelStart →
        a.channelId.map Text.trimmed ≠ b.channelId.map Text.trimmed := by
  have hplaces : hasErrors (channelStartIssues (ofDesign d) o) = false ↔
      ∀ p ∈ d.entries.zipIdx, p.1.kind = .channelStart →
        ∃ c, channelOf? p.1 = some c ∧ ∀ a ∈ d.entries.take p.2, channelOf? a ≠ some c := by
    have hentries : (ofDesign d).entries = d.entries := rfl
    simp only [channelStartIssues, List.filterMap_eq_flatMap_toList, hasErrors_flatMap, hentries,
      List.mem_filter, beq_iff_eq, and_imp, channelStartIssue_clean]
  rw [hplaces]
  constructor
  · intro h
    constructor
    · intro e he hkind
      obtain ⟨i, hi⟩ := exists_mem_zipIdx he
      obtain ⟨c, hc, -⟩ := h (e, i) hi hkind
      obtain ⟨-, hmap, hne⟩ := channelOf?_eq_some_iff.1 hc
      obtain ⟨raw, hraw, rfl⟩ := Option.map_eq_some_iff.1 hmap
      exact ⟨raw, hraw, hne⟩
    · refine pairwise_iff_zipIdx.2 fun p hp a ha hkind hkind' heq => ?_
      obtain ⟨c, hc, hearlier⟩ := h p hp hkind'
      obtain ⟨-, hmap, hne⟩ := channelOf?_eq_some_iff.1 hc
      exact hearlier a ha (channelOf?_eq_some_iff.2 ⟨hkind, heq.trans hmap, hne⟩)
  · intro h p hp hkind
    obtain ⟨hnamed, hdistinct⟩ := h
    obtain ⟨raw, hraw, hne⟩ := hnamed p.1 (List.fst_mem_of_mem_zipIdx hp) hkind
    have hmap : p.1.channelId.map Text.trimmed = some (Text.trimmed raw) := by rw [hraw, Option.map_some]
    refine ⟨Text.trimmed raw, channelOf?_eq_some_iff.2 ⟨hkind, hmap, hne⟩, fun a ha hca => ?_⟩
    obtain ⟨hkind', hmap', -⟩ := channelOf?_eq_some_iff.1 hca
    exact pairwise_iff_zipIdx.1 hdistinct p hp a ha hkind' hkind (hmap'.trans hmap.symm)

/-! ## Edges, channels and reachability -/

/-- That nothing leaves a final node, read from the nodes and read from the edges. -/
theorem outgoing_final_iff :
    (∀ n ∈ d.graph.nodes, n.isFinal = true → (ofDesign d).outgoing n.id = []) ↔
      ∀ e ∈ d.graph.edges, ∀ n ∈ d.graph.nodes, n.id = e.source → n.isFinal = false := by
  simp only [outgoing_eq_nil_iff]
  constructor
  · intro h e he n hn hid
    cases hfinal : n.isFinal with
    | false => rfl
    | true => exact absurd hid.symm (h n hn hfinal e he)
  · intro h n hn hfinal e he hid
    rw [h e he n hn hid.symm] at hfinal
    cases hfinal

/-- Of competing edges, either both or none have a priority. -/
theorem competes_priority_iff {a b : Edge} : (competes b a = true → b.priority = 0) ↔
    (a.source = b.source → a.priority = b.priority → a.priority = 0) := by
  simp only [competes, Bool.and_eq_true, beq_iff_eq, and_imp]
  constructor
  · intro h hsource hpriority
    rw [hpriority]
    exact h hsource.symm hpriority.symm
  · intro h hsource hpriority
    rw [hpriority]
    exact h hsource.symm hpriority.symm

theorem channelIssues_clean : hasErrors (channelIssues (ofDesign d) o) = false ↔
    d.bot.channels ≠ [] ∧ ∀ c ∈ d.bot.channels, Text.blank c = false := by
  have hbot : (ofDesign d).design.bot = d.bot := rfl
  rw [channelIssues, hbot]
  cases hempty : d.bot.channels.isEmpty with
  | true => simp [List.isEmpty_iff.1 hempty]
  | false =>
    have hne : d.bot.channels ≠ [] := List.isEmpty_eq_false_iff.1 hempty
    rw [← forall_zipIdx_iff, if_neg Bool.false_ne_true, hasErrors_map (fun _ => rfl),
      List.filter_eq_nil_iff]
    simp [hne]

theorem hasErrors_reachabilityIssues (f : Flow) : hasErrors (f.reachabilityIssues o) = false := by
  rw [reachabilityIssues]
  split
  · rfl
  · simp [hasErrors, Issue.warn, Issue.isError]

end Flow

open ChatPlan.Flow

/-- The rules for the graph report no error exactly if the design is well formed. -/
theorem flowIssues_clean_iff (d : Design) (o : Options) :
    hasErrors (flowIssues (ofDesign d) o) = false ↔ WellFormed d := by
  simp only [flowIssues_eq, hasErrors_append, Bool.or_eq_false_iff, globalStartIssues_clean,
    channelStartIssues_clean, finalNodeIssues_clean, priorityIssues_clean, referenceIssues_clean,
    channelIssues_clean, hasErrors_cycleIssues, hasErrors_reachabilityIssues, hasNode_iff,
    outgoing_final_iff, competes_priority_iff, true_and, and_true]
  constructor
  · intro h
    obtain ⟨hstart, ⟨hnamed, hdistinct⟩, hfinal, hpriorities, ⟨hjoined, hentered⟩, hchannels⟩ := h
    exact ⟨hstart, hnamed, hdistinct, hfinal, hpriorities, hjoined, hentered, hchannels⟩
  · intro h
    exact ⟨h.start, ⟨h.named, h.distinct⟩, h.final, h.priorities, ⟨h.joined, h.entered⟩, h.channels⟩

end ChatPlan
