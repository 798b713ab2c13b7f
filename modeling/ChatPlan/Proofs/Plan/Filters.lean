import ChatPlan.Proofs.Check.Views
import ChatPlan.Proofs.Plan.Compile
import ChatPlan.Proofs.Template.Filters

/-
The filters of a plan. A plan without an issue on filters applies allowed filters only, in whatever
text of whatever node (`filters_allowed`). What stands behind a pipe and has a point in it is taken
for a variable, and is not looked up.
-/
namespace ChatPlan

open Compiler Template

/-- The block puts the name behind a pipe. Comments apply nothing. -/
def Template.Block.Pipes (b : Block) (name : List Char) : Prop :=
  b.kind ≠ .comment ∧ ∃ before after, b.body.toList = before ++ '|' :: after ∧
    IsPipe before after ∧ StartsWithName after name

theorem Length.code_of_estimateIssue {max near : Nat} {n : Node} {literal estimated : Nat}
    {i : Issue} (h : estimateIssue max near n literal estimated = some i) :
    i.code ∈ ["template.length.static_exceeded", "template.length.estimated_exceeded",
      "template.length.near_limit"] := by
  simp only [estimateIssue] at h
  split at h
  · cases h
    exact .head _
  · split at h
    · cases h
      exact .tail _ (.head _)
    · split at h
      · cases h
        exact .tail _ (.tail _ (.head _))
      · cases h

theorem Length.code_of_designIssue {c : DesignContext} {i : Issue} (hi : i ∈ designIssues c) :
    i.code ≠ "template.filter.disallowed" := by
  unfold designIssues at hi
  split at hi
  · cases hi
  · obtain ⟨n, -, hn⟩ := List.mem_filterMap.1 hi
    unfold nodeIssue at hn
    split at hn
    · intro hcode
      have hmem := code_of_estimateIssue hn
      rw [hcode] at hmem
      exact absurd hmem (by decide)
    · cases hn

variable {k : Channel} {o : Options} {d : Design} {views : List View}

/-- A disallowed filter is reported exactly if the check of filters reports one in some view. -/
theorem Compiler.exists_disallowed_iff :
    (∃ i ∈ (forChannel k o).issues d views, i.code = "template.filter.disallowed") ↔
      ∃ j v, views[j]? = some v ∧ Filters.issues (placeOf k o j) v ≠ [] := by
  constructor
  · intro h
    obtain ⟨i, hi, hcode⟩ := h
    rcases mem_of_area_template hi (by simp [hcode, areaOf]) with hdesign | ⟨j, v, hv, hfilter⟩
    · exact absurd hcode (Length.code_of_designIssue hdesign)
    · exact ⟨j, v, hv, List.ne_nil_of_mem hfilter⟩
  · intro h
    obtain ⟨j, v, hv, hne⟩ := h
    obtain ⟨i, hi⟩ := List.exists_mem_of_ne_nil _ hne
    refine ⟨i, mem_issues.2 (.inr (.inr ?_)), Filters.code_of_mem hi⟩
    exact mem_viewsIssues.2 ⟨j, v, hv, .inl hi⟩

/-- The compiler for an adapter, with the kinds that are always there and all passes. -/
abbrev Compiler.forAdapter (a : Adapter) (o : Options) : Compiler := ⟨.builtin, a, o, .standard⟩

/-- Checks see no more of an adapter than a channel has. -/
theorem Compiler.issues_forAdapter (a : Adapter) (o : Options) (d : Design) (views : List View) :
    (forAdapter a o).issues d views =
      (forChannel ⟨a.name, a.capabilities⟩ o).issues d views := rfl

/-- In a plan without an issue on filters, every name behind a pipe is an allowed filter, in every
output and every statement of every text of every node. Names with points in them are not taken for
filters. -/
theorem filters_allowed (a : Adapter) (o : Options) {d : Design} {p : Compilation}
    (hp : (forAdapter a o).compile d = .ok p)
    (hclean : ∀ i ∈ p.issues, i.code ≠ "template.filter.disallowed") :
    ∀ n ∈ d.graph.nodes, ∃ v, (forAdapter a o).view d n = .ok v ∧
      v.Each fun t => ∃ blocks, scan t.raw = .ok blocks ∧ ∀ b ∈ blocks, ∀ name, b.Pipes name →
        String.ofList name ∈ o.allowedFilters ∨ '.' ∈ name := by
  obtain ⟨rs, hrs, rfl⟩ := compile_eq_ok_iff.1 hp
  rw [assemble, issues_forAdapter] at hclean
  intro n hn
  obtain ⟨i, hi⟩ := List.mem_iff_getElem?.1 hn
  obtain ⟨v, hv, hplace⟩ := exists_view hrs hi
  obtain ⟨kind, s, -, -, hs⟩ := view_eq_ok hv
  have hallowed : Filters.issues (placeOf ⟨a.name, a.capabilities⟩ o i) v = [] := by
    by_contra hne
    obtain ⟨j, hj, hcode⟩ := exists_disallowed_iff.2 ⟨i, v, hplace, hne⟩
    exact hclean j hj hcode
  refine ⟨v, hv, ?_⟩
  refine ((Step.isScanned_of_view hs).and (Filters.issues_eq_nil_iff.1 hallowed)).imp ?_
  intro t ht
  obtain ⟨hscanned, hfilters⟩ := ht
  refine ⟨t.blocks, hscanned.blocks, fun b hb name hname => ?_⟩
  obtain ⟨hkind, before, after, hbody, hpipe, hstarts⟩ := hname
  by_cases hpoint : '.' ∈ name
  · exact .inr hpoint
  · have hmem := mem_filters_of_scan hscanned.blocks hb hkind hbody hpipe hstarts hpoint
    have hlisted := hfilters _ (List.mem_flatMap.2 ⟨b, hb, hmem⟩)
    exact .inl (List.contains_iff_mem.1 hlisted)

/-- A greeting with an allowed filter, and behind another pipe a name with a point in it. -/
def greeting : Design where
  schema := "chat.design/v1"
  bot := ⟨"bot", ["web"]⟩
  version := ⟨"v1", .development⟩
  entries := [⟨.globalStart, none, "hello"⟩]
  graph := {
    nodes := [⟨"hello", "message", [("text", .str "Hi {{ name | upper | text.shout }}")], none, [],
      true, none, none⟩]
    edges := [] }
  profile := none
  props := []

/-- The only block of the greeting. -/
def greeting.block : Block :=
  ⟨.output, "{{ name | upper | text.shout }}", "name | upper | text.shout", 3,
    ["name", "text.shout"], ["upper"]⟩

theorem compile_greeting : ∃ p, (forChannel .webchat .default).compile greeting = .ok p ∧
    p.isValid = true ∧ ∀ i ∈ p.issues, i.code ≠ "template.filter.disallowed" := by
  obtain ⟨p, hp, hvalid⟩ : ∃ p, (forChannel .webchat .default).compile greeting = .ok p ∧
      p.isValid = true := by
    apply exists_valid
    · decide +kernel
    · decide +kernel
    · cbv
  refine ⟨p, hp, hvalid, fun i hi hcode => ?_⟩
  obtain ⟨rs, hrs, rfl⟩ := compile_eq_ok_iff.1 hp
  obtain ⟨j, v, hv, hne⟩ := exists_disallowed_iff.1 ⟨i, hi, hcode⟩
  have hviews : ((greeting.graph.nodes.mapM ((forChannel .webchat .default).route greeting)).map
      fun rs => rs.all fun r => (Filters.issues (placeOf .webchat .default 0) r.1).isEmpty) =
        .ok true := by
    decide +kernel
  rw [mapM_eq_ok_iff.2 hrs] at hviews
  obtain ⟨r, hr, rfl⟩ := List.mem_map.1 (List.mem_of_getElem? hv)
  have hnone := List.isEmpty_iff.1 (List.all_eq_true.1 (Except.ok.inj hviews) r hr)
  -- whether anything is reported does not depend on the place
  have hallowed := Filters.issues_eq_nil_iff.1 hnone
  exact hne (Filters.issues_eq_nil_iff.2 hallowed)

theorem greeting.text_eq : ∃ v,
    (forChannel .webchat .default).view greeting greeting.graph.nodes[0] = .ok v ∧
      v.text = some ⟨"Hi {{ name | upper | text.shout }}", true, [greeting.block]⟩ := by
  have hshown : ((forChannel .webchat .default).view greeting greeting.graph.nodes[0]).map
      (·.text) = .ok (some ⟨"Hi {{ name | upper | text.shout }}", true, [greeting.block]⟩) := by
    decide +kernel
  exact map_eq_ok_iff.1 hshown

theorem greeting.pipes_shout : greeting.block.Pipes "text.shout".toList := by
  refine ⟨by decide, "name | upper ".toList, " text.shout".toList, by decide, ?_, ?_⟩
  · exact ⟨by decide, by decide, by decide⟩
  · exact {
      starts := ⟨'t', rfl, by decide +kernel⟩
      continues := List.all_eq_true.1 (by decide +kernel)
      ends := by decide
      stands := ⟨[' '], [], [], by decide, .space, nofun, nofun⟩ }

/-- Every filter of the greeting is allowed. -/
theorem greeting_filters_allowed : ∃ p, (forChannel .webchat .default).compile greeting = .ok p ∧
    (∀ i ∈ p.issues, i.code ≠ "template.filter.disallowed") ∧
      ∀ n ∈ greeting.graph.nodes, ∃ v, (forChannel .webchat .default).view greeting n = .ok v ∧
        v.Each fun t => ∃ blocks, scan t.raw = .ok blocks ∧ ∀ b ∈ blocks, ∀ name, b.Pipes name →
          String.ofList name ∈ Options.default.allowedFilters ∨ '.' ∈ name := by
  obtain ⟨p, hp, -, hclean⟩ := compile_greeting
  exact ⟨p, hp, hclean, filters_allowed Channel.webchat.adapter .default hp hclean⟩

/-- The greeting puts a name behind a pipe that is not allowed; the plan is valid. -/
theorem greeting_pipes_unlisted : ∃ p v t blocks,
    (forChannel .webchat .default).compile greeting = .ok p ∧ p.isValid = true ∧
      (∀ i ∈ p.issues, i.code ≠ "template.filter.disallowed") ∧
        (forChannel .webchat .default).view greeting greeting.graph.nodes[0] = .ok v ∧
          v.text = some t ∧ scan t.raw = .ok blocks ∧
            ∃ b ∈ blocks, b.Pipes "text.shout".toList ∧
              "text.shout" ∉ Options.default.allowedFilters := by
  obtain ⟨p, hp, hvalid, hclean⟩ := compile_greeting
  obtain ⟨v, hv, htext⟩ := greeting.text_eq
  refine ⟨p, v, _, [greeting.block], hp, hvalid, hclean, hv, htext, ?_, greeting.block,
    List.mem_singleton_self _, greeting.pipes_shout, by decide⟩
  decide +kernel

end ChatPlan
