import ChatPlan.Check.Views
import ChatPlan.Proofs.Check.Areas
import ChatPlan.Proofs.Issues
import ChatPlan.Proofs.Step.Texts
import ChatPlan.Proofs.Template.Width

/-
What the checks of a view ask for. Of filters: every filter in any text of the view is allowed. Of
lengths: the check of views measures texts without blocks, and the check of designs measures the
property `text` of a node, if it has an output block.
-/
namespace ChatPlan.Filters

/-! ## Filters -/

variable {c : ViewContext} {v : View}

theorem code_of_mem {i : Issue} (hi : i ∈ issues c v) : i.code = "template.filter.disallowed" := by
  obtain ⟨f, -, hf⟩ := List.mem_flatMap.1 hi
  obtain ⟨name, -, rfl⟩ := List.mem_map.1 hf
  rfl

theorem issues_eq_nil_iff : issues c v = [] ↔
    v.Each fun t => ∀ name ∈ t.filters, c.options.allowsFilter name = true := by
  rw [issues, List.flatMap_eq_nil_iff, ← View.each_fields, Fields.Each]
  simp

end ChatPlan.Filters

namespace ChatPlan.Length

/-! ## Lengths -/

theorem exists_viewIssue {c : ViewContext} {v : View} {max : Nat} {t : TemplateText}
    (hmax : c.capabilities.maxTextLen = some max) (ht : v.text = some t)
    (hplain : t.templated = false) (hlong : max < t.size) :
    ∃ i ∈ viewIssues c v, i.severity = .warn ∧ i.code = "text.length.exceeded" ∧
      i.path = c.at "text" := by
  refine ⟨.warn "text.length.exceeded" (c.at "text")
    s!"Text is {t.size} characters; the channel limit is {max}", ?_, rfl, rfl, rfl⟩
  simp [viewIssues, ht, hmax, hplain, hlong]

theorem plain_of_viewIssue {c : ViewContext} {v : View} {i : Issue} (hi : i ∈ viewIssues c v)
    (hcode : i.code = "text.length.exceeded") :
    i.path = c.at "text" ∧ ∃ t, v.text = some t ∧ t.templated = false := by
  unfold viewIssues at hi
  split at hi
  · rename_i t max ht _
    split at hi
    · cases List.mem_singleton.1 hi
      simp [Issue.info] at hcode
    · rename_i hplain
      dsimp only at hi
      split at hi
      · cases List.mem_singleton.1 hi
        exact ⟨rfl, t, ht, Bool.eq_false_iff.2 hplain⟩
      · cases hi
  · cases hi

/-- A node whose `text` has an output block and is too long outside its blocks is reported. -/
theorem exists_designIssue {c : DesignContext} {n : Node} (hn : n ∈ c.flow.nodes) {max : Nat}
    (hmax : c.capabilities.maxTextLen = some max) {raw : String} {literal estimated : Nat}
    (htext : Props.text? (c.props n) "text" = some raw)
    (hestimate : Template.estimate? raw = some (literal, estimated)) (hlong : max < literal) :
    ∃ i ∈ designIssues c, i.severity = .error ∧ i.code = "template.length.static_exceeded" ∧
      i.path = nodePath n.id ++ ".props.text" := by
  refine ⟨.error "template.length.static_exceeded" (nodePath n.id ++ ".props.text")
    s!"Literal text alone is {literal} characters; the channel limit is {max}", ?_, rfl, rfl, rfl⟩
  simp only [designIssues, hmax, List.mem_filterMap]
  exact ⟨n, hn, by simp [nodeIssue, htext, hestimate, estimateIssue, hlong]⟩

theorem path_of_estimateIssue {max near : Nat} {n : Node} {literal estimated : Nat} {i : Issue}
    (h : estimateIssue max near n literal estimated = some i) :
    i.path = nodePath n.id ++ ".props.text" := by
  simp only [estimateIssue] at h
  split at h
  · cases h
    rfl
  · split at h
    · cases h
      rfl
    · split at h
      · cases h
        rfl
      · cases h

theorem estimated_of_designIssue {c : DesignContext} {i : Issue} (hi : i ∈ designIssues c) :
    ∃ n ∈ c.flow.nodes, i.path = nodePath n.id ++ ".props.text" ∧
      ∃ raw, Props.text? (c.props n) "text" = some raw ∧ (Template.estimate? raw).isSome := by
  unfold designIssues at hi
  split at hi
  · cases hi
  · obtain ⟨n, hn, hi⟩ := List.mem_filterMap.1 hi
    unfold nodeIssue at hi
    split at hi
    · rename_i literal estimated heq
      obtain ⟨raw, htext, hestimate⟩ := Option.bind_eq_some_iff.1 heq
      refine ⟨n, hn, path_of_estimateIssue hi, raw, htext, ?_⟩
      rw [hestimate]
      rfl
    · cases hi

/-- Of the three bands of an estimate only the first is an error: the text outside the blocks is too
long by itself. -/
theorem isError_of_estimateIssue {max near : Nat} {n : Node} {literal estimated : Nat} {i : Issue}
    (hi : estimateIssue max near n literal estimated = some i) :
    i.isError = true ↔ max < literal := by
  simp only [estimateIssue] at hi
  split at hi
  · rename_i hlong
    cases hi
    exact iff_of_true rfl hlong
  · rename_i hshort
    refine iff_of_false ?_ hshort
    split at hi
    · cases hi
      exact Bool.false_ne_true
    · split at hi
      · cases hi
        exact Bool.false_ne_true
      · cases hi

/-- The estimates of a design hold an error exactly if some text is too long outside its blocks. -/
theorem hasErrors_designIssues {c : DesignContext} : hasErrors (designIssues c) = true ↔
    ∃ max ∈ c.capabilities.maxTextLen, ∃ n ∈ c.flow.nodes, ∃ literal estimated,
      (Props.text? (c.props n) "text").bind Template.estimate? = some (literal, estimated) ∧
        max < literal := by
  constructor
  · intro herror
    obtain ⟨i, hi, herror⟩ := List.any_eq_true.1 herror
    unfold designIssues at hi
    split at hi
    · cases hi
    · rename_i max hmax
      obtain ⟨n, hn, hi⟩ := List.mem_filterMap.1 hi
      unfold nodeIssue at hi
      split at hi
      · rename_i literal estimated hestimate
        exact ⟨max, hmax, n, hn, literal, estimated, hestimate,
          (isError_of_estimateIssue hi).1 herror⟩
      · cases hi
  · intro hlong
    obtain ⟨max, hmax, n, hn, literal, estimated, hestimate, hlong⟩ := hlong
    obtain ⟨raw, htext, hestimate⟩ := Option.bind_eq_some_iff.1 hestimate
    obtain ⟨i, hi, hseverity, -, -⟩ := exists_designIssue hn hmax htext hestimate hlong
    exact List.any_eq_true.2 ⟨i, hi, by rw [Issue.isError, hseverity]; rfl⟩

end ChatPlan.Length
