import ChatPlan.Check.Pipeline
import ChatPlan.Proofs.Flow.Rules

/-
Areas: the first word of a code. All issues of one check lie in one area, whatever the design, so
the area of an issue tells which check it comes from. `Reports` is closed under the ways in which
checks put their issues together, and the bounds below go along the checks.
-/
namespace ChatPlan

/-- The first word of a code, up to its first point. -/
def areaOf (code : String) : List Char := code.toList.takeWhile (· != '.')

/-- The issues all lie in the area. -/
def InArea (area : String) (is : List Issue) : Prop :=
  Reports (fun i => areaOf i.code = area.toList) is

theorem InArea.notMem {area : String} {is : List Issue} (h : InArea area is) {i : Issue}
    (hi : areaOf i.code ≠ area.toList) : i ∉ is := fun hmem => hi (h i hmem)

theorem InArea.filter_code {area : String} {is : List Issue} (h : InArea area is) {code : String}
    (hcode : areaOf code ≠ area.toList) : is.filter (·.code == code) = [] := by
  rw [List.filter_eq_nil_iff]
  intro i hi heq
  exact hcode (beq_iff_eq.1 heq ▸ h i hi)

/-! ## The rules of the graph -/

namespace Flow

variable (f : Flow) (o : Options)

theorem globalStartIssues_inArea : InArea "topology" (f.globalStartIssues o) := by
  refine .append (.ite ?_ (.ite .nil ?_)) (.map fun e => ?_)
  · exact .single (by simp [areaOf, Issue.error])
  · exact .single (by simp [areaOf, Issue.error])
  · simp [areaOf, Issue.error]

theorem channelStartIssues_inArea : InArea "topology" (f.channelStartIssues o) := by
  apply Reports.filterMap
  intro e i hi
  unfold channelStartIssue at hi
  split at hi
  · cases hi
    simp [areaOf, Issue.error]
  · split at hi
    · split at hi
      · cases hi
        simp [areaOf, Issue.error]
      · split at hi
        · cases hi
        · cases hi
          simp [areaOf, Issue.warn]
    · cases hi

theorem finalNodeIssues_inArea : InArea "topology" (f.finalNodeIssues o) :=
  .map fun n => by simp [areaOf, Issue.error]

theorem priorityIssues_inArea : InArea "topology" (f.priorityIssues o) := by
  apply Reports.filterMap
  intro e i hi
  rw [(priorityIssue_code hi).2]
  simp [areaOf]

theorem referenceIssues_inArea : InArea "topology" (f.referenceIssues o) := by
  refine .append (.flatMap fun e => .append (.ite .nil ?_) (.ite .nil ?_)) (.map fun e => ?_)
  · exact .single (by simp [areaOf, Issue.error])
  · exact .single (by simp [areaOf, Issue.error])
  · simp [areaOf, Issue.error]

theorem cycleIssues_inArea : InArea "topology" (f.cycleIssues o) :=
  .map fun c => by simp [areaOf, Issue.warn]

theorem channelIssues_inArea : InArea "topology" (f.channelIssues o) := by
  refine .ite (.single ?_) (.map fun c => ?_)
  · simp [areaOf, Issue.error]
  · simp [areaOf, Issue.error]

theorem reachabilityIssues_inArea : InArea "topology" (f.reachabilityIssues o) :=
  .ite .nil (.map fun id => by simp [areaOf, Issue.warn])

theorem flowIssues_inArea : InArea "topology" (flowIssues f o) := by
  rw [flowIssues_eq]
  exact .append (globalStartIssues_inArea f o) <| .append (channelStartIssues_inArea f o) <|
    .append (finalNodeIssues_inArea f o) <| .append (priorityIssues_inArea f o) <|
      .append (referenceIssues_inArea f o) <| .append (cycleIssues_inArea f o) <|
        .append (channelIssues_inArea f o) (reachabilityIssues_inArea f o)

end Flow

/-! ## The checks of a design -/

namespace Shape

theorem documentIssues_inArea (d : Design) : InArea "design" (documentIssues d) := by
  refine .append (.append (.ite (.single ?_) .nil) (.ite (.single ?_) .nil)) (.ite (.single ?_) .nil)
  · simp [areaOf, Issue.error]
  · simp [areaOf, Issue.error]
  · simp [areaOf, Issue.error]

theorem entryIssues_inArea (d : Design) : InArea "design" (entryIssues d) := by
  refine .append (.ite (.single ?_) .nil) (.map fun e => ?_)
  · simp [areaOf, Issue.error]
  · simp [areaOf, Issue.error]

theorem nodeIssues_inArea (c : DesignContext) (n : Node) (j : Nat) :
    InArea "design" (nodeIssues c n j) := by
  refine .ite (.single (by simp [areaOf, Issue.error])) (.append (.append ?_ ?_) ?_)
  · refine .toList fun i hi => ?_
    unfold duplicateIssue at hi
    split at hi
    · split at hi
      · cases hi
        simp [areaOf, Issue.error]
      · cases hi
    · cases hi
  · refine .toList fun i hi => ?_
    unfold kindIssue at hi
    split at hi
    · cases hi
      simp [areaOf, Issue.error]
    · split at hi
      · cases hi
        simp [areaOf, Issue.error]
      · cases hi
  · refine .toList fun i hi => ?_
    unfold referenceIssue at hi
    split at hi
    · cases hi
    · split at hi
      · cases hi
      · cases hi
        simp [areaOf, Issue.error]

theorem edgeIssues_inArea (e : Edge) (j : Nat) : InArea "design" (edgeIssues e j) := by
  refine .append (.ite (.single ?_) .nil) ?_
  · simp [areaOf, Issue.error]
  · split
    · exact .nil
    · split
      · exact .nil
      · exact .single (by simp [areaOf, Issue.error])

theorem issues_inArea (c : DesignContext) : InArea "design" (issues c) :=
  .append (.append (.append (documentIssues_inArea _) (entryIssues_inArea _))
    (.flatMap fun n => nodeIssues_inArea c n.1 n.2)) (.flatMap fun e => edgeIssues_inArea e.1 e.2)

end Shape

namespace Outputs

theorem nodeIssues_inArea (c : DesignContext) (n : Node) : InArea "output" (nodeIssues c n) := by
  rw [nodeIssues]
  split
  · exact .nil
  · refine .append (.append (.map fun p => ?_) ?_) ?_
    · simp [areaOf, Issue.error, toString]
    · split
      · refine .append (.map fun p => ?_) (.map fun e => ?_)
        · simp [areaOf, Issue.error, toString]
        · simp [areaOf, Issue.error, toString]
      · refine .ite .nil (.append (.map fun p => ?_) (.map fun p => ?_))
        · simp [areaOf, Issue.error, toString]
        · simp [areaOf, Issue.error, toString]
    · rw [policyIssues]
      split
      · exact .map fun p => by simp [areaOf, Issue.warn, toString]
      · exact .nil

theorem issues_inArea (c : DesignContext) : InArea "output" (issues c) := by
  refine .append (.flatMap (nodeIssues_inArea c)) (.filterMap fun e i hi => ?_)
  unfold edgeIssue at hi
  split at hi
  · cases hi
  · split at hi
    · cases hi
    · cases hi
      simp [areaOf, Issue.error]

end Outputs

theorem Policies.issues_inArea (c : DesignContext) : InArea "behavior" (issues c) := by
  apply Reports.flatMap
  intro n
  rw [nodeIssues]
  split
  · exact .nil
  · exact .map fun p => by simp [policyIssue, areaOf, Issue.error, toString]

namespace Variables

theorem nameIssues_inArea (place what : String) (names : List String) :
    InArea "variable" (nameIssues place what names) :=
  .map fun name => by simp [nameIssue, areaOf, Issue.error]

theorem keyIssue_eq_some {d : Design} {n : Node} {i : Issue} (h : keyIssue d n = some i) :
    (i.code = "variable.name.invalid" ∨ i.code = "variable.persist.undeclared") ∧
      i.path = nodePath n.id ++ ".props.persist" := by
  simp only [keyIssue] at h
  split at h
  · split at h
    · cases h
      exact ⟨.inl rfl, rfl⟩
    · split at h
      · cases h
      · cases h
        exact ⟨.inr rfl, rfl⟩
  · cases h

theorem issues_inArea (c : DesignContext) : InArea "variable" (issues c) := by
  refine .append (.append (.flatMap fun p => ?_) (.filterMap fun n i hi => ?_)) (.flatMap fun e => ?_)
  · exact .append (nameIssues_inArea _ _ _) (nameIssues_inArea _ _ _)
  · rcases (keyIssue_eq_some hi).1 with hcode | hcode
    · simp [hcode, areaOf]
    · simp [hcode, areaOf]
  · rw [edgeIssues]
    split
    · exact .nil
    · exact nameIssues_inArea _ _ _

end Variables

theorem Length.designIssues_inArea (c : DesignContext) : InArea "template" (designIssues c) := by
  rw [designIssues]
  split
  · exact .nil
  · refine .filterMap fun n i hi => ?_
    unfold nodeIssue at hi
    split at hi
    · simp only [estimateIssue] at hi
      split at hi
      · cases hi
        simp [areaOf, Issue.error]
      · split at hi
        · cases hi
          simp [areaOf, Issue.warn]
        · split at hi
          · cases hi
            simp [areaOf, Issue.info]
          · cases hi
    · cases hi

/-! ## The checks of a view -/

theorem Length.viewIssues_inArea (c : ViewContext) (v : View) : InArea "text" (viewIssues c v) := by
  rw [viewIssues]
  split
  · refine .ite (.single ?_) (.ite (.single ?_) .nil)
    · simp [areaOf, Issue.info]
    · simp [areaOf, Issue.warn]
  · exact .nil

theorem Filters.issues_inArea (c : ViewContext) (v : View) : InArea "template" (issues c v) :=
  .flatMap fun t => .map fun name => by simp [areaOf, Issue.error]

namespace Fit

variable (c : ViewContext) (kind : String)

theorem lengthIssue_eq_some {code path what : String} {limit : Option Nat} {t : TemplateText}
    {i : Issue} (h : lengthIssue code path what limit t = some i) : i.code = code ∧ i.path = path := by
  simp only [lengthIssue] at h
  split at h
  · cases h
  · split at h
    · cases h
      exact ⟨rfl, rfl⟩
    · cases h

theorem countIssue_eq_some {code path what : String} {limit : Option Nat} {count : Nat} {i : Issue}
    (h : countIssue code path what limit count = some i) : i.code = code ∧ i.path = path := by
  unfold countIssue at h
  split at h
  · cases h
  · split at h
    · cases h
      exact ⟨rfl, rfl⟩
    · cases h

theorem lengthIssue_inArea {code path what : String} {limit : Option Nat} {t : TemplateText}
    {area : String} (h : areaOf code = area.toList) :
    InArea area (lengthIssue code path what limit t).toList := by
  refine .toList fun i hi => ?_
  rw [(lengthIssue_eq_some hi).1, h]

theorem countIssue_inArea {code path what : String} {limit : Option Nat} {count : Nat}
    {area : String} (h : areaOf code = area.toList) :
    InArea area (countIssue code path what limit count).toList := by
  refine .toList fun i hi => ?_
  rw [(countIssue_eq_some hi).1, h]

/-- Codes of this check start with the same word, whatever the kind of the view. -/
theorem areaOf_adapter (rest : String) :
    areaOf (toString "adapter." ++ toString kind ++ rest) = "adapter".toList := by
  simp [areaOf, toString]

theorem buttonsIssues_inArea (place : String) (bs : List Button) :
    InArea "adapter" (buttonsIssues c kind place bs) := by
  refine .append (countIssue_inArea (areaOf_adapter kind _)) (.flatten_mapIdx fun i b => ?_)
  exact .append (.ite .nil (.single (areaOf_adapter kind _)))
    (lengthIssue_inArea (areaOf_adapter kind _))

theorem descriptionIssue_inArea (place what : String) (t : Option TemplateText) :
    InArea "adapter" (descriptionIssue c kind place what t) :=
  .bind fun _ => lengthIssue_inArea (areaOf_adapter kind _)

theorem listIssues_inArea (p : Picker) : InArea "adapter" (listIssues c kind p) := by
  refine .append (.append (.append (.append ?_ ?_) ?_) ?_) ?_
  · exact .ite .nil (.single (areaOf_adapter kind _))
  · exact countIssue_inArea (areaOf_adapter kind _)
  · exact countIssue_inArea (areaOf_adapter kind _)
  · exact lengthIssue_inArea (areaOf_adapter kind _)
  · exact .flatten_mapIdx fun _ _ => .flatten_mapIdx fun _ _ => descriptionIssue_inArea c kind _ _ _

theorem cardsIssues_inArea (cards : List Card) : InArea "adapter" (cardsIssues c kind cards) := by
  refine .ite .nil (.append ?_ (.flatten_mapIdx fun i card => ?_))
  · exact .ite .nil (.single (areaOf_adapter kind _))
  · exact .append (descriptionIssue_inArea c kind _ _ _) (buttonsIssues_inArea c kind _ _)

theorem issues_inArea (v : View) : InArea "adapter" (issues c v) := by
  refine .append (.append (.append (.append (.append (.append ?_ ?_) ?_) ?_) ?_) ?_) ?_
  · exact .bind fun _ => lengthIssue_inArea (areaOf_adapter v.kind _)
  · exact .bind fun _ => lengthIssue_inArea (areaOf_adapter v.kind _)
  · exact buttonsIssues_inArea c v.kind _ _
  · exact .flatMap (listIssues_inArea c v.kind)
  · exact cardsIssues_inArea c v.kind _
  · exact .ite (.single (areaOf_adapter v.kind _)) .nil
  · exact .ite (.single (areaOf_adapter v.kind _)) .nil

end Fit

end ChatPlan
