import ChatPlan.Proofs.Check.Errors
import ChatPlan.Proofs.Check.Views

/-
Places of issues. What is found in a node stands under the place of the node, and what is found in a
view under the place of the view; the bounds below go along the checks.
-/
namespace ChatPlan

/-- The issue stands at a part of this place. -/
def Issue.isUnder (place : String) (i : Issue) : Bool :=
  (place ++ ".").toList.isPrefixOf i.path.toList

theorem Issue.isUnder_iff {place : String} {i : Issue} :
    i.isUnder place = true ↔ ∃ part, i.path = place ++ "." ++ part := by
  rw [isUnder, List.isPrefixOf_iff_prefix]
  constructor
  · intro h
    obtain ⟨rest, hrest⟩ := h
    refine ⟨String.ofList rest, String.toList_injective ?_⟩
    rw [String.toList_append, String.toList_ofList, hrest]
  · intro h
    obtain ⟨part, hpath⟩ := h
    exact ⟨part.toList, by simp [hpath]⟩

theorem Issue.isUnder_of_append {place tail : String} {i : Issue} (hpath : i.path = place ++ tail)
    (htail : tail.toList.head? = some '.') : i.isUnder place = true := by
  obtain ⟨part, hpart⟩ := List.head?_eq_some_iff.1 htail
  refine isUnder_iff.2 ⟨String.ofList part, String.toList_injective ?_⟩
  simp [hpath, hpart]

/-- All issues stand at parts of the place. -/
def Under (place : String) (is : List Issue) : Prop :=
  Reports (fun i => i.isUnder place = true) is

/-! ## The checks of a node -/

section Node

variable (c : DesignContext) (n : Node)

namespace Outputs

theorem isUnder_output {i : Issue} {index : Nat} (h : i.path = outputPath n index) :
    i.isUnder (nodePath n.id) = true :=
  Issue.isUnder_of_append h (by simp [toString])

theorem isUnder_outputs {i : Issue} (h : i.path = outputsPath n) :
    i.isUnder (nodePath n.id) = true :=
  Issue.isUnder_of_append h (by simp)

theorem nodeIssues_under : Under (nodePath n.id) (nodeIssues c n) := by
  rw [nodeIssues]
  split
  · exact .nil
  · refine .append (.append (.map fun _ => isUnder_output n rfl) ?_) ?_
    · split
      · exact .append (.map fun _ => isUnder_output n rfl) (.map fun _ => isUnder_outputs n rfl)
      · exact .ite .nil
          (.append (.map fun _ => isUnder_outputs n rfl) (.map fun _ => isUnder_output n rfl))
    · rw [policyIssues]
      split
      · exact .map fun _ => isUnder_outputs n rfl
      · exact .nil

end Outputs

theorem Policies.nodeIssues_under : Under (nodePath n.id) (nodeIssues c n) := by
  rw [nodeIssues]
  split
  · exact .nil
  · refine .map fun p => ?_
    have hpath : nodePath n.id ++ ".props." ++ p.key = nodePath n.id ++ (".props." ++ p.key) :=
      String.append_assoc
    exact Issue.isUnder_of_append hpath (by simp)

theorem Length.nodeIssue_under (max : Nat) : Under (nodePath n.id) (nodeIssue c max n).toList := by
  refine .toList fun i hi => ?_
  unfold nodeIssue at hi
  split at hi
  · exact Issue.isUnder_of_append (path_of_estimateIssue hi) (by simp)
  · cases hi

theorem Variables.keyIssue_under (d : Design) : Under (nodePath n.id) (keyIssue d n).toList :=
  .toList fun _ hi => Issue.isUnder_of_append (keyIssue_eq_some hi).2 (by simp)

end Node

/-! ## The checks of a view -/

section View

variable (c : ViewContext) (v : View)

theorem isUnder_at {i : Issue} {part : String} (h : i.path = c.at part) :
    i.isUnder c.path = true := Issue.isUnder_iff.2 ⟨part, h⟩

theorem Filters.issues_under : Under c.path (issues c v) :=
  .flatMap fun _ => .map fun _ => isUnder_at c rfl

theorem Length.viewIssues_under : Under c.path (viewIssues c v) := by
  rw [viewIssues]
  split
  · exact .ite (.single (isUnder_at c rfl)) (.ite (.single (isUnder_at c rfl)) .nil)
  · exact .nil

namespace Fit

variable (kind : String)

theorem lengthIssue_under {code part what : String} {limit : Option Nat} {t : TemplateText} :
    Under c.path (lengthIssue code (c.at part) what limit t).toList :=
  .toList fun _ hi => isUnder_at c (lengthIssue_eq_some hi).2

theorem countIssue_under {code part what : String} {limit : Option Nat} {count : Nat} :
    Under c.path (countIssue code (c.at part) what limit count).toList :=
  .toList fun _ hi => isUnder_at c (countIssue_eq_some hi).2

theorem buttonsIssues_under (place : String) (bs : List Button) :
    Under c.path (buttonsIssues c kind place bs) :=
  .append (countIssue_under c) (.flatten_mapIdx fun _ _ =>
    .append (.ite .nil (.single (isUnder_at c rfl))) (lengthIssue_under c))

theorem descriptionIssue_under (place what : String) (t : Option TemplateText) :
    Under c.path (descriptionIssue c kind place what t) :=
  .bind fun _ => lengthIssue_under c

theorem listIssues_under (p : Picker) : Under c.path (listIssues c kind p) := by
  refine .append (.append (.append (.append ?feature ?sections) ?items) ?label) ?descriptions
  case feature => exact .ite .nil (.single (isUnder_at c rfl))
  case sections => exact countIssue_under c
  case items => exact countIssue_under c
  case label => exact lengthIssue_under c
  case descriptions =>
    exact .flatten_mapIdx fun _ _ => .flatten_mapIdx fun _ _ => descriptionIssue_under c kind _ _ _

theorem cardsIssues_under (cards : List Card) : Under c.path (cardsIssues c kind cards) := by
  refine .ite .nil (.append ?_ (.flatten_mapIdx fun _ _ => ?_))
  · exact .ite .nil (.single (isUnder_at c rfl))
  · exact .append (descriptionIssue_under c kind _ _ _) (buttonsIssues_under c kind _ _)

theorem issues_under : Under c.path (issues c v) := by
  refine .append (.append (.append (.append (.append (.append ?header ?footer) ?buttons) ?list)
    ?cards) ?template) ?markup
  case header => exact .bind fun _ => lengthIssue_under c
  case footer => exact .bind fun _ => lengthIssue_under c
  case buttons => exact buttonsIssues_under c v.kind _ _
  case list => exact .flatMap (listIssues_under c v.kind)
  case cards => exact cardsIssues_under c v.kind _
  case template => exact .ite (.single (isUnder_at c rfl)) .nil
  case markup => exact .ite (.single (isUnder_at c rfl)) .nil

end Fit

/-- Whatever the passes find in a view stands under the place of the view. -/
theorem standard_viewIssues_under : Under c.path (Pipeline.standard.viewIssues c v) := by
  rw [standard_viewIssues_eq]
  exact .append (Filters.issues_under c v)
    (.append (Length.viewIssues_under c v) (Fit.issues_under c v))

end View

end ChatPlan
