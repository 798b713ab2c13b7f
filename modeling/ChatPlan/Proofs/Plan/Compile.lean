import ChatPlan.Plan.Basic
import ChatPlan.Proofs.Check.Areas
import ChatPlan.Proofs.Check.Errors
import ChatPlan.Proofs.Issues
import ChatPlan.Proofs.Results
import Mathlib.Data.List.Permutation

/-
What a compile returns: one route for each node, in their order, and the issues of all checks. Where
the area of an issue is known, so is the check that reports it.
-/
namespace ChatPlan

/-! ## Compiling -/

namespace Compiler

/-- The compiler for a channel, with the kinds that are always there and all passes. -/
def forChannel (k : Channel) (o : Options) : Compiler := ⟨.builtin, k.adapter, o, .standard⟩

/-- A compile succeeds exactly if every node has a view and a route, and these make the plan. -/
theorem compile_eq_ok_iff {c : Compiler} {d : Design} {p : Compilation} : c.compile d = .ok p ↔
    ∃ rs, List.Forall₂ (fun n r => c.route d n = .ok r) d.graph.nodes rs ∧ p = c.assemble d rs := by
  simp only [compile, map_eq_ok_iff, mapM_eq_ok_iff, eq_comm (a := p)]

theorem view_eq_ok {c : Compiler} {d : Design} {n : Node} {v : View} (h : c.view d n = .ok v) :
    ∃ k s, c.registry.kind? n.kind = some k ∧ k.build (d.resolvedProps n) = .ok s ∧
      s.view (Values.ofProfile? d.profile) = .ok v := by
  simp only [view, step, bind_eq_ok_iff, mapError_eq_ok_iff, Registry.build] at h
  obtain ⟨s, hs, hv⟩ := h
  split at hs
  · rename_i k hk
    exact ⟨k, s, hk, hs, hv⟩
  · cases hs

theorem route_eq_ok_iff {c : Compiler} {d : Design} {n : Node} {r : View × Route} :
    c.route d n = .ok r ↔ c.view d n = .ok r.1 ∧
      ∃ shown, c.adapter.adapt r.1 = .ok shown ∧ r.2 = ⟨n.id, shown⟩ := by
  simp only [route, bind_eq_ok_iff, mapError_eq_ok_iff, pure_eq_ok_iff]
  constructor
  · intro h
    obtain ⟨v, hv, shown, hshown, rfl⟩ := h
    exact ⟨hv, shown, hshown, rfl⟩
  · intro h
    obtain ⟨hv, shown, hshown, hr⟩ := h
    exact ⟨r.1, hv, shown, hshown, Prod.ext rfl hr.symm⟩

/-- Every node of a design that compiles has a view, at whose place the plan has its route. -/
theorem exists_view {c : Compiler} {d : Design} {rs : List (View × Route)}
    (h : List.Forall₂ (fun n r => c.route d n = .ok r) d.graph.nodes rs) {i : Nat} {n : Node}
    (hn : d.graph.nodes[i]? = some n) : ∃ v, c.view d n = .ok v ∧ (rs.map (·.1))[i]? = some v := by
  obtain ⟨r, hr, hroute⟩ := getElem?_of_forall₂ h hn
  exact ⟨r.1, (route_eq_ok_iff.1 hroute).1, by rw [List.getElem?_map, hr]; rfl⟩

/-- A route bears the id of its node. -/
theorem node_of_route {c : Compiler} {d : Design} {n : Node} {r : View × Route}
    (h : c.route d n = .ok r) : r.2.node = n.id := by
  obtain ⟨-, shown, -, hr⟩ := route_eq_ok_iff.1 h
  rw [hr]

theorem routes_nodes {c : Compiler} {d : Design} {p : Compilation} (h : c.compile d = .ok p) :
    p.plan.routes.map (·.node) = d.graph.nodes.map (·.id) := by
  obtain ⟨rs, hrs, rfl⟩ := compile_eq_ok_iff.1 h
  rw [assemble, List.map_map]
  exact map_eq_of_forall₂ hrs fun _ _ => node_of_route

/-- A design compiles without errors if it has all its routes, and each group of checks finds none.
The groups are told apart so that they can be run one by one, without the plan. -/
theorem exists_valid {c : Compiler} {d : Design}
    (hviews : ((d.graph.nodes.mapM (c.route d)).map fun rs =>
      hasErrors (c.pipeline.viewsIssues c.adapter.capabilities c.options (rs.map (·.1)))) = .ok false)
    (hdesign : hasErrors (c.pipeline.designIssues
      ⟨.ofDesign d, c.registry, c.adapter.capabilities, c.options⟩) = false)
    (hflow : hasErrors (flowIssues (.ofDesign d) c.options) = false) :
    ∃ p, c.compile d = .ok p ∧ p.isValid = true := by
  obtain ⟨rs, hrs, hclean⟩ := map_eq_ok_iff.1 hviews
  refine ⟨c.assemble d rs, map_eq_ok_iff.2 ⟨rs, hrs, rfl⟩, ?_⟩
  simp only [Compilation.isValid, assemble, issues, hasErrors_append, hflow, hdesign, hclean,
    Bool.or_self, Bool.not_false]

end Compiler

/-- A question that may be asked again twice, and a last word. -/
def survey : Design where
  schema := "chat.design/v1"
  bot := ⟨"bot", ["web"]⟩
  version := ⟨"v1", .development⟩
  entries := [⟨.globalStart, none, "ask"⟩]
  graph := {
    nodes := [
      ⟨"ask", "confirm", [("text", .str "Done?")], none, ["no", "yes"], false, none, none⟩,
      ⟨"end", "message", [("text", .str "Bye")], none, [], true, none, none⟩]
    edges := [
      ⟨"ask", "ask", "no", 1, some "tries < 3", none⟩,
      ⟨"ask", "end", "yes", 2, none, none⟩] }
  profile := none
  props := []

theorem compile_survey :
    ∃ p, (Compiler.forChannel .webchat .default).compile survey = .ok p ∧ p.isValid = true := by
  apply Compiler.exists_valid
  · decide +kernel
  · decide +kernel
  · cbv

end ChatPlan

namespace ChatPlan.Compiler

/-! ## Issues of a plan -/

variable {k : Channel} {o : Options} {d : Design} {views : List View} {i : Issue}

/-- What the checks look at besides the view with this number. -/
abbrev placeOf (k : Channel) (o : Options) (j : Nat) : ViewContext :=
  ⟨k.capabilities, o, o.basePath ++ s!".routes[{j}]"⟩

theorem mem_viewsIssues : i ∈ Pipeline.standard.viewsIssues k.capabilities o views ↔
    ∃ j v, views[j]? = some v ∧ (i ∈ Filters.issues (placeOf k o j) v ∨
      i ∈ Length.viewIssues (placeOf k o j) v ∨ i ∈ Fit.issues (placeOf k o j) v) := by
  simp only [Pipeline.viewsIssues, List.mapIdx_eq_zipIdx_map, ← List.flatMap_def, List.mem_flatMap,
    Prod.exists, mem_zipIdx_iff, standard_viewIssues_eq, List.mem_append]
  exact exists_comm

theorem mem_issues : i ∈ (forChannel k o).issues d views ↔
    i ∈ flowIssues (.ofDesign d) o ∨
      (i ∈ Shape.issues (contextOf .builtin k.capabilities o d) ∨
        i ∈ Outputs.issues (contextOf .builtin k.capabilities o d) ∨
          i ∈ Policies.issues (contextOf .builtin k.capabilities o d) ∨
            i ∈ Length.designIssues (contextOf .builtin k.capabilities o d) ∨
              i ∈ Variables.issues (contextOf .builtin k.capabilities o d)) ∨
        i ∈ Pipeline.standard.viewsIssues k.capabilities o views := by
  simp only [issues, forChannel, standard_designIssues_eq, List.mem_append, or_assoc]
  rfl

theorem mem_of_area_text (hi : i ∈ (forChannel k o).issues d views)
    (harea : areaOf i.code = "text".toList) :
    ∃ j v, views[j]? = some v ∧ i ∈ Length.viewIssues (placeOf k o j) v := by
  rcases mem_issues.1 hi with h | (h | h | h | h | h) | h
  · exact absurd h ((Flow.flowIssues_inArea _ _).notMem (by simp [harea]))
  · exact absurd h ((Shape.issues_inArea _).notMem (by simp [harea]))
  · exact absurd h ((Outputs.issues_inArea _).notMem (by simp [harea]))
  · exact absurd h ((Policies.issues_inArea _).notMem (by simp [harea]))
  · exact absurd h ((Length.designIssues_inArea _).notMem (by simp [harea]))
  · exact absurd h ((Variables.issues_inArea _).notMem (by simp [harea]))
  · obtain ⟨j, v, hv, h | h | h⟩ := mem_viewsIssues.1 h
    · exact absurd h ((Filters.issues_inArea _ _).notMem (by simp [harea]))
    · exact ⟨j, v, hv, h⟩
    · exact absurd h ((Fit.issues_inArea _ _).notMem (by simp [harea]))

theorem mem_of_area_template (hi : i ∈ (forChannel k o).issues d views)
    (harea : areaOf i.code = "template".toList) :
    i ∈ Length.designIssues (contextOf .builtin k.capabilities o d) ∨
      ∃ j v, views[j]? = some v ∧ i ∈ Filters.issues (placeOf k o j) v := by
  rcases mem_issues.1 hi with h | (h | h | h | h | h) | h
  · exact absurd h ((Flow.flowIssues_inArea _ _).notMem (by simp [harea]))
  · exact absurd h ((Shape.issues_inArea _).notMem (by simp [harea]))
  · exact absurd h ((Outputs.issues_inArea _).notMem (by simp [harea]))
  · exact absurd h ((Policies.issues_inArea _).notMem (by simp [harea]))
  · exact .inl h
  · exact absurd h ((Variables.issues_inArea _).notMem (by simp [harea]))
  · obtain ⟨j, v, hv, h | h | h⟩ := mem_viewsIssues.1 h
    · exact .inr ⟨j, v, hv, h⟩
    · exact absurd h ((Length.viewIssues_inArea _ _).notMem (by simp [harea]))
    · exact absurd h ((Fit.issues_inArea _ _).notMem (by simp [harea]))

end ChatPlan.Compiler
