import ChatPlan.Proofs.Check.Errors
import ChatPlan.Proofs.Flow.Order
import ChatPlan.Proofs.Plan.Compile
import ChatPlan.Proofs.Verdicts
import Mathlib.Data.List.Perm.Basic

/-
The order in which a design declares its nodes and edges does not matter to its plan. The checks of
a design give the same verdicts in any order, as long as no two nodes share an id; those of views do
so without a condition, since a view gets the same verdicts at whatever place it stands. A node is
built, shown and adapted on its own, so both orders compile or neither does, and the routes are the
same. A design in which two nodes share an id is refused in any order, though what else is found in
it may depend on which of the two comes first.
-/
namespace ChatPlan

/-! ## Checks of a design -/

section Design

theorem contextOf_design (r : Registry) (k : Capabilities) (o : Options) (d : Design) :
    (contextOf r k o d).design = d := rfl

variable {d d' : Design} (h : d.Reordered d') (hids : (d.graph.nodes.map (·.id)).Nodup)
variable (r : Registry) (k : Capabilities) (o : Options)

include h

theorem props_reordered (n : Node) : (contextOf r k o d').props n = (contextOf r k o d).props n :=
  h.resolvedProps_eq n

theorem Policies.issues_reordered :
    SameVerdicts (issues (contextOf r k o d)) (issues (contextOf r k o d')) := by
  refine SameVerdicts.flatMap h.nodes fun n _ => ?_
  rw [nodeIssues, nodeIssues, props_reordered h]
  exact SameVerdicts.refl _

theorem Length.issues_reordered :
    SameVerdicts (designIssues (contextOf r k o d)) (designIssues (contextOf r k o d')) := by
  simp only [designIssues]
  cases k.maxTextLen with
  | none => exact SameVerdicts.refl _
  | some max =>
    refine SameVerdicts.filterMap h.nodes fun n _ => ?_
    rw [nodeIssue, nodeIssue, props_reordered h]

theorem Variables.keyIssue_reordered (n : Node) : keyIssue d' n = keyIssue d n := by
  have hdeclared (key : String) : isDeclared d' key = isDeclared d key := by
    rw [isDeclared, isDeclared, h.profile_eq]
  simp only [keyIssue, h.resolvedProps_eq, hdeclared]

theorem Variables.issues_reordered :
    SameVerdicts (issues (contextOf r k o d)) (issues (contextOf r k o d')) := by
  refine SameVerdicts.append (SameVerdicts.append ?_ ?_) ?_
  · rw [contextOf_design, contextOf_design, h.profile_eq]
    exact SameVerdicts.refl _
  · refine SameVerdicts.filterMap h.nodes fun n _ => ?_
    rw [contextOf_design, contextOf_design, keyIssue_reordered h]
  · refine SameVerdicts.flatMap_zipIdx h.edges fun e _ i j => SameVerdicts.of_map_eq ?_
    cases hm : e.metadata with
    | none => simp [edgeIssues, hm]
    | some m => simp [edgeIssues, hm, nameIssues, nameIssue, Function.comp_def]

include hids

theorem Outputs.issues_reordered :
    SameVerdicts (issues (contextOf r k o d)) (issues (contextOf r k o d')) := by
  refine SameVerdicts.append (SameVerdicts.flatMap h.nodes fun n _ => ?_)
    (SameVerdicts.filterMap_zipIdx h.edges fun e _ i j => ?_)
  · rw [nodeIssues, nodeIssues, props_reordered h]
    exact SameVerdicts.refl _
  · simp only [edgeIssue, h.node?_eq hids]
    cases (Flow.ofDesign d).node? e.source with
    | none => rfl
    | some n =>
      simp only
      split <;> rfl

omit h in
theorem Shape.duplicateIssue_eq_none {p : Node × Nat} (hp : p ∈ d.graph.nodes.zipIdx) :
    duplicateIssue d p.1.id p.2 = none := by
  rw [← Option.not_isSome_iff_eq_none, duplicateIssue_isSome]
  intro hdup
  obtain ⟨m, hm, hid⟩ := hdup
  rw [List.Nodup, List.pairwise_map] at hids
  exact pairwise_iff_zipIdx.1 hids p hp m hm hid

theorem Shape.nodeIssues_reordered {p q : Node × Nat} (hp : p ∈ d.graph.nodes.zipIdx)
    (hq : q ∈ d'.graph.nodes.zipIdx) (hpq : p.1 = q.1) :
    SameVerdicts (nodeIssues (contextOf r k o d) p.1 p.2)
      (nodeIssues (contextOf r k o d') q.1 q.2) := by
  have hids' : (d'.graph.nodes.map (·.id)).Nodup := (h.nodes.map _).nodup_iff.1 hids
  have hreference : referenceIssue d' q.1 = referenceIssue d q.1 := by
    rw [referenceIssue, referenceIssue, h.props_eq]
  -- neither is a duplicate, and all else is asked of the node alone
  have hnodup : duplicateIssue d q.1.id p.2 = none := by
    rw [← hpq]
    exact duplicateIssue_eq_none hids hp
  have hnodup' : duplicateIssue d' q.1.id q.2 = none := duplicateIssue_eq_none hids' hq
  rw [hpq, nodeIssues, nodeIssues, contextOf_design, contextOf_design, hnodup, hnodup', hreference]
  split
  · exact SameVerdicts.of_map_eq rfl
  · exact SameVerdicts.refl _

omit h hids in
theorem Shape.edgeIssues_verdicts (e : Edge) (i j : Nat) :
    SameVerdicts (edgeIssues e i) (edgeIssues e j) := by
  refine SameVerdicts.append ?_ ?_
  · split <;> exact SameVerdicts.of_map_eq rfl
  · cases e.guardText? with
    | none => exact SameVerdicts.refl _
    | some g => cases hg : Guard.parse g <;> simp only [hg] <;> exact SameVerdicts.of_map_eq rfl

omit hids in
theorem Shape.documentIssues_reordered : documentIssues d' = documentIssues d := by
  rw [← h.rest]
  rfl

omit hids in
theorem Shape.entryIssues_reordered : entryIssues d' = entryIssues d := by
  rw [← h.rest]
  rfl

theorem Shape.issues_reordered :
    SameVerdicts (issues (contextOf r k o d)) (issues (contextOf r k o d')) := by
  refine SameVerdicts.append (SameVerdicts.append (SameVerdicts.append ?_ ?_) ?_) ?_
  · rw [contextOf_design, contextOf_design, documentIssues_reordered h]
    exact SameVerdicts.refl _
  · rw [contextOf_design, contextOf_design, entryIssues_reordered h]
    exact SameVerdicts.refl _
  · exact SameVerdicts.flatMap_places h.nodes fun p hp q hq =>
      nodeIssues_reordered h hids r k o hp hq
  · exact SameVerdicts.flatMap_zipIdx h.edges fun e _ i j => edgeIssues_verdicts e i j

theorem designIssues_reordered :
    SameVerdicts (Pipeline.standard.designIssues (contextOf r k o d))
      (Pipeline.standard.designIssues (contextOf r k o d')) := by
  rw [standard_designIssues_eq, standard_designIssues_eq]
  exact SameVerdicts.append (Shape.issues_reordered h hids r k o) <|
    SameVerdicts.append (Outputs.issues_reordered h hids r k o) <|
      SameVerdicts.append (Policies.issues_reordered h r k o) <|
        SameVerdicts.append (Length.issues_reordered h r k o) (Variables.issues_reordered h r k o)

end Design

/-! ## Checks of views -/

section View

variable (k : Capabilities) (o : Options) (path path' : String)

theorem Fit.lengthIssue_verdict (code path path' what : String) (limit : Option Nat)
    (t : TemplateText) : (lengthIssue code path what limit t).map Issue.verdict =
      (lengthIssue code path' what limit t).map Issue.verdict := by
  cases limit with
  | none => rfl
  | some max =>
    simp only [lengthIssue]
    split <;> rfl

theorem Fit.countIssue_verdict (code path path' what : String) (limit : Option Nat) (n : Nat) :
    (countIssue code path what limit n).map Issue.verdict =
      (countIssue code path' what limit n).map Issue.verdict := by
  cases limit with
  | none => rfl
  | some max =>
    simp only [countIssue]
    split <;> rfl

theorem Fit.buttonIssues_verdicts (kind place place' : String) (b : Button) :
    SameVerdicts (buttonIssues ⟨k, o, path⟩ kind place b)
      (buttonIssues ⟨k, o, path'⟩ kind place' b) := by
  refine SameVerdicts.append ?_ (SameVerdicts.toList (lengthIssue_verdict ..))
  simp only
  split <;> exact SameVerdicts.of_map_eq rfl

theorem Fit.buttonsIssues_verdicts (kind place place' : String) (bs : List Button) :
    SameVerdicts (buttonsIssues ⟨k, o, path⟩ kind place bs)
      (buttonsIssues ⟨k, o, path'⟩ kind place' bs) :=
  SameVerdicts.append (SameVerdicts.toList (countIssue_verdict ..))
    (SameVerdicts.flatten_mapIdx (.refl _) fun _ _ _ _ => buttonIssues_verdicts ..)

theorem Fit.descriptionIssue_verdicts (kind place place' what : String)
    (d : Option TemplateText) :
    SameVerdicts (descriptionIssue ⟨k, o, path⟩ kind place what d)
      (descriptionIssue ⟨k, o, path'⟩ kind place' what d) := by
  cases d with
  | none => exact SameVerdicts.refl _
  | some t => exact SameVerdicts.toList (lengthIssue_verdict ..)

theorem Fit.listIssues_verdicts (kind : String) (p : Picker) :
    SameVerdicts (listIssues ⟨k, o, path⟩ kind p) (listIssues ⟨k, o, path'⟩ kind p) := by
  refine SameVerdicts.append (SameVerdicts.append (SameVerdicts.append (SameVerdicts.append ?_
    (SameVerdicts.toList (countIssue_verdict ..))) (SameVerdicts.toList (countIssue_verdict ..)))
    (SameVerdicts.toList (lengthIssue_verdict ..))) ?_
  · simp only
    split <;> exact SameVerdicts.of_map_eq rfl
  · exact SameVerdicts.flatten_mapIdx (.refl _) fun _ _ _ _ =>
      SameVerdicts.flatten_mapIdx (.refl _) fun _ _ _ _ => descriptionIssue_verdicts ..

theorem Fit.cardsIssues_verdicts (kind : String) (cards : List Card) :
    SameVerdicts (cardsIssues ⟨k, o, path⟩ kind cards) (cardsIssues ⟨k, o, path'⟩ kind cards) := by
  simp only [cardsIssues]
  split
  · exact SameVerdicts.refl _
  · refine SameVerdicts.append ?_ (SameVerdicts.flatten_mapIdx (.refl _) fun _ _ _ _ =>
      SameVerdicts.append (descriptionIssue_verdicts ..) (buttonsIssues_verdicts ..))
    split <;> exact SameVerdicts.of_map_eq rfl

theorem Fit.issues_verdicts (v : View) :
    SameVerdicts (issues ⟨k, o, path⟩ v) (issues ⟨k, o, path'⟩ v) := by
  have bound (code part what : String) (limit : Option Nat) (t : Option TemplateText) :
      SameVerdicts (t.bind (lengthIssue code (path ++ "." ++ part) what limit)).toList
        (t.bind (lengthIssue code (path' ++ "." ++ part) what limit)).toList := by
    cases t with
    | none => exact SameVerdicts.refl _
    | some t => exact SameVerdicts.toList (lengthIssue_verdict ..)
  refine SameVerdicts.append (SameVerdicts.append (SameVerdicts.append (SameVerdicts.append
    (SameVerdicts.append (SameVerdicts.append (bound ..) (bound ..)) (buttonsIssues_verdicts ..))
    (SameVerdicts.flatMap (.refl _) fun p _ => listIssues_verdicts ..))
    (cardsIssues_verdicts ..)) ?_) ?_
  · simp only [templateIssues]
    split <;> exact SameVerdicts.of_map_eq rfl
  · simp only [markupIssues]
    split <;> exact SameVerdicts.of_map_eq rfl

theorem Length.viewIssues_verdicts (v : View) :
    SameVerdicts (viewIssues ⟨k, o, path⟩ v) (viewIssues ⟨k, o, path'⟩ v) := by
  simp only [viewIssues]
  split
  · split
    · exact SameVerdicts.of_map_eq rfl
    · split <;> exact SameVerdicts.of_map_eq rfl
  · exact SameVerdicts.refl _

theorem Filters.issues_verdicts (v : View) :
    SameVerdicts (issues ⟨k, o, path⟩ v) (issues ⟨k, o, path'⟩ v) :=
  SameVerdicts.flatMap (.refl _) fun _ _ =>
    SameVerdicts.map_filter (.refl _) (fun _ _ => rfl) fun _ => rfl

theorem viewIssues_verdicts (v : View) :
    SameVerdicts (Pipeline.standard.viewIssues ⟨k, o, path⟩ v)
      (Pipeline.standard.viewIssues ⟨k, o, path'⟩ v) :=
  SameVerdicts.append (Filters.issues_verdicts ..) <|
    SameVerdicts.append (Length.viewIssues_verdicts ..) <|
      SameVerdicts.append (Fit.issues_verdicts ..) (.refl _)

theorem viewsIssues_reordered {vs vs' : List View} (h : vs.Perm vs') :
    SameVerdicts (Pipeline.standard.viewsIssues k o vs)
      (Pipeline.standard.viewsIssues k o vs') :=
  SameVerdicts.flatten_mapIdx h fun _ _ _ _ => viewIssues_verdicts ..

end View

/-! ## Plans -/

/-- The issues apart from those on unguarded cycles. -/
def acyclicIssues (p : Compilation) : List Issue :=
  p.issues.filter (·.code != "topology.cycle.unguarded")

namespace Compiler

variable {d d' : Design} (h : d.Reordered d')

include h

/-- Every node has the same route, since only its own properties and the shared ones matter. -/
theorem route_reordered (c : Compiler) (n : Node) : c.route d' n = c.route d n := by
  simp only [route, view, step, h.resolvedProps_eq, h.profile_eq]

/-- The routes are there in one order if they are in the other, and are the same. -/
theorem routes_reordered {c : Compiler} {rs : List (View × Route)}
    (hrs : List.Forall₂ (fun n r => c.route d n = .ok r) d.graph.nodes rs) :
    ∃ rs', List.Forall₂ (fun n r => c.route d' n = .ok r) d'.graph.nodes rs' ∧ rs.Perm rs' := by
  obtain ⟨rs', hrs', hperm⟩ := List.perm_comp_forall₂ h.nodes.symm hrs
  refine ⟨rs', ?_, hperm.symm⟩
  simp only [route_reordered h]
  exact hrs'

theorem compile_isOk_reordered {c : Compiler} {p : Compilation} (hp : c.compile d = .ok p) :
    ∃ p', c.compile d' = .ok p' := by
  obtain ⟨rs, hrs, -⟩ := compile_eq_ok_iff.1 hp
  obtain ⟨rs', hrs', -⟩ := routes_reordered h hrs
  exact ⟨_, compile_eq_ok_iff.2 ⟨rs', hrs', rfl⟩⟩

theorem compile_reordered_eq {c : Compiler} {p p' : Compilation} (hp : c.compile d = .ok p)
    (hp' : c.compile d' = .ok p') :
    ∃ rs rs', p = c.assemble d rs ∧ p' = c.assemble d' rs' ∧ rs.Perm rs' := by
  obtain ⟨rs, hrs, rfl⟩ := compile_eq_ok_iff.1 hp
  obtain ⟨rs', hrs', hperm⟩ := routes_reordered h hrs
  have heq : c.compile d' = .ok (c.assemble d' rs') := compile_eq_ok_iff.2 ⟨rs', hrs', rfl⟩
  rw [hp'] at heq
  exact ⟨rs, rs', rfl, Except.ok.inj heq, hperm⟩

variable (k : Channel) (o : Options) {vs vs' : List View} (hvs : vs.Perm vs')

include hvs

/-- Without shared ids the verdicts agree, apart from those on cycles. -/
theorem issues_reordered (hids : (d.graph.nodes.map (·.id)).Nodup) :
    SameVerdicts (((forChannel k o).issues d vs).filter (·.code != "topology.cycle.unguarded"))
      (((forChannel k o).issues d' vs').filter (·.code != "topology.cycle.unguarded")) := by
  simp only [issues, forChannel, List.filter_append]
  refine SameVerdicts.append (SameVerdicts.append (Flow.flowIssues_reordered h o) ?_) ?_
  · exact (designIssues_reordered h hids _ _ o).filter_code _
  · exact (viewsIssues_reordered _ o hvs).filter_code _

/-- With shared ids or without, the two orders hold errors alike. -/
theorem hasErrors_issues_reordered :
    hasErrors ((forChannel k o).issues d vs) = hasErrors ((forChannel k o).issues d' vs') := by
  -- a shared id is an error in both orders, whatever else is reported
  have hshape (e : Design) (ws : List View) (he : ¬(e.graph.nodes.map (·.id)).Nodup) :
      hasErrors ((forChannel k o).issues e ws) = true := by
    by_contra hclean
    simp only [issues, forChannel, standard_designIssues_eq, hasErrors_append, Bool.not_eq_true,
      Bool.or_eq_false_iff] at hclean
    exact he (Shape.nodup_ids_of_clean hclean.1.2.1)
  by_cases hids : (d.graph.nodes.map (·.id)).Nodup
  · have hdesign := (designIssues_reordered h hids .builtin k.adapter.capabilities o).hasErrors_eq
    have hviews := (viewsIssues_reordered k.adapter.capabilities o hvs).hasErrors_eq
    simp only [contextOf] at hdesign
    simp only [issues, forChannel, hasErrors_append, Flow.hasErrors_flowIssues_reordered h o,
      hdesign, hviews]
  · have hids' : ¬(d'.graph.nodes.map (·.id)).Nodup := mt (h.nodes.map _).nodup_iff.2 hids
    rw [hshape d vs hids, hshape d' vs' hids']

end Compiler

/-- The verdict on a design does not depend on the order in which it is declared. Two orders both
compile or both fail; if they compile, they are valid alike and have the same routes; and where no
two nodes share an id, they get the same verdicts, apart from those on unguarded cycles. -/
theorem compile_reordered (k : Channel) (o : Options) {d d' : Design} (h : d.Reordered d') :
    ((∃ p, (Compiler.forChannel k o).compile d = .ok p) ↔
      ∃ p', (Compiler.forChannel k o).compile d' = .ok p') ∧
    ∀ p p', (Compiler.forChannel k o).compile d = .ok p →
      (Compiler.forChannel k o).compile d' = .ok p' →
        p.isValid = p'.isValid ∧ p.plan.routes.Perm p'.plan.routes ∧
          ((d.graph.nodes.map (·.id)).Nodup →
            SameVerdicts (acyclicIssues p) (acyclicIssues p')) := by
  refine ⟨⟨?_, ?_⟩, ?_⟩
  · intro hok
    obtain ⟨p, hp⟩ := hok
    exact Compiler.compile_isOk_reordered h hp
  · intro hok
    obtain ⟨p', hp'⟩ := hok
    exact Compiler.compile_isOk_reordered h.symm hp'
  · intro p p' hp hp'
    obtain ⟨rs, rs', rfl, rfl, hperm⟩ := Compiler.compile_reordered_eq h hp hp'
    refine ⟨?_, hperm.map _, fun hids => ?_⟩
    · simp only [Compilation.isValid, Compiler.assemble,
        Compiler.hasErrors_issues_reordered h k o (hperm.map _)]
    · exact Compiler.issues_reordered h k o (hperm.map _) hids

/-- The survey, declared from its end. -/
def survey.backwards : Design :=
  { survey with graph := ⟨survey.graph.nodes.reverse, survey.graph.edges.reverse⟩ }

theorem survey_reordered : survey.Reordered survey.backwards :=
  ⟨(List.reverse_perm _).symm, (List.reverse_perm _).symm, rfl⟩

/-- The survey is valid from its end as well, with the same routes. -/
theorem compile_survey_backwards :
    ∃ p p', (Compiler.forChannel .webchat .default).compile survey = .ok p ∧
      (Compiler.forChannel .webchat .default).compile survey.backwards = .ok p' ∧
      p'.isValid = true ∧ p.plan.routes.Perm p'.plan.routes ∧
      SameVerdicts (acyclicIssues p) (acyclicIssues p') := by
  obtain ⟨hok, hsame⟩ := compile_reordered .webchat .default survey_reordered
  obtain ⟨p, hp, hv⟩ := compile_survey
  obtain ⟨p', hp'⟩ := hok.1 ⟨p, hp⟩
  obtain ⟨hvalid, hroutes, hverdicts⟩ := hsame p p' hp hp'
  exact ⟨p, p', hp, hp', hvalid ▸ hv, hroutes, hverdicts (by decide)⟩

end ChatPlan
