import ChatPlan.Proofs.Check.Under
import ChatPlan.Proofs.Flow.Bare
import ChatPlan.Proofs.Plan.Compile
import Mathlib.Data.List.Basic

/-
Edits are local. An edit gives one node other properties. The rules of the graph, the shape of the
design and the labels of edges look at no properties (`flowIssues_withProps`,
`Shape.issues_withProps`); every other check of a design goes through the nodes one by one, and what
it finds in the edited node stands under its place (`designIssues_withProps`). So where a design
compiles before and after the edit, the other routes stay as they are, and whatever is found anew,
or no longer, stands under the edited node or under its route (`edit_is_local`). No id has to be
unique for this.
-/
namespace ChatPlan

/-! ## Lists that differ at one place -/

/-- The lists have the same members, apart from those at one place. -/
structure SameOff {α : Type} (k : Nat) (l l' : List α) : Prop where
  length : l'.length = l.length
  getElem? : ∀ j, j ≠ k → l'[j]? = l[j]?

namespace SameOff

variable {α β : Type} {k : Nat} {l l' : List α}

theorem map (h : SameOff k l l') (f : α → β) : SameOff k (l.map f) (l'.map f) where
  length := by rw [List.length_map, List.length_map, h.length]
  getElem? j hj := by rw [List.getElem?_map, List.getElem?_map, h.getElem? j hj]

theorem modify (k : Nat) (f : α → α) (l : List α) : SameOff k l (l.modify k f) where
  length := List.length_modify ..
  getElem? j hj := by simp [hj.symm]

end SameOff

/-- The issues are the same, in the same order, apart from those that `q` picks out. -/
def SameBut (q : Issue → Bool) (is js : List Issue) : Prop :=
  (is.filter fun i => !q i) = js.filter fun i => !q i

namespace SameBut

variable {q : Issue → Bool} {is is' js js' : List Issue} {α : Type}

theorem refl (is : List Issue) : SameBut q is is := rfl

theorem symm (h : SameBut q is js) : SameBut q js is := Eq.symm h

theorem append (h : SameBut q is js) (h' : SameBut q is' js') :
    SameBut q (is ++ is') (js ++ js') := by
  rw [SameBut, List.filter_append, List.filter_append, h, h']

theorem of_reports (h : Reports (fun i => q i = true) is) (h' : Reports (fun i => q i = true) js) :
    SameBut q is js := by
  have hnone {ks : List Issue} (hks : Reports (fun i => q i = true) ks) :
      (ks.filter fun i => !q i) = [] := by
    rw [List.filter_eq_nil_iff]
    intro i hi
    rw [hks i hi]
    exact Bool.false_ne_true
  rw [SameBut, hnone h, hnone h']

theorem mono {q' : Issue → Bool} (hq : ∀ i, q i = true → q' i = true) (h : SameBut q is js) :
    SameBut q' is js := by
  have hfilter (ks : List Issue) : (ks.filter fun i => !q' i) =
      (ks.filter fun i => !q i).filter fun i => !q' i := by
    rw [List.filter_filter]
    refine List.filter_congr fun i _ => ?_
    cases hi : q i with
    | false => rw [Bool.not_false, Bool.and_true]
    | true =>
      rw [hq i hi]
      rfl
  rw [SameBut, hfilter is, hfilter js, h]

theorem of_mem_diff (h : SameBut q is js) {i : Issue} (hi : i ∈ is.diff js) : q i = true := by
  by_contra hq
  have hkept : (!q i) = true := by simpa using hq
  have hcount (ks : List Issue) : (ks.filter fun i => !q i).count i = ks.count i :=
    List.count_filter (p := fun i => !q i) hkept
  have hpos := List.count_pos_iff.2 hi
  rw [List.count_diff, ← hcount is, ← hcount js, h, Nat.sub_self] at hpos
  exact absurd hpos (Nat.lt_irrefl 0)

/-- What is found in the members of a list, each at its place, if the lists differ at one place. -/
theorem flatten_mapIdx {k : Nat} {l l' : List α} (hl : SameOff k l l') {f : Nat → α → List Issue}
    (hk : ∀ a, a ∈ l[k]? ∨ a ∈ l'[k]? → Reports (fun i => q i = true) (f k a)) :
    SameBut q (l.mapIdx f).flatten (l'.mapIdx f).flatten := by
  obtain ⟨hlength, hsame⟩ := hl
  -- on both lists, along with the place at which they differ
  induction l generalizing l' f k with
  | nil =>
    obtain rfl := List.length_eq_zero_iff.1 hlength
    exact refl _
  | cons a l ih =>
    cases l' with
    | nil => cases hlength
    | cons b l' =>
      rw [List.mapIdx_cons, List.mapIdx_cons, List.flatten_cons, List.flatten_cons]
      have hlength' : l'.length = l.length := Nat.succ.inj hlength
      cases k with
      | zero =>
        have hrest : l' = l := by
          refine List.ext_getElem? fun j => ?_
          exact hsame (j + 1) (Nat.succ_ne_zero j)
        rw [hrest]
        exact append (of_reports (hk a (.inl rfl)) (hk b (.inr rfl))) (refl _)
      | succ k =>
        have hhead : b = a := Option.some.inj (hsame 0 (Nat.succ_ne_zero k).symm)
        rw [hhead]
        refine append (refl _) (ih hk hlength' fun j hj => ?_)
        exact hsame (j + 1) (fun h => hj (Nat.succ.inj h))

theorem flatMap {k : Nat} {l l' : List α} (hl : SameOff k l l') {f : α → List Issue}
    (hk : ∀ a, a ∈ l[k]? ∨ a ∈ l'[k]? → Reports (fun i => q i = true) (f a)) :
    SameBut q (l.flatMap f) (l'.flatMap f) := by
  have hplaces (m : List α) : m.flatMap f = (m.mapIdx fun _ => f).flatten := by
    rw [List.mapIdx_eq_zipIdx_map, ← List.flatMap_def]
    conv_lhs => rw [← List.zipIdx_map_fst 0 m, List.flatMap_map]
  rw [hplaces, hplaces]
  exact flatten_mapIdx hl hk

theorem filterMap {k : Nat} {l l' : List α} (hl : SameOff k l l') {f : α → Option Issue}
    (hk : ∀ a, a ∈ l[k]? ∨ a ∈ l'[k]? → Reports (fun i => q i = true) (f a).toList) :
    SameBut q (l.filterMap f) (l'.filterMap f) := by
  rw [List.filterMap_eq_flatMap_toList, List.filterMap_eq_flatMap_toList]
  exact flatMap hl hk

end SameBut

/-! ## Other properties at one node -/

/-- The design with other properties at the node with this number. -/
def Design.withProps (d : Design) (k : Nat) (props : Props) : Design :=
  { d with graph := { d.graph with
      nodes := d.graph.nodes.modify k fun n => { n with props := props } } }

section Edit

variable (d : Design) (k : Nat) (props : Props)

theorem nodes_withProps : SameOff k d.graph.nodes (d.withProps k props).graph.nodes :=
  .modify k _ _

theorem id_of_withProps {n m : Node} (hn : d.graph.nodes[k]? = some n)
    (hm : m ∈ d.graph.nodes[k]? ∨ m ∈ (d.withProps k props).graph.nodes[k]?) : m.id = n.id := by
  rw [Design.withProps, List.getElem?_modify_eq, hn] at hm
  rcases hm with hm | hm
  · cases hm
    rfl
  · cases hm
    rfl

theorem bare_withProps : (d.withProps k props).bare = d.bare := by
  have hnodes : (d.graph.nodes.modify k fun n => { n with props := props }).map Node.bare =
      d.graph.nodes.map Node.bare := by
    refine List.ext_getElem? fun j => ?_
    rw [List.getElem?_map, List.getElem?_map, List.getElem?_modify]
    cases d.graph.nodes[j]? with
    | none => rfl
    | some n => by_cases hj : k = j <;> simp [hj, Node.bare]
  simp only [Design.bare, Design.withProps, hnodes]

/-- What looks at no properties sees nothing of the edit. -/
theorem eq_withProps_of_bare {α : Type} {f : Flow → α} (hf : ∀ g, f g.bare = f g) :
    f (.ofDesign (d.withProps k props)) = f (.ofDesign d) := by
  rw [← hf, Flow.bare_ofDesign, bare_withProps, ← Flow.bare_ofDesign, hf]

theorem flowIssues_withProps (o : Options) :
    flowIssues (.ofDesign (d.withProps k props)) o = flowIssues (.ofDesign d) o :=
  eq_withProps_of_bare d k props (f := (flowIssues · o)) fun g => Flow.flowIssues_bare g o

theorem Shape.issues_bare (r : Registry) (c : Capabilities) (o : Options) (f : Flow) :
    issues ⟨f.bare, r, c, o⟩ = issues ⟨f, r, c, o⟩ := by
  have hnode (n : Node) (index : Nat) :
      nodeIssues ⟨f.bare, r, c, o⟩ n.bare index = nodeIssues ⟨f, r, c, o⟩ n index := by
    have hdup : duplicateIssue f.bare.design n.id index = duplicateIssue f.design n.id index := by
      rw [duplicateIssue, duplicateIssue, Flow.bare, Design.bare, List.findIdx?_map]
      rfl
    simp only [nodeIssues, DesignContext.design]
    rw [← hdup]
    rfl
  have hnodes : ((f.nodes.map Node.bare).zipIdx.flatMap fun n =>
      nodeIssues ⟨f.bare, r, c, o⟩ n.1 n.2) =
        f.nodes.zipIdx.flatMap fun n => nodeIssues ⟨f, r, c, o⟩ n.1 n.2 := by
    rw [List.zipIdx_map, List.flatMap_map]
    exact congrArg (f.nodes.zipIdx.flatMap ·) (funext fun n => hnode n.1 n.2)
  have hdocument : documentIssues f.bare.design = documentIssues f.design := rfl
  have hentries : entryIssues f.bare.design = entryIssues f.design := rfl
  simp only [issues, DesignContext.design, Flow.nodes_bare, hnodes, hdocument, hentries]
  rfl

theorem Shape.issues_withProps (r : Registry) (c : Capabilities) (o : Options) :
    issues (contextOf r c o (d.withProps k props)) = issues (contextOf r c o d) :=
  eq_withProps_of_bare d k props (f := (issues ⟨·, r, c, o⟩)) (Shape.issues_bare r c o)

theorem Outputs.edgeIssue_bare (f : Flow) : edgeIssue f.bare = edgeIssue f := by
  funext e index
  rw [edgeIssue, edgeIssue, Flow.node?_bare]
  cases f.node? e.source <;> rfl

variable {d k} {n : Node} (hn : d.graph.nodes[k]? = some n)
  (r : Registry) (c : Capabilities) (o : Options)

include hn

theorem Outputs.issues_withProps : SameBut (·.isUnder (nodePath n.id))
    (issues (contextOf r c o d)) (issues (contextOf r c o (d.withProps k props))) := by
  have hedges : edgeIssue (.ofDesign (d.withProps k props)) = edgeIssue (.ofDesign d) :=
    eq_withProps_of_bare d k props edgeIssue_bare
  refine .append (.flatMap (nodes_withProps d k props) fun m hm => ?_) ?_
  · rw [← id_of_withProps d k props hn hm]
    exact nodeIssues_under _ m
  · simp only [hedges]
    exact .refl _

theorem Policies.issues_withProps : SameBut (·.isUnder (nodePath n.id))
    (issues (contextOf r c o d)) (issues (contextOf r c o (d.withProps k props))) := by
  refine .flatMap (nodes_withProps d k props) fun m hm => ?_
  rw [← id_of_withProps d k props hn hm]
  exact nodeIssues_under _ m

theorem Length.designIssues_withProps : SameBut (·.isUnder (nodePath n.id))
    (designIssues (contextOf r c o d)) (designIssues (contextOf r c o (d.withProps k props))) := by
  unfold designIssues
  cases c.maxTextLen with
  | none => exact .refl _
  | some max =>
    refine .filterMap (nodes_withProps d k props) fun m hm => ?_
    rw [← id_of_withProps d k props hn hm]
    exact nodeIssue_under _ m max

theorem Variables.issues_withProps : SameBut (·.isUnder (nodePath n.id))
    (issues (contextOf r c o d)) (issues (contextOf r c o (d.withProps k props))) := by
  refine .append (.append (.refl _) (.filterMap (nodes_withProps d k props) fun m hm => ?_))
    (.refl _)
  rw [← id_of_withProps d k props hn hm]
  exact keyIssue_under m d

/-- Whatever the passes find anew in the design, or no longer, stands under the edited node. -/
theorem designIssues_withProps : SameBut (·.isUnder (nodePath n.id))
    (Pipeline.standard.designIssues (contextOf r c o d))
    (Pipeline.standard.designIssues (contextOf r c o (d.withProps k props))) := by
  rw [standard_designIssues_eq, standard_designIssues_eq, Shape.issues_withProps]
  exact .append (.refl _) <| .append (Outputs.issues_withProps props hn r c o) <|
    .append (Policies.issues_withProps props hn r c o) <|
      .append (Length.designIssues_withProps props hn r c o)
        (Variables.issues_withProps props hn r c o)

end Edit

/-! ## Plans -/

open Compiler

variable {d : Design} {k : Nat} {n : Node} {c : Compiler} (props : Props)

theorem Compiler.route_withProps (d : Design) (k : Nat) :
    c.route (d.withProps k props) = c.route d := rfl

theorem Compiler.routes_withProps {rs rs' : List (View × Route)}
    (hrs : List.Forall₂ (fun n r => c.route d n = .ok r) d.graph.nodes rs)
    (hrs' : List.Forall₂ (fun n r => c.route (d.withProps k props) n = .ok r)
      (d.withProps k props).graph.nodes rs') : SameOff k rs rs' := by
  obtain ⟨hlength, hnodes⟩ := nodes_withProps d k props
  have hlength' : rs'.length = rs.length := by
    rw [← hrs.length_eq, ← hrs'.length_eq, hlength]
  refine ⟨hlength', fun j hj => ?_⟩
  cases hm : d.graph.nodes[j]? with
  | none =>
    rw [List.getElem?_eq_none_iff, hrs.length_eq] at hm
    rw [List.getElem?_eq_none hm, List.getElem?_eq_none (hlength' ▸ hm)]
  | some m =>
    obtain ⟨r, hr, hroute⟩ := getElem?_of_forall₂ hrs hm
    obtain ⟨r', hr', hroute'⟩ := getElem?_of_forall₂ hrs' ((hnodes j hj).trans hm)
    rw [route_withProps, hroute] at hroute'
    rw [hr, hr', Except.ok.inj hroute']

/-- Whatever the passes find anew in the views, or no longer, stands at the place where they
differ. -/
theorem viewsIssues_sameOff {vs vs' : List View} (h : SameOff k vs vs') (c : Capabilities)
    (o : Options) : SameBut (·.isUnder (o.basePath ++ s!".routes[{k}]"))
      (Pipeline.standard.viewsIssues c o vs) (Pipeline.standard.viewsIssues c o vs') := by
  rw [Pipeline.viewsIssues, Pipeline.viewsIssues]
  refine .flatten_mapIdx h fun v _ => ?_
  exact standard_viewIssues_under ⟨c, o, o.basePath ++ s!".routes[{k}]"⟩ v

theorem Compiler.issues_withProps (hn : d.graph.nodes[k]? = some n) (channel : Channel)
    (o : Options) {vs vs' : List View} (h : SameOff k vs vs') :
    SameBut (fun x => x.isUnder (nodePath n.id) || x.isUnder (o.basePath ++ s!".routes[{k}]"))
      ((forChannel channel o).issues d vs)
      ((forChannel channel o).issues (d.withProps k props) vs') := by
  simp only [issues]
  refine .append (.append ?flow ?design) ?views
  case flow =>
    rw [forChannel, flowIssues_withProps]
    exact .refl _
  case design =>
    exact (designIssues_withProps props hn _ _ o).mono fun x hx => by rw [hx, Bool.true_or]
  case views => exact (viewsIssues_sameOff h _ o).mono fun x hx => by rw [hx, Bool.or_true]

/-- An edit of the properties of one node is local, whatever ids the nodes have. If the design
compiles before and after it, the routes of all other nodes are the same; every issue that is found
more often on one side stands under the edited node, or under its route; and the rules of the graph
report the same. -/
theorem edit_is_local (channel : Channel) (o : Options) (hn : d.graph.nodes[k]? = some n)
    {p p' : Compilation} (hp : (forChannel channel o).compile d = .ok p)
    (hp' : (forChannel channel o).compile (d.withProps k props) = .ok p') :
    (∀ j, j ≠ k → p'.plan.routes[j]? = p.plan.routes[j]?) ∧
    (∀ x, x ∈ p.issues.diff p'.issues ∨ x ∈ p'.issues.diff p.issues →
      (∃ part, x.path = nodePath n.id ++ "." ++ part) ∨
        ∃ part, x.path = o.basePath ++ s!".routes[{k}]" ++ "." ++ part) ∧
    flowIssues (.ofDesign (d.withProps k props)) o = flowIssues (.ofDesign d) o := by
  obtain ⟨rs, hrs, rfl⟩ := compile_eq_ok_iff.1 hp
  obtain ⟨rs', hrs', rfl⟩ := compile_eq_ok_iff.1 hp'
  have hroutes : SameOff k rs rs' := routes_withProps props hrs hrs'
  have hissues := issues_withProps props hn channel o (hroutes.map (·.1))
  refine ⟨(hroutes.map (·.2)).getElem?, fun x hx => ?_, flowIssues_withProps d k props o⟩
  have hplace : (x.isUnder (nodePath n.id) ||
      x.isUnder (o.basePath ++ s!".routes[{k}]")) = true := by
    rcases hx with hx | hx
    · exact hissues.of_mem_diff hx
    · exact hissues.symm.of_mem_diff hx
  rw [Bool.or_eq_true, Issue.isUnder_iff, Issue.isUnder_iff] at hplace
  exact hplace

/-- Other words for the question of the survey, with a filter that nobody allows. -/
def loudQuestion : Props := [("text", .str "Done, \x7b\x7b name | shout \x7d\x7d?")]

theorem loudQuestion_local : ∃ n p p', survey.graph.nodes[0]? = some n ∧ n.id = "ask" ∧
    (forChannel .webchat .default).compile survey = .ok p ∧
      (forChannel .webchat .default).compile (survey.withProps 0 loudQuestion) = .ok p' ∧
        p'.plan.routes[1]? = p.plan.routes[1]? ∧
          ∀ x ∈ p'.issues.diff p.issues, (∃ part, x.path = "graph.nodes.ask" ++ "." ++ part) ∨
            ∃ part, x.path = "plan.routes[0]" ++ "." ++ part := by
  obtain ⟨p, hp, -⟩ := compile_survey
  have hroutes : ((survey.withProps 0 loudQuestion).graph.nodes.mapM
      ((forChannel .webchat .default).route (survey.withProps 0 loudQuestion))).map
        (·.map (·.2.node)) = .ok ["ask", "end"] := by
    decide +kernel
  obtain ⟨rs', hrs', -⟩ := map_eq_ok_iff.1 hroutes
  have hp' : (forChannel .webchat .default).compile (survey.withProps 0 loudQuestion) = .ok _ :=
    map_eq_ok_iff.2 ⟨rs', hrs', rfl⟩
  have hplace : Options.default.basePath ++ s!".routes[{0}]" = "plan.routes[0]" := by decide +kernel
  obtain ⟨hkept, hplaces, -⟩ := edit_is_local loudQuestion .webchat .default rfl hp hp'
  rw [hplace] at hplaces
  exact ⟨_, p, _, rfl, rfl, hp, hp', hkept 1 Nat.one_ne_zero, fun x hx => hplaces x (.inr hx)⟩

end ChatPlan
