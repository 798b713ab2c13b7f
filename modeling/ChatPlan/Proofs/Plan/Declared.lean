import ChatPlan.Proofs.Design.Values
import ChatPlan.Proofs.Plan.Policies

/-
Keys under which steps keep what they capture. A view says whether its key is a variable of the
profile, as the values of a running conversation have it; the check of names finds out by itself,
from the profile as it is written. Both say the same of every node that compiles, so the check can
be read off the view (`keyIssue_of_view`).
-/
namespace ChatPlan

open Compiler

namespace Variables

variable {a : Adapter} {o : Options} {d : Design} {n : Node} {v : View}

/-- The code of an issue on a key that is no variable of the profile. -/
def undeclaredCode : String := "variable.persist.undeclared"

/-- The issue on a key that is no variable of the profile. -/
def undeclaredIssue (n : Node) (key : String) : Issue :=
  .info undeclaredCode (nodePath n.id ++ ".props.persist")
    s!"Persistence key '{key}' is not declared in the profile"

/-- The issue on the key of a view, if it could be a variable and is none of the profile. -/
def undeclared? (n : Node) (v : View) : Option Issue :=
  (v.persistence.filter fun kept => isIdentifier kept.key && !kept.declared).map fun kept =>
    undeclaredIssue n kept.key

theorem has_ofProfile? (d : Design) (key : String) :
    (Values.ofProfile? d.profile).has key = isDeclared d key := by
  rw [isDeclared]
  cases d.profile with
  | none => rfl
  | some p => exact Values.has_ofProfile p key

/-- The view of a node keeps what its properties say, and marks the key as the profile has it. -/
theorem persistence_of_view (h : (forAdapter a o).view d n = .ok v) :
    ∃ kept, Persistence.read (d.resolvedProps n) = .ok kept ∧
      v.persistence = kept.map fun p => { p with declared := isDeclared d p.key } := by
  obtain ⟨k, s, hk, hs, hv⟩ := view_eq_ok h
  obtain ⟨shown, -, rfl⟩ := Step.view_eq_ok hv
  refine ⟨s.persistence, (Kind.policies_of_build (Registry.mem_builtinKinds hk).1 hs).2, ?_⟩
  simp only [has_ofProfile?]

/-- The check of keys, read off the view of the node. -/
theorem keyIssue_of_view (h : (forAdapter a o).view d n = .ok v) :
    keyIssue d n = v.persistence.bind fun kept =>
      if isIdentifier kept.key = false then
        some (nameIssue (nodePath n.id ++ ".props.persist") "Persistence key" kept.key)
      else if kept.declared = true then none else some (undeclaredIssue n kept.key) := by
  obtain ⟨kept, hread, hkept⟩ := persistence_of_view h
  rw [keyIssue, hread, hkept]
  cases kept with
  | none => rfl
  | some p =>
    simp only [Option.map_some, Option.bind_some]
    cases hname : isIdentifier p.key with
    | false => rfl
    | true =>
      cases isDeclared d p.key with
      | true => rfl
      | false => rfl

theorem filter_keyIssue (h : (forAdapter a o).view d n = .ok v) :
    (keyIssue d n).filter (·.code == undeclaredCode) = undeclared? n v := by
  rw [keyIssue_of_view h, undeclared?]
  cases v.persistence with
  | none => rfl
  | some kept =>
    cases hname : isIdentifier kept.key with
    | false => simp [hname, Option.filter, nameIssue, Issue.error, undeclaredCode]
    | true =>
      cases hdeclared : kept.declared with
      | true => simp [hname, hdeclared]
      | false => simp [hname, hdeclared, Option.filter, undeclaredIssue, Issue.info]

/-- The node's view and the check of its key agree whether a key that could be a variable is one. -/
def Agrees (d : Design) (n : Node) (v : View) : Prop :=
  ∀ kept, v.persistence = some kept → isIdentifier kept.key = true →
    (kept.declared = false ↔ ∃ i ∈ keyIssue d n, i.code = undeclaredCode)

theorem agrees_of_view (h : (forAdapter a o).view d n = .ok v) : Agrees d n v := by
  intro kept hkept hname
  rw [keyIssue_of_view h, hkept, Option.bind_some]
  cases hdeclared : kept.declared with
  | true => simp [hname]
  | false => simp [hname, undeclaredIssue, Issue.info]

/-! ## All nodes -/

theorem filter_nameIssues (place what : String) (names : List String) :
    (nameIssues place what names).filter (·.code == undeclaredCode) = [] := by
  rw [List.filter_eq_nil_iff]
  refine Reports.map fun name => ?_
  simp [nameIssue, Issue.error, undeclaredCode]

theorem filter_issues (c : DesignContext) : (issues c).filter (·.code == undeclaredCode) =
    c.flow.nodes.filterMap fun n => (keyIssue c.design n).filter (·.code == undeclaredCode) := by
  have hprofile : (c.design.profile.toList.flatMap profileIssues).filter
      (·.code == undeclaredCode) = [] := by
    rw [List.filter_flatMap, List.flatMap_eq_nil_iff]
    intro p _
    rw [profileIssues, List.filter_append, filter_nameIssues, filter_nameIssues, List.append_nil]
  have hedges : (c.flow.edges.zipIdx.flatMap fun e => edgeIssues e.1 e.2).filter
      (·.code == undeclaredCode) = [] := by
    rw [List.filter_flatMap, List.flatMap_eq_nil_iff]
    intro e _
    rw [edgeIssues]
    split
    · rfl
    · exact filter_nameIssues _ _ _
  rw [issues, List.filter_append, List.filter_append, hprofile, hedges, List.nil_append,
    List.append_nil, List.filter_filterMap]

end Variables

theorem filter_viewsIssues (c : Capabilities) (o : Options) (views : List View) :
    (Pipeline.standard.viewsIssues c o views).filter (·.code == Variables.undeclaredCode) = [] := by
  rw [List.filter_eq_nil_iff]
  apply Reports.flatten_mapIdx
  intro j v
  rw [standard_viewIssues_eq]
  apply List.filter_eq_nil_iff.1
  rw [List.filter_append, List.filter_append, (Filters.issues_inArea _ v).filter_code (by decide),
    (Length.viewIssues_inArea _ v).filter_code (by decide),
    (Fit.issues_inArea _ v).filter_code (by decide), List.append_nil, List.append_nil]

/-- Of all checks, the one of names reports undeclared keys. -/
theorem filter_issues_undeclared (a : Adapter) (o : Options) (d : Design) (views : List View) :
    ((forAdapter a o).issues d views).filter (·.code == Variables.undeclaredCode) =
      d.graph.nodes.filterMap fun n =>
        (Variables.keyIssue d n).filter (·.code == Variables.undeclaredCode) := by
  simp only [issues, standard_designIssues_eq, List.filter_append]
  rw [(Flow.flowIssues_inArea _ o).filter_code (by decide),
    (Shape.issues_inArea _).filter_code (by decide),
    (Outputs.issues_inArea _).filter_code (by decide),
    (Policies.issues_inArea _).filter_code (by decide),
    (Length.designIssues_inArea _).filter_code (by decide), Variables.filter_issues,
    filter_viewsIssues]
  simp only [List.nil_append, List.append_nil]
  rfl

theorem Variables.filterMap_keyIssue {a : Adapter} {o : Options} {d : Design} {nodes : List Node}
    {views : List View}
    (h : List.Forall₂ (fun n v => (forAdapter a o).view d n = .ok v) nodes views) :
    (nodes.filterMap fun n => (keyIssue d n).filter (·.code == undeclaredCode)) =
      (nodes.zip views).filterMap fun nv => undeclared? nv.1 nv.2 := by
  calc (nodes.filterMap fun n => (keyIssue d n).filter (·.code == undeclaredCode))
      = (nodes.zip views).filterMap fun nv =>
          (keyIssue d nv.1).filter (·.code == undeclaredCode) := by
        conv_lhs => rw [← List.map_fst_zip h.length_eq.le]
        exact List.filterMap_map
    _ = (nodes.zip views).filterMap fun nv => undeclared? nv.1 nv.2 := by
        refine List.filterMap_congr fun nv hnv => ?_
        exact filter_keyIssue (List.forall₂_zip h hnv)

/-- The values of a profile split its variables into temporary and persistent ones; every profile
that is read is in order. A view marks its key as declared exactly where the check of names does not
report it, and all that a compile reports of undeclared keys can be read off the views. -/
theorem declared_keys_agree :
    (∀ source d, Design.parse? source = some d → ∀ p ∈ d.profile, p.InOrder) ∧
    (∀ p : Profile, p.InOrder → (Values.ofProfile p).Splits p) ∧
    ∀ (a : Adapter) (o : Options) (d : Design) (c : Compilation),
      (forAdapter a o).compile d = .ok c → ∃ views,
        List.Forall₂ (fun n v => (forAdapter a o).view d n = .ok v ∧ Variables.Agrees d n v)
          d.graph.nodes views ∧
        c.issues.filter (·.code == Variables.undeclaredCode) =
          (d.graph.nodes.zip views).filterMap fun nv => Variables.undeclared? nv.1 nv.2 := by
  refine ⟨fun _ _ => Design.inOrder_of_parse?, fun _ => Values.splits_ofProfile, ?_⟩
  intro a o d c hc
  obtain ⟨views, hviews, hissues⟩ := views_of_compile hc
  refine ⟨views, hviews.imp fun n v hv => ⟨hv, Variables.agrees_of_view hv⟩, ?_⟩
  rw [hissues, filter_issues_undeclared]
  exact Variables.filterMap_keyIssue hviews

/-- A variable with a default, one that is kept, and one that is only supplied. -/
def signup.variables : Profile where
  context := [
    ("attempts", ⟨"number", some (.num (.int 0)), false, false⟩),
    ("email", ⟨"string", none, true, true⟩)]
  supplied := [("campaign", .str "spring")]

/-- Two questions. The profile names the variable in which the first keeps its answer. -/
def signup : Design where
  schema := "chat.design/v1"
  bot := ⟨"bot", ["web"]⟩
  version := ⟨"v1", .development⟩
  entries := [⟨.globalStart, none, "mail"⟩]
  graph := {
    nodes := [
      ⟨"mail", "input", [("persist", .str "email"), ("text", .str "Your address?")], none, [],
        false, none, none⟩,
      ⟨"call", "input", [("persist", .str "phone"), ("text", .str "Your number?")], none, [],
        false, none, none⟩]
    edges := [] }
  profile := some signup.variables
  props := []

/-- A design with a profile alone. Its variables are not written in order. -/
def signup.source : String :=
  "[\"\", [\"bot\"], [\"v1\"], [], [], " ++
    "[\x7b\"email\": [\"string\"], \"attempts\": [\"number\"]\x7d]]"

/-- A profile is read in order and that of the signup is split; its second key is reported. -/
theorem signup_keys :
    (∃ d p, Design.parse? signup.source = some d ∧ d.profile = some p ∧ p.InOrder) ∧
    (signup.variables.InOrder ∧ (Values.ofProfile signup.variables).Splits signup.variables) ∧
    ∃ c views, (forAdapter Channel.webchat.adapter .default).compile signup = .ok c ∧
      List.Forall₂ (fun n v => (forAdapter Channel.webchat.adapter .default).view signup n = .ok v ∧
        Variables.Agrees signup n v) signup.graph.nodes views ∧
      c.issues.filter (·.code == Variables.undeclaredCode) =
        (signup.graph.nodes.zip views).filterMap (fun nv => Variables.undeclared? nv.1 nv.2) ∧
      (c.issues.filter (·.code == Variables.undeclaredCode)).map (·.path) =
        ["graph.nodes.call.props.persist"] := by
  obtain ⟨hread, hsplit, hagree⟩ := declared_keys_agree
  refine ⟨?_, ?_, ?_⟩
  · have hparsed : ((Design.parse? signup.source).bind (·.profile)).isSome = true := by
      decide +kernel
    obtain ⟨p, hp⟩ := Option.isSome_iff_exists.1 hparsed
    obtain ⟨d, hd, hprofile⟩ := Option.bind_eq_some_iff.1 hp
    exact ⟨d, p, hd, hprofile, hread _ d hd p hprofile⟩
  · have horder : signup.variables.InOrder :=
      ⟨List.pairwise_pair.2 (by decide), List.pairwise_singleton _ _⟩
    exact ⟨horder, hsplit _ horder⟩
  · have hroutes : (signup.graph.nodes.mapM
        ((forAdapter Channel.webchat.adapter .default).route signup)).map (fun _ => ()) =
          .ok () := by
      decide +kernel
    obtain ⟨rs, hrs, -⟩ := map_eq_ok_iff.1 hroutes
    have hc : (forAdapter Channel.webchat.adapter .default).compile signup = .ok
        ((forAdapter Channel.webchat.adapter .default).assemble signup rs) :=
      map_eq_ok_iff.2 ⟨rs, hrs, rfl⟩
    obtain ⟨views, hviews, hreported⟩ := hagree _ _ _ _ hc
    refine ⟨_, views, hc, hviews, hreported, ?_⟩
    rw [hreported]
    have hpaths : (signup.graph.nodes.mapM
        ((forAdapter Channel.webchat.adapter .default).view signup)).map (fun views =>
          ((signup.graph.nodes.zip views).filterMap fun nv =>
            Variables.undeclared? nv.1 nv.2).map (·.path)) =
        .ok ["graph.nodes.call.props.persist"] := by
      decide +kernel
    rw [mapM_eq_ok_iff.2 (hviews.imp fun _ _ h => h.1)] at hpaths
    exact Except.ok.inj hpaths

end ChatPlan
