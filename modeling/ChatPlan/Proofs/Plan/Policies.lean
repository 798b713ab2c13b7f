import ChatPlan.Proofs.Plan.Filters
import ChatPlan.Proofs.Results
import ChatPlan.Step.Policies

/-
The policies of a plan. Those that properties switch on are seen in the raw values, one filter for
all keys; those that a step carries are what the readers of the policies make of the same values.
Where all policies can be read, both are the same. The check of policies looks at the raw properties
of a node, and refuses as many policies as the view of the node has outside those that its kind
allows. A valid plan has none of them.
-/
namespace ChatPlan

/-! ## Policies of steps -/

/-- The policy is among those of a step. -/
def carries (b : Option Behavior) (kept : Option Persistence) : Policy → Bool
  | .timeout => (b.bind (·.timeout)).isSome
  | .validation => (b.bind (·.validation)).isSome
  | .retry => (b.bind (·.retry)).isSome
  | .fallback => (b.bind (·.fallback)).isSome
  | .delay => (b.bind (·.delay)).isSome
  | .experiment => (b.bind (·.experiment)).isSome
  | .persistence => kept.isSome

/-- The policies of a step, each of them once. -/
def carriedPolicies (b : Option Behavior) (kept : Option Persistence) : List Policy :=
  Policy.all.filter (carries b kept)

theorem presentPolicies_nodup (p : Props) : (presentPolicies p).Nodup := by
  have hall : Policy.all.Nodup := by decide
  exact hall.filter _

/-- The values that leave the policy out. -/
def Policy.isOff : Policy → Json → Bool
  | .fallback => Fallback.isOff
  | _ => Json.isNull

theorem Policy.value?_eq (policy : Policy) (p : Props) :
    policy.value? p = (Members.get? p policy.key).filter (!policy.isOff ·) := by
  rw [value?]
  apply congrArg (Option.filter · (Members.get? p policy.key))
  funext v
  cases v with
  | null => cases policy <;> rfl
  | bool b => cases policy <;> cases b <;> rfl
  | num n => cases policy <;> rfl
  | str s => cases policy <;> rfl
  | arr l => cases policy <;> rfl
  | obj o => cases policy <;> rfl

/-! ## What the readers make of the values -/

theorem isSome_of_readUnless {α : Type} {isOff : Json → Bool} {place : String}
    {read : Json → Except PropError α} {value : Option Json} {a : Option α}
    (h : readUnless isOff place read value = .ok a) : a.isSome = (value.filter (!isOff ·)).isSome := by
  cases value with
  | none =>
    cases h
    rfl
  | some v =>
    rw [readUnless] at h
    cases hoff : isOff v with
    | true =>
      rw [hoff] at h
      cases h
      simp [hoff]
    | false =>
      rw [hoff] at h
      obtain ⟨x, -, rfl⟩ := map_eq_ok_iff.1 h
      simp [hoff]

theorem isSome_of_read {α : Type} (policy : Policy) {place : String}
    {read : Json → Except PropError α} {p : Props} {a : Option α}
    (h : readUnless policy.isOff place read (policy.value? p) = .ok a) :
    a.isSome = (policy.value? p).isSome := by
  rw [isSome_of_readUnless h, policy.value?_eq, Option.filter_filter]
  simp only [Bool.and_self]

/-- A behavior without policies counts as none, and no policy is lost with it. -/
theorem carries_unless_empty (b : Behavior) (kept : Option Persistence) (policy : Policy) :
    carries (if b.isEmpty then none else some b) kept policy = carries (some b) kept policy := by
  cases hempty : b.isEmpty with
  | false => rfl
  | true =>
    simp only [Behavior.isEmpty, Bool.and_eq_true, Option.isNone_iff_eq_none] at hempty
    cases policy <;> simp [carries, hempty]

/-- The policies that properties switch on are those that a step with these properties carries. -/
theorem presentPolicies_eq_carried {p : Props} {b : Option Behavior} {kept : Option Persistence}
    (hb : Behavior.read p = .ok b) (hkept : Persistence.read p = .ok kept) :
    presentPolicies p = carriedPolicies b kept := by
  simp only [Behavior.read, bind_eq_ok_iff, pure_eq_ok_iff] at hb
  obtain ⟨t, ht, v, hv, r, hr, f, hf, d, hd, e, he, rfl⟩ := hb
  apply List.filter_congr
  intro policy _
  rw [carries_unless_empty]
  -- one reader for each policy; what is kept has a reader that looks at the properties itself
  cases policy with
  | timeout => exact (isSome_of_read .timeout ht).symm
  | validation => exact (isSome_of_read .validation hv).symm
  | retry => exact (isSome_of_read .retry hr).symm
  | fallback => exact (isSome_of_read .fallback hf).symm
  | delay => exact (isSome_of_read .delay hd).symm
  | experiment => exact (isSome_of_read .experiment he).symm
  | persistence =>
    rw [carries, isSome_of_readUnless hkept, Policy.value?_eq]
    rfl

open Compiler

/-- The issue is an error that says that a policy is not allowed. -/
def Issue.refusesPolicy (i : Issue) : Bool :=
  i.isError && "behavior.".toList.isPrefixOf i.code.toList &&
    ".not_allowed".toList.isSuffixOf i.code.toList

/-- The policies of a view. -/
def View.policies (v : View) : List Policy := carriedPolicies v.behavior v.persistence

/-- The policies of the view of a node which the kind of the node does not allow. -/
def Node.refused (n : Node) (v : View) : List Policy :=
  match Registry.builtin.kind? n.kind with
  | none => []
  | some k => v.policies.filter fun policy => !k.allowed.contains policy

/-- All such policies of nodes with these views, each with its node. -/
def refusedPolicies (nodes : List Node) (views : List View) : List (Node × Policy) :=
  (nodes.zip views).flatMap fun nv => (nv.1.refused nv.2).map (nv.1, ·)

/-! ## Errors on policies -/

theorem Policies.refusesPolicy_policyIssue (n : Node) (allowed : List Policy) (policy : Policy) :
    (policyIssue n allowed policy).refusesPolicy = true := by
  have hcode : (policyIssue n allowed policy).code.toList =
      "behavior.".toList ++ (policy.key.toList ++ ".not_allowed".toList) := by
    simp [policyIssue, Issue.error, toString]
  simp only [Issue.refusesPolicy, Bool.and_eq_true, List.isPrefixOf_iff_prefix,
    List.isSuffixOf_iff_suffix, hcode]
  refine ⟨⟨rfl, List.prefix_append _ _⟩, ?_⟩
  rw [← List.append_assoc]
  exact List.suffix_append _ _

theorem Issue.area_of_refusesPolicy {i : Issue} (h : i.refusesPolicy = true) :
    areaOf i.code = "behavior".toList := by
  simp only [refusesPolicy, Bool.and_eq_true, List.isPrefixOf_iff_prefix] at h
  obtain ⟨⟨-, rest, hrest⟩, -⟩ := h
  rw [areaOf, ← hrest]
  rfl

theorem InArea.countP_refusesPolicy {area : String} {is : List Issue} (h : InArea area is)
    (harea : area ≠ "behavior") : is.countP Issue.refusesPolicy = 0 := by
  rw [List.countP_eq_zero]
  intro i hi hrefuses
  have hbehavior := i.area_of_refusesPolicy hrefuses
  rw [h i hi] at hbehavior
  exact harea (String.toList_inj.1 hbehavior)

theorem countP_viewIssues (c : ViewContext) (v : View) :
    (Pipeline.standard.viewIssues c v).countP Issue.refusesPolicy = 0 := by
  rw [standard_viewIssues_eq, List.countP_append, List.countP_append,
    (Filters.issues_inArea c v).countP_refusesPolicy (by decide),
    (Length.viewIssues_inArea c v).countP_refusesPolicy (by decide),
    (Fit.issues_inArea c v).countP_refusesPolicy (by decide)]

theorem countP_viewsIssues (c : Capabilities) (o : Options) (views : List View) :
    (Pipeline.standard.viewsIssues c o views).countP Issue.refusesPolicy = 0 := by
  rw [List.countP_eq_zero]
  apply Reports.flatten_mapIdx
  intro j v
  exact List.countP_eq_zero.1 (countP_viewIssues _ v)

/-- Of all checks, the one of policies refuses policies, and it reports nothing else. -/
theorem countP_issues (a : Adapter) (o : Options) (d : Design) (views : List View) :
    ((forAdapter a o).issues d views).countP Issue.refusesPolicy =
      (Policies.issues (contextOf .builtin a.capabilities o d)).length := by
  have hpolicies : (Policies.issues (contextOf .builtin a.capabilities o d)).countP
      Issue.refusesPolicy = (Policies.issues (contextOf .builtin a.capabilities o d)).length := by
    rw [List.countP_eq_length]
    apply Reports.flatMap
    intro n
    rw [Policies.nodeIssues]
    split
    · exact .nil
    · exact .map (Policies.refusesPolicy_policyIssue n _)
  simp only [issues, standard_designIssues_eq, List.countP_append]
  rw [(Flow.flowIssues_inArea _ o).countP_refusesPolicy (by decide),
    (Shape.issues_inArea _).countP_refusesPolicy (by decide),
    (Outputs.issues_inArea _).countP_refusesPolicy (by decide), hpolicies,
    (Length.designIssues_inArea _).countP_refusesPolicy (by decide),
    (Variables.issues_inArea _).countP_refusesPolicy (by decide), countP_viewsIssues]
  omega

theorem Compilation.countP_of_isValid {p : Compilation} (h : p.isValid = true) :
    p.issues.countP Issue.refusesPolicy = 0 := by
  simp only [isValid, hasErrors, Bool.not_eq_true', List.any_eq_false] at h
  rw [List.countP_eq_zero]
  intro i hi hrefuses
  simp only [Issue.refusesPolicy, Bool.and_eq_true] at hrefuses
  exact h i hi hrefuses.1.1

/-! ## Policies of views -/

theorem policies_of_view {a : Adapter} {o : Options} {d : Design} {n : Node} {v : View}
    (h : (forAdapter a o).view d n = .ok v) : v.policies = presentPolicies (d.resolvedProps n) := by
  obtain ⟨k, s, hk, hs, hv⟩ := view_eq_ok h
  obtain ⟨hb, hkept⟩ := Kind.policies_of_build (Registry.mem_builtinKinds hk).1 hs
  obtain ⟨shown, -, rfl⟩ := Step.view_eq_ok hv
  rw [presentPolicies_eq_carried hb hkept]
  -- whether a key is declared does not matter here
  apply List.filter_congr
  intro policy _
  cases policy with
  | persistence => exact Option.isSome_map
  | timeout => rfl
  | validation => rfl
  | retry => rfl
  | fallback => rfl
  | delay => rfl
  | experiment => rfl

/-- The check of policies reports once for each policy of the view that is not allowed. -/
theorem Policies.length_nodeIssues {a : Adapter} {o : Options} {d : Design} {n : Node} {v : View}
    (h : (forAdapter a o).view d n = .ok v) :
    (nodeIssues (contextOf .builtin a.capabilities o d) n).length = (n.refused v).length := by
  rw [nodeIssues, Node.refused, policies_of_view h]
  change (match Registry.builtin.kind? n.kind with
    | none => []
    | some k => _).length = _
  cases Registry.builtin.kind? n.kind with
  | none => rfl
  | some k => exact List.length_map _

theorem Policies.length_issues {a : Adapter} {o : Options} {d : Design} {nodes : List Node}
    {views : List View}
    (h : List.Forall₂ (fun n v => (forAdapter a o).view d n = .ok v) nodes views) :
    (nodes.flatMap (nodeIssues (contextOf .builtin a.capabilities o d))).length =
      (refusedPolicies nodes views).length := by
  induction h with
  | nil => rfl
  | @cons n v nodes views hv _ ih =>
    calc ((n :: nodes).flatMap (nodeIssues (contextOf .builtin a.capabilities o d))).length
        = (nodeIssues (contextOf .builtin a.capabilities o d) n).length +
            (nodes.flatMap (nodeIssues (contextOf .builtin a.capabilities o d))).length := by
          rw [List.flatMap_cons, List.length_append]
      _ = (n.refused v).length + (refusedPolicies nodes views).length := by
          rw [length_nodeIssues hv, ih]
      _ = (refusedPolicies (n :: nodes) (v :: views)).length := by
          simp [refusedPolicies]

/-- The nodes of a design that compiles have views, which are those that are checked. -/
theorem Compiler.views_of_compile {c : Compiler} {d : Design} {p : Compilation}
    (h : c.compile d = .ok p) : ∃ views,
      List.Forall₂ (fun n v => c.view d n = .ok v) d.graph.nodes views ∧
        p.issues = c.issues d views := by
  obtain ⟨rs, hrs, rfl⟩ := compile_eq_ok_iff.1 h
  refine ⟨rs.map (·.1), ?_, rfl⟩
  rw [List.forall₂_map_right_iff]
  exact hrs.imp fun n r hr => (route_eq_ok_iff.1 hr).1

/-- A channel changes no policy, so the routes of a plan carry what the properties switch on. -/
theorem policies_of_routes {k : Channel} {o : Options} {d : Design} {p : Compilation}
    (h : (forChannel k o).compile d = .ok p) :
    p.plan.routes.map (·.view.policies) =
      d.graph.nodes.map fun n => presentPolicies (d.resolvedProps n) := by
  obtain ⟨rs, hrs, rfl⟩ := compile_eq_ok_iff.1 h
  rw [assemble, List.map_map]
  refine map_eq_of_forall₂ hrs fun n r hr => ?_
  obtain ⟨hv, shown, hshown, hroute⟩ := route_eq_ok_iff.1 hr
  cases hshown
  rw [Function.comp, hroute]
  have hview : r.1.policies = presentPolicies (d.resolvedProps n) :=
    policies_of_view (show (forAdapter k.adapter o).view d n = .ok r.1 from hv)
  exact hview

/-- The policies that properties switch on are those that the plan carries, each of them once. So the
check of policies refuses as many policies as the views have that are not allowed, and a valid plan
has none of these. -/
theorem policies_seen_are_carried :
    (∀ props b kept, Behavior.read props = .ok b → Persistence.read props = .ok kept →
      presentPolicies props = carriedPolicies b kept ∧ (presentPolicies props).Nodup) ∧
    (∀ (a : Adapter) (o : Options) (d : Design) (p : Compilation),
      (forAdapter a o).compile d = .ok p → ∃ views,
        List.Forall₂ (fun n v => (forAdapter a o).view d n = .ok v) d.graph.nodes views ∧
          p.issues.countP Issue.refusesPolicy = (refusedPolicies d.graph.nodes views).length ∧
            (p.isValid = true → p.issues.countP Issue.refusesPolicy = 0 ∧
              refusedPolicies d.graph.nodes views = [])) ∧
    ∀ (k : Channel) (o : Options) (d : Design) (p : Compilation),
      (forChannel k o).compile d = .ok p → p.plan.routes.map (·.view.policies) =
        d.graph.nodes.map fun n => presentPolicies (d.resolvedProps n) := by
  refine ⟨fun props b kept hb hkept => ?_, ?_, fun _ _ _ _ => policies_of_routes⟩
  · exact ⟨presentPolicies_eq_carried hb hkept, presentPolicies_nodup props⟩
  · intro a o d p hp
    obtain ⟨views, hviews, hissues⟩ := views_of_compile hp
    have hcount : p.issues.countP Issue.refusesPolicy =
        (refusedPolicies d.graph.nodes views).length := by
      rw [hissues, countP_issues]
      exact Policies.length_issues hviews
    refine ⟨views, hviews, hcount, fun hvalid => ?_⟩
    have hnone := Compilation.countP_of_isValid hvalid
    exact ⟨hnone, List.eq_nil_of_length_eq_zero (hcount ▸ hnone)⟩

/-- The properties of a message with a delay and a timeout. `false` leaves a fallback out. -/
def reminder.props : Props := [
  ("delay", .obj [("ms", .num (.int 250))]),
  ("fallback", .bool false),
  ("text", .str "Still there?"),
  ("timeout", .num (.int 30))]

/-- A single message, which waits for nothing and so may have a delay but no timeout. -/
def reminder : Design where
  schema := "chat.design/v1"
  bot := ⟨"bot", ["web"]⟩
  version := ⟨"v1", .development⟩
  entries := [⟨.globalStart, none, "remind"⟩]
  graph := {
    nodes := [⟨"remind", "message", reminder.props, none, [], true, none, none⟩]
    edges := [] }
  profile := none
  props := []

/-- The reminder compiles, and its timeout is refused; of the survey nothing is refused. -/
theorem reminder_refuses_timeout :
    (∃ b, Behavior.read reminder.props = .ok (some b) ∧
      Persistence.read reminder.props = .ok none ∧
        presentPolicies reminder.props = carriedPolicies (some b) none ∧
          presentPolicies reminder.props = [.timeout, .delay]) ∧
    (∃ p views, (forChannel .webchat .default).compile reminder = .ok p ∧
      List.Forall₂ (fun n v => (forChannel .webchat .default).view reminder n = .ok v)
        reminder.graph.nodes views ∧
          p.issues.countP Issue.refusesPolicy = (refusedPolicies reminder.graph.nodes views).length ∧
            (refusedPolicies reminder.graph.nodes views).map (fun np => (np.1.id, np.2)) =
              [("remind", .timeout)] ∧
                p.plan.routes.map (·.view.policies) = [presentPolicies reminder.props]) ∧
    ∃ p views, (forChannel .webchat .default).compile survey = .ok p ∧ p.isValid = true ∧
      List.Forall₂ (fun n v => (forChannel .webchat .default).view survey n = .ok v)
        survey.graph.nodes views ∧ p.issues.countP Issue.refusesPolicy = 0 ∧
          refusedPolicies survey.graph.nodes views = [] := by
  obtain ⟨hseen, hplan, hroute⟩ := policies_seen_are_carried
  refine ⟨?_, ?_, ?_⟩
  · have hb : Behavior.read reminder.props =
        .ok (some ⟨some ⟨30, "timeout"⟩, none, none, none, some 250, none⟩) := by rfl
    have hkept : Persistence.read reminder.props = .ok none := by rfl
    exact ⟨_, hb, hkept, (hseen _ _ _ hb hkept).1, by decide⟩
  · have hroutes : (reminder.graph.nodes.mapM ((forChannel .webchat .default).route reminder)).map
        (fun _ => ()) = .ok () := by
      decide +kernel
    obtain ⟨rs, hrs, -⟩ := map_eq_ok_iff.1 hroutes
    have hp : (forChannel .webchat .default).compile reminder = .ok
        ((forChannel .webchat .default).assemble reminder rs) := map_eq_ok_iff.2 ⟨rs, hrs, rfl⟩
    obtain ⟨views, hviews, hcount, -⟩ := hplan Channel.webchat.adapter .default _ _ hp
    refine ⟨_, views, hp, hviews, hcount, ?_, hroute .webchat .default _ _ hp⟩
    have hrefused : (reminder.graph.nodes.mapM ((forChannel .webchat .default).view reminder)).map
        (fun views => (refusedPolicies reminder.graph.nodes views).map fun np => (np.1.id, np.2)) =
          .ok [("remind", .timeout)] := by
      decide +kernel
    have hall : reminder.graph.nodes.mapM ((forChannel .webchat .default).view reminder) =
        .ok views := mapM_eq_ok_iff.2 hviews
    rw [hall] at hrefused
    exact Except.ok.inj hrefused
  · obtain ⟨p, hp, hvalid⟩ := compile_survey
    obtain ⟨views, hviews, -, hnone⟩ := hplan Channel.webchat.adapter .default _ _ hp
    exact ⟨p, views, hp, hvalid, hviews, hnone hvalid⟩

end ChatPlan
