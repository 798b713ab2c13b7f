import ChatPlan.Proofs.Check.Errors
import ChatPlan.Proofs.Issues
import ChatPlan.Proofs.Step.Kinds

/-
The outputs to which policies lead. The check of outputs asks for each of them to be declared, but
takes a declared output for right only if the kind offers it on its own. An output that a policy
names itself is therefore reported either way, unless it bears the name of one that the kind offers.
-/
namespace ChatPlan

/-- The output to which the policy leads. -/
def Behavior.output? (b : Behavior) : Policy → Option String
  | .timeout => b.timeout.map (·.output)
  | .validation => b.validation.map (·.output)
  | .fallback => b.fallback.map (·.output)
  | _ => none

/-- The output to which a policy leads that names none. -/
def Policy.usualOutput? : Policy → Option String
  | .timeout => some "timeout"
  | .validation => some "invalid"
  | .fallback => some "fallback"
  | _ => none

/-- The output is one that a step with this rule offers, whatever its policies are. -/
def OutputRule.Offers (p : Props) (o : String) : OutputRule → Prop
  | .fixed required optional => o ∈ required ++ optional
  | .interactive _ elements => o ∈ standardOutputs ∨ ∃ e ∈ elements p, o ∈ e.identifiers

theorem mem_policyOutputs {b : Behavior} {o : String} :
    o ∈ Outputs.policyOutputs b ↔ ∃ policy, b.output? policy = some o := by
  simp only [Outputs.policyOutputs, List.mem_append, Option.mem_toList]
  constructor
  · intro h
    rcases h with (h | h) | h
    · exact ⟨.timeout, h⟩
    · exact ⟨.validation, h⟩
    · exact ⟨.fallback, h⟩
  · intro h
    obtain ⟨policy, h⟩ := h
    cases policy with
    | timeout => exact .inl (.inl h)
    | validation => exact .inl (.inr h)
    | fallback => exact .inr h
    | retry => cases h
    | delay => cases h
    | experiment => cases h
    | persistence => cases h

/-- The outputs that a rule names, without those for elements. -/
def OutputRule.names : OutputRule → List String
  | .fixed required optional => required ++ optional
  | .interactive _ _ => standardOutputs

theorem OutputRule.offers_of_mem_names {r : OutputRule} {o : String} (h : o ∈ r.names) (p : Props) :
    r.Offers p o := by
  cases r with
  | fixed required optional => exact h
  | interactive element elements => exact .inl h

/-- A kind that allows a policy offers the usual output of that policy. -/
theorem Kind.offers_usual {k : Kind} (hk : k ∈ builtinKinds) {policy : Policy}
    (hallowed : policy ∈ k.allowed) {o : String} (ho : policy.usualOutput? = some o) (p : Props) :
    k.outputs.Offers p o := by
  have hnamed : ∀ k ∈ builtinKinds, ∀ policy ∈ k.allowed, ∀ o ∈ policy.usualOutput?,
      o ∈ k.outputs.names := by
    decide
  exact OutputRule.offers_of_mem_names (hnamed k hk policy hallowed o ho) p

namespace Outputs

variable {c : DesignContext} {n : Node} {k : Kind} {b : Behavior} {o : String} {j : Nat}

/-- The issue says that the node cannot emit the output at this place. -/
def Rejects (n : Node) (j : Nat) (i : Issue) : Prop :=
  i.path = outputPath n j ∧ (i.code = s!"output.{n.kind}.unmapped_output" ∨
    i.code = s!"output.{n.kind}.unexpected_output")

/-- One of the issues says that the node cannot emit the output at this place. -/
def RejectedBy (is : List Issue) (n : Node) (j : Nat) : Prop := ∃ i ∈ is, Rejects n j i

/-- The output is declared, and is reported as one that the node cannot emit. -/
def IsRejected (c : DesignContext) (n : Node) (o : String) : Prop :=
  ∃ j, n.outputs[j]? = some o ∧ RejectedBy (nodeIssues c n) n j

/-- What is reported of an output to which a policy leads and which is not declared. -/
def missingIssue (n : Node) (o : String) : Issue :=
  .warn s!"output.{n.kind}.behavior_output_missing" (outputsPath n)
    s!"Node '{n.id}' routes a behavior to '{o}' but does not declare it"

/-! ## Where issues stand -/

theorem missingIssue_injective (n : Node) : Function.Injective (missingIssue n) := by
  intro o o' h
  simpa [missingIssue, Issue.warn, toString] using h

theorem outputPath_injective (n : Node) : Function.Injective (outputPath n) := by
  intro i j h
  exact repr_injective (by simpa [outputPath] using h)

theorem outputsPath_ne (n : Node) (j : Nat) : outputsPath n ≠ outputPath n j := by
  intro h
  have hlength := congrArg String.length h
  simp only [outputsPath, outputPath, String.length_append] at hlength
  change _ + 8 = _ + (9 + _ + 1) at hlength
  omega

/-! ## Rejected outputs -/

theorem rejectedBy_append {is js : List Issue} :
    RejectedBy (is ++ js) n j ↔ RejectedBy is n j ∨ RejectedBy js n j := by
  simp only [RejectedBy, List.mem_append, or_and_right, exists_or]

theorem rejects_iff {place : Nat} {i : Issue} (hpath : i.path = outputPath n place)
    (hcode : i.code = s!"output.{n.kind}.unmapped_output" ∨
      i.code = s!"output.{n.kind}.unexpected_output") : Rejects n j i ↔ place = j := by
  rw [Rejects, hpath, (outputPath_injective n).eq_iff, and_iff_left hcode]

theorem not_rejectedBy_map {α : Type} {l : List α} {f : α → Issue}
    (hf : ∀ a, (f a).path = outputsPath n) : ¬RejectedBy (l.map f) n j := by
  intro h
  obtain ⟨i, hi, hpath, -⟩ := h
  obtain ⟨a, -, rfl⟩ := List.mem_map.1 hi
  exact outputsPath_ne n j ((hf a).symm.trans hpath)

theorem not_rejectedBy_duplicateIssues : ¬RejectedBy (duplicateIssues n) n j := by
  intro h
  obtain ⟨i, hi, -, hcode⟩ := h
  obtain ⟨q, -, rfl⟩ := List.mem_map.1 hi
  simp [Issue.error, toString] at hcode

theorem not_rejectedBy_policyIssues {p : Props} : ¬RejectedBy (policyIssues n p) n j := by
  rw [policyIssues]
  split
  · exact not_rejectedBy_map fun _ => rfl
  · intro h
    obtain ⟨i, hi, -⟩ := h
    cases hi

theorem rejectedBy_misfits {fits : String → Bool} {f : String × Nat → Issue}
    (hf : ∀ q j, Rejects n j (f q) ↔ q.2 = j) (hj : n.outputs[j]? = some o) :
    RejectedBy ((n.outputs.zipIdx.filter fun q => !fits q.1).map f) n j ↔ fits o = false := by
  simp only [RejectedBy, List.mem_map, List.mem_filter, Bool.not_eq_true']
  constructor
  · intro h
    obtain ⟨_, ⟨q, ⟨hq, hmisfit⟩, rfl⟩, hrejects⟩ := h
    obtain rfl := (hf q j).1 hrejects
    rwa [Option.some.inj (hj.symm.trans (mem_zipIdx_iff.1 hq))]
  · intro h
    exact ⟨f (o, j), ⟨(o, j), ⟨mem_zipIdx_iff.2 hj, h⟩, rfl⟩, (hf _ _).2 rfl⟩

theorem rejectedBy_interactiveIssues {element : String} {elements : List Element}
    (hj : n.outputs[j]? = some o) : RejectedBy (interactiveIssues n element elements) n j ↔
      ¬(o ∈ standardOutputs ∨ ∃ e ∈ elements, o ∈ e.identifiers) := by
  rw [interactiveIssues, rejectedBy_append, or_iff_left (not_rejectedBy_map fun _ => rfl),
    rejectedBy_misfits (fun q j => rejects_iff rfl (.inl rfl)) hj]
  simp [isMapped, Element.isNamed]

theorem rejectedBy_fixedIssues {required optional : List String} (hj : n.outputs[j]? = some o) :
    RejectedBy (fixedIssues n required optional) n j ↔ ¬o ∈ required ++ optional := by
  have hne : (n.isFinal && n.outputs.isEmpty) = false := by
    rw [List.isEmpty_eq_false_iff.2 (List.ne_nil_of_mem (List.mem_of_getElem? hj)), Bool.and_false]
  rw [fixedIssues, hne, if_neg Bool.false_ne_true, rejectedBy_append,
    or_iff_right (not_rejectedBy_map fun _ => rfl),
    rejectedBy_misfits (fun q j => rejects_iff rfl (.inr rfl)) hj]
  simp

/-- A declared output is rejected exactly if the kind of its node does not offer it. -/
theorem isRejected_iff (hk : c.registry.kind? n.kind = some k) :
    IsRejected c n o ↔ o ∈ n.outputs ∧ ¬k.outputs.Offers (c.props n) o := by
  have hrule {j : Nat} (hj : n.outputs[j]? = some o) :
      RejectedBy (nodeIssues c n) n j ↔ ¬k.outputs.Offers (c.props n) o := by
    rw [nodeIssues, hk]
    simp only [rejectedBy_append, not_rejectedBy_duplicateIssues, not_rejectedBy_policyIssues,
      false_or, or_false]
    cases k.outputs with
    | fixed required optional => exact rejectedBy_fixedIssues hj
    | interactive element elements => exact rejectedBy_interactiveIssues hj
  constructor
  · intro h
    obtain ⟨j, hj, hrejected⟩ := h
    exact ⟨List.mem_of_getElem? hj, (hrule hj).1 hrejected⟩
  · intro h
    obtain ⟨hmem, hnot⟩ := h
    obtain ⟨j, hj⟩ := List.mem_iff_getElem?.1 hmem
    exact ⟨j, hj, (hrule hj).2 hnot⟩

/-! ## Missing outputs -/

theorem policyIssues_eq {p : Props} (hb : Behavior.read p = .ok (some b)) : policyIssues n p =
    ((policyOutputs b).filter fun o => !n.outputs.contains o).map (missingIssue n) := by
  rw [policyIssues, hb]
  rfl

theorem severity_of_interactiveIssues {element : String} {elements : List Element} {i : Issue}
    (hi : i ∈ interactiveIssues n element elements) : i.severity = .error := by
  rcases List.mem_append.1 hi with hi | hi
  · obtain ⟨q, -, rfl⟩ := List.mem_map.1 hi
    rfl
  · obtain ⟨e, -, rfl⟩ := List.mem_map.1 hi
    rfl

theorem severity_of_fixedIssues {required optional : List String} {i : Issue}
    (hi : i ∈ fixedIssues n required optional) : i.severity = .error := by
  unfold fixedIssues at hi
  split at hi
  · cases hi
  · rcases List.mem_append.1 hi with hi | hi
    · obtain ⟨q, -, rfl⟩ := List.mem_map.1 hi
      rfl
    · obtain ⟨q, -, rfl⟩ := List.mem_map.1 hi
      rfl

theorem missingIssue_mem_policyIssues {p : Props} (hb : Behavior.read p = .ok (some b)) :
    missingIssue n o ∈ policyIssues n p ↔ o ∈ policyOutputs b ∧ o ∉ n.outputs := by
  rw [policyIssues_eq hb, List.mem_map_of_injective (missingIssue_injective n), List.mem_filter]
  simp

/-- An output is reported as missing exactly if a policy leads to it and it is not declared. -/
theorem missingIssue_mem_iff (hk : c.registry.kind? n.kind = some k)
    (hb : Behavior.read (c.props n) = .ok (some b)) :
    missingIssue n o ∈ nodeIssues c n ↔ o ∈ policyOutputs b ∧ o ∉ n.outputs := by
  rw [← missingIssue_mem_policyIssues hb, nodeIssues, hk]
  simp only [List.mem_append]
  constructor
  · intro h
    rcases h with (h | h) | h
    · obtain ⟨q, -, hq⟩ := List.mem_map.1 h
      cases congrArg Issue.severity hq
    · split at h
      · cases severity_of_interactiveIssues h
      · cases severity_of_fixedIssues h
    · exact h
  · exact .inr

/-! ## Policies -/

/-- The output to which a policy of a step leads is reported either as missing, or as one that the
step cannot emit, unless it is declared and the kind of the step offers it by itself. A kind offers
the usual outputs of the policies that it allows. -/
theorem policy_output_reported (hregistry : c.registry = .builtin)
    (hk : Registry.builtin.kind? n.kind = some k) {s : Step} (hs : k.build (c.props n) = .ok s)
    (hb : s.behavior = some b) {policy : Policy} (hallowed : policy ∈ k.allowed)
    (ho : b.output? policy = some o) :
    (missingIssue n o ∈ nodeIssues c n ↔ o ∉ n.outputs) ∧
      (IsRejected c n o ↔ o ∈ n.outputs ∧ ¬k.outputs.Offers (c.props n) o) ∧
        (policy.usualOutput? = some o → k.outputs.Offers (c.props n) o) := by
  have hkind : c.registry.kind? n.kind = some k := by rw [hregistry, hk]
  obtain ⟨hmem, -⟩ := Registry.mem_builtinKinds hk
  have hread : Behavior.read (c.props n) = .ok (some b) := by
    rw [(Kind.policies_of_build hmem hs).1, hb]
  refine ⟨?_, isRejected_iff hkind, fun husual => Kind.offers_usual hmem hallowed husual _⟩
  rw [missingIssue_mem_iff hkind hread, and_iff_right (mem_policyOutputs.2 ⟨policy, ho⟩)]

/-- An output that a kind does not offer is reported either way, be it declared or not. -/
theorem missing_or_rejected (hk : c.registry.kind? n.kind = some k)
    (hb : Behavior.read (c.props n) = .ok (some b)) (ho : o ∈ policyOutputs b)
    (hnot : ¬k.outputs.Offers (c.props n) o) :
    missingIssue n o ∈ nodeIssues c n ∨ IsRejected c n o := by
  by_cases hdeclared : o ∈ n.outputs
  · exact .inr ((isRejected_iff hk).2 ⟨hdeclared, hnot⟩)
  · exact .inl ((missingIssue_mem_iff hk hb).2 ⟨ho, hdeclared⟩)

end Outputs

/-- A question that waits for a minute, and then leads to an output of its own. -/
def quiz.ask : Node where
  id := "ask"
  kind := "input"
  props := [
    ("text", .str "What is the capital of Peru?"),
    ("timeout", .obj [("output", .str "expired"), ("seconds", .num (.int 60))])]
  propsRef := none
  outputs := ["next", "expired"]
  isFinal := false
  position := none
  size := none

/-- The question, and a last word for either output. -/
def quiz : Design where
  schema := "chat.design/v1"
  bot := ⟨"bot", ["web"]⟩
  version := ⟨"v1", .development⟩
  entries := [⟨.globalStart, none, "ask"⟩]
  graph := {
    nodes := [quiz.ask,
      ⟨"end", "message", [("text", .str "Thank you")], none, [], true, none, none⟩]
    edges := [⟨"ask", "end", "next", 1, none, none⟩, ⟨"ask", "end", "expired", 2, none, none⟩] }
  profile := none
  props := []

/-- What the check of outputs looks at in the quiz. -/
abbrev quiz.context : DesignContext := contextOf .builtin .webchat .default quiz

/-- The kind of the question. -/
def quiz.input : Kind := .ofContent "input"
  [.timeout, .validation, .retry, .fallback, .delay, .persistence]
  (.fixed ["next"] ["timeout", "invalid", "fallback"]) readInput

theorem quiz.kind_eq : Registry.builtin.kind? quiz.ask.kind = some quiz.input := rfl

theorem quiz.timeout_eq : ∃ s b, quiz.input.build (quiz.context.props quiz.ask) = .ok s ∧
    s.behavior = some b ∧ b.output? .timeout = some "expired" := by
  have hbuilt : (quiz.input.build (quiz.context.props quiz.ask)).map
      (fun s => s.behavior.bind (·.output? .timeout)) = .ok (some "expired") := by
    decide +kernel
  obtain ⟨s, hs, houtput⟩ := map_eq_ok_iff.1 hbuilt
  obtain ⟨b, hb, ho⟩ := Option.bind_eq_some_iff.1 houtput
  exact ⟨s, b, hs, hb, ho⟩

theorem quiz.not_offers :
    ¬quiz.input.outputs.Offers (quiz.context.props quiz.ask) "expired" := by
  change "expired" ∉ ["next"] ++ ["timeout", "invalid", "fallback"]
  decide

namespace Outputs

/-- The quiz declares where its timeout leads, and this is rejected. -/
theorem quiz_timeout_reported : "expired" ∈ quiz.ask.outputs ∧
    missingIssue quiz.ask "expired" ∉ nodeIssues quiz.context quiz.ask ∧
      IsRejected quiz.context quiz.ask "expired" := by
  obtain ⟨s, b, hs, hb, ho⟩ := quiz.timeout_eq
  obtain ⟨hmissing, hrejected, -⟩ :=
    policy_output_reported (c := quiz.context) rfl quiz.kind_eq hs hb (.head _) ho
  exact ⟨by decide, fun h => absurd (hmissing.1 h) (by decide),
    hrejected.2 ⟨by decide, quiz.not_offers⟩⟩

/-- A timeout that is allowed and can be read leads to a declared output, and still the output is
rejected. Whatever outputs the question declares in place of these, something is reported. -/
theorem quiz_timeout_unusable :
    (∃ s b, quiz.input.build (quiz.context.props quiz.ask) = .ok s ∧ s.behavior = some b ∧
      .timeout ∈ quiz.input.allowed ∧ b.output? .timeout = some "expired" ∧
        "expired" ∈ quiz.ask.outputs ∧ IsRejected quiz.context quiz.ask "expired") ∧
      ∀ outputs, missingIssue { quiz.ask with outputs } "expired" ∈
          nodeIssues quiz.context { quiz.ask with outputs } ∨
        IsRejected quiz.context { quiz.ask with outputs } "expired" := by
  obtain ⟨s, b, hs, hb, ho⟩ := quiz.timeout_eq
  have hmem : quiz.input ∈ builtinKinds := (Registry.mem_builtinKinds quiz.kind_eq).1
  have hread : Behavior.read (quiz.context.props quiz.ask) = .ok (some b) := by
    rw [(Kind.policies_of_build hmem hs).1, hb]
  refine ⟨⟨s, b, hs, hb, .head _, ho, by decide, ?_⟩, fun outputs => ?_⟩
  · exact (isRejected_iff quiz.kind_eq).2 ⟨by decide, quiz.not_offers⟩
  · exact missing_or_rejected (n := { quiz.ask with outputs }) quiz.kind_eq hread
      (mem_policyOutputs.2 ⟨.timeout, ho⟩) quiz.not_offers

end Outputs

end ChatPlan
