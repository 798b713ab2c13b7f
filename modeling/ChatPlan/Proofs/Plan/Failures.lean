import ChatPlan.Proofs.Plan.Content
import ChatPlan.Proofs.Step.Scanning

/-
When a compile fails. The fault lies in a node: no kind has its name, its kind refuses its
properties, or one of its texts cannot be scanned. The first node with a fault decides how the
compile fails, and nothing that a check finds ever does (`compile_fails_at_fault`).
-/
namespace ChatPlan

open Compiler Template

namespace Node

/-- What is wrong with a node that cannot be compiled, as a failure: no kind has its name, its kind
refuses its properties, or a text of its step cannot be scanned. -/
inductive Fault (d : Design) (n : Node) : Failure → Prop
  | unknownKind (hkind : Registry.builtin.kind? n.kind = none) : Fault d n (.unknownKind n.kind)
  | refused {k : Kind} {message : String} (hkind : Registry.builtin.kind? n.kind = some k)
      (hbuild : k.build (d.resolvedProps n) = .error (.factory n.kind "" message)) :
      Fault d n (.factory n.kind n.id message)
  | unscannable {k : Kind} {s : Step} {e : ScanError}
      (hkind : Registry.builtin.kind? n.kind = some k)
      (hbuild : k.build (d.resolvedProps n) = .ok s)
      (htexts : unscannable? s.content.texts = some e) : Fault d n (.spec n.id e.toFailure.message)

/-- No kind has the name of the node, its kind refuses its properties, or a text of its step cannot
be scanned. -/
def IsFaulty (d : Design) (n : Node) : Prop :=
  Registry.builtin.kind? n.kind = none ∨
    ∃ k, Registry.builtin.kind? n.kind = some k ∧
      ((∃ e, k.build (d.resolvedProps n) = .error e) ∨
        ∃ s, k.build (d.resolvedProps n) = .ok s ∧ ∃ t ∈ s.content.texts, ∃ e, scan t = .error e)

variable {d : Design} {n : Node} {e : Failure}

/-- A kind that refuses the properties of a node names itself, as the node does. -/
theorem refusal_of_kind {k : Kind} (hkind : Registry.builtin.kind? n.kind = some k)
    (hbuild : k.build (d.resolvedProps n) = .error e) :
    ∃ message, e = .factory n.kind "" message := by
  obtain ⟨hk, hname⟩ := Registry.mem_builtinKinds hkind
  obtain ⟨message, rfl⟩ := Kind.refuses hk hbuild
  exact ⟨message, by rw [hname]⟩

theorem isFaulty_iff : n.IsFaulty d ↔ ∃ e, n.Fault d e := by
  constructor
  · intro h
    obtain hkind | ⟨k, hkind, ⟨e, hbuild⟩ | ⟨s, hbuild, t, ht, e, hscan⟩⟩ := h
    · exact ⟨_, .unknownKind hkind⟩
    · obtain ⟨message, rfl⟩ := refusal_of_kind hkind hbuild
      exact ⟨_, .refused hkind hbuild⟩
    · cases htexts : unscannable? s.content.texts with
      | some first => exact ⟨_, .unscannable hkind hbuild htexts⟩
      | none =>
        obtain ⟨blocks, hblocks⟩ := unscannable?_eq_none_iff.1 htexts t ht
        rw [hblocks] at hscan
        cases hscan
  · intro h
    obtain ⟨e, h⟩ := h
    cases h with
    | unknownKind hkind => exact .inl hkind
    | refused hkind hbuild => exact .inr ⟨_, hkind, .inl ⟨_, hbuild⟩⟩
    | @unscannable k s first hkind hbuild htexts =>
      obtain ⟨before, t, after, htexts, hscan, -⟩ := unscannable?_eq_some_iff.1 htexts
      exact .inr ⟨k, hkind, .inr ⟨s, hbuild, t, by simp [htexts], first, hscan⟩⟩

theorem Fault.isStructural (h : n.Fault d e) : e.isStructural = true := by
  cases h <;> rfl

end Node

namespace Compiler

variable {k : Channel} {o : Options} {passes : Pipeline} {d : Design} {n : Node} {e : Failure}

theorem view_of_no_kind (hkind : Registry.builtin.kind? n.kind = none) :
    (withPasses k o passes).view d n = .error (.unknownKind n.kind) := by
  rw [view, step, Registry.build, hkind]
  rfl

theorem view_of_refusal {kind : Kind} {message : String}
    (hkind : Registry.builtin.kind? n.kind = some kind)
    (hbuild : kind.build (d.resolvedProps n) = .error (.factory n.kind "" message)) :
    (withPasses k o passes).view d n = .error (.factory n.kind n.id message) := by
  rw [view, step, Registry.build, hkind]
  dsimp only
  rw [hbuild]
  rfl

theorem failure?_view_of_build {kind : Kind} {s : Step}
    (hkind : Registry.builtin.kind? n.kind = some kind)
    (hbuild : kind.build (d.resolvedProps n) = .ok s) :
    failure? ((withPasses k o passes).view d n) =
      (unscannable? s.content.texts).map fun e => .spec n.id e.toFailure.message := by
  rw [← Scans.view s (Values.ofProfile? d.profile), ← failure?_mapError, view, step, Registry.build,
    hkind]
  dsimp only
  rw [hbuild]
  rfl

/-- A node has no view exactly if it has a fault, which says why. -/
theorem view_eq_error_iff : (withPasses k o passes).view d n = .error e ↔ n.Fault d e := by
  constructor
  · intro h
    cases hkind : Registry.builtin.kind? n.kind with
    | none =>
      rw [view_of_no_kind hkind] at h
      cases h
      exact .unknownKind hkind
    | some kind =>
      cases hbuild : kind.build (d.resolvedProps n) with
      | error refusal =>
        obtain ⟨message, rfl⟩ := Node.refusal_of_kind hkind hbuild
        rw [view_of_refusal hkind hbuild] at h
        cases h
        exact .refused hkind hbuild
      | ok s =>
        rw [← failure?_eq_some_iff, failure?_view_of_build hkind hbuild,
          Option.map_eq_some_iff] at h
        obtain ⟨first, htexts, rfl⟩ := h
        exact .unscannable hkind hbuild htexts
  · intro h
    cases h with
    | unknownKind hkind => exact view_of_no_kind hkind
    | refused hkind hbuild => exact view_of_refusal hkind hbuild
    | unscannable hkind hbuild htexts =>
      rw [← failure?_eq_some_iff, failure?_view_of_build hkind hbuild, htexts]
      rfl

/-- A channel takes every view, so a node has no route exactly if it has a fault. -/
theorem failure?_route : failure? ((withPasses k o passes).route d n) = some e ↔ n.Fault d e := by
  have hadapt (v : View) : failure? (do
      let shown ← (k.adapter.adapt v).mapError ((withPasses k o passes).adapterFailure n.id)
      return (v, (⟨n.id, shown⟩ : Route))) = none := rfl
  rw [route, failure?_bind hadapt, Option.or_none, failure?_eq_some_iff, view_eq_error_iff]

end Compiler

open Compiler

/-- On a channel, with any options and any passes, a compile fails exactly if a node is faulty. It
fails as the first such node: the failure is structural, and it is that of an unknown kind, of a
kind that refuses the properties of the node, or of a text that cannot be scanned, with the kind or
the id of the node. Otherwise there is a plan with one route for each node, in their order, whatever
the checks find. -/
theorem compile_fails_at_fault (k : Channel) (o : Options) (passes : Pipeline) (d : Design) :
    ((∃ e, (withPasses k o passes).compile d = .error e) ↔ ∃ n ∈ d.graph.nodes, n.IsFaulty d) ∧
    (∀ e, (withPasses k o passes).compile d = .error e ↔ e.isStructural = true ∧
      ∃ before n after, d.graph.nodes = before ++ n :: after ∧ n.Fault d e ∧
        ∀ m ∈ before, ¬m.IsFaulty d) ∧
    ((∃ p, (withPasses k o passes).compile d = .ok p ∧
      p.plan.routes.map (·.node) = d.graph.nodes.map (·.id)) ↔
        ∀ n ∈ d.graph.nodes, ¬n.IsFaulty d) := by
  have hfailure : failure? ((withPasses k o passes).compile d) =
      d.graph.nodes.findSome? fun n => failure? ((withPasses k o passes).route d n) := by
    rw [compile, failure?_map, failure?_mapM]
  have hnone (n : Node) :
      failure? ((withPasses k o passes).route d n) = none ↔ ¬n.IsFaulty d := by
    rw [Node.isFaulty_iff, Option.eq_none_iff_forall_ne_some, not_exists]
    exact forall_congr' fun e => not_congr failure?_route
  have hok : failure? ((withPasses k o passes).compile d) = none ↔
      ∀ n ∈ d.graph.nodes, ¬n.IsFaulty d := by
    simp only [hfailure, List.findSome?_eq_none_iff, hnone]
  refine ⟨?_, fun e => ?_, ?_⟩
  · simp only [← failure?_eq_some_iff, ← Option.ne_none_iff_exists', ne_eq, hok, not_forall,
      not_not, exists_prop]
  · rw [← failure?_eq_some_iff, hfailure]
    simp only [List.findSome?_eq_some_iff, failure?_route, hnone]
    refine ⟨fun h => ⟨?_, h⟩, fun h => h.2⟩
    obtain ⟨before, n, after, -, hfault, -⟩ := h
    exact hfault.isStructural
  · rw [← hok, failure?_eq_none_iff]
    constructor
    · intro h
      obtain ⟨p, hp, -⟩ := h
      exact ⟨p, hp⟩
    · intro h
      obtain ⟨p, hp⟩ := h
      exact ⟨p, hp, routes_nodes hp⟩

/-- A design with a text that cannot be scanned, and behind it a node of no kind. -/
def torn : Design where
  schema := "chat.design/v1"
  bot := ⟨"bot", ["web"]⟩
  version := ⟨"v1", .development⟩
  entries := [⟨.globalStart, none, "hello"⟩]
  graph := {
    nodes := [
      ⟨"hello", "message", [("text", .str "Hello")], none, ["next"], false, none, none⟩,
      ⟨"name", "message", [("text", .str "You are \x7b\x7b name")], none, ["next"], false, none,
        none⟩,
      ⟨"vote", "poll", [], none, [], true, none, none⟩]
    edges := [⟨"hello", "name", "next", 1, none, none⟩, ⟨"name", "vote", "next", 1, none, none⟩] }
  profile := none
  props := []

example : failure? ((withPasses .webchat .default .standard).compile torn) =
    some (.spec "name"
      "Template scan error at offset 8: unterminated block, expected '\x7d\x7d'") := by
  decide +kernel

end ChatPlan
