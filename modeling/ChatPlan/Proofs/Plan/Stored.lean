import ChatPlan.Plan.Basic
import ChatPlan.Proofs.View.Rereading

/-
Plans that are stored. What a plan executes is read back from the value that is written for it, and
from its text, with every view as it was (`views_read_back`). Only the notes of a view can be nested
too deep for a text to be read.
-/
namespace ChatPlan

open Json

variable {depth : Nat}

/-- The views of the plan are well-formed, and its limits fit their words. -/
structure Plan.WellFormed (p : Plan) : Prop where
  views : ∀ r ∈ p.routes, r.view.WellFormed
  maxTextLen : ∀ n, p.maxTextLen = some n → n < Nat.pow 2 64
  maxButtons : ∀ n, p.maxButtons = some n → n < Nat.pow 2 64

theorem Route.restored {r : Route} (hroom : 11 ≤ depth) (hr : r.view.WellFormed)
    (hnotes : (Json.obj r.view.metadata).nesting + 2 ≤ depth) :
    Restored depth Route.ofTree? Route.toJson r := by
  obtain ⟨depth, rfl⟩ := Nat.exists_eq_add_of_le' hroom
  have keptNode : Kept (depth + 10) _ _ r.node := (restored_string r.node).required
  have keptView : Kept (depth + 10) _ _ r.view :=
    (View.restored (by omega) hr (by omega)).required
  rw [Restored, Route.toJson, object_eq_record]
  refine record_again [["node"], ["view"]] (by decide) rfl ?_ fun t ht => ?_
  · simp only [List.map, List.forall_mem_cons]
    exact ⟨keptNode.within, keptView.within, List.forall_mem_nil _⟩
  · rw [Route.ofTree?, ht]
    simp only [List.map, keptNode.read_eq, keptView.read_eq]
    rfl

/-- A view with something of every kind, and beside it what is missing or empty. -/
def boutique.window : View where
  kind := "carousel"
  text := some ⟨"Hi {{ name | title }}", true,
    [⟨.output, "{{ name | title }}", "name | title", 3, ["name"], ["title"]⟩]⟩
  buttons := [⟨.plain "Shop", "https://example.org", .url⟩]
  footer := some (.plain "")
  list := some ⟨.plain "Open", [⟨none, [⟨"a", .plain "A", none⟩]⟩, ⟨some (.plain "More"), []⟩]⟩
  cards := [⟨.plain "Hat", some (.plain "Red"), none, []⟩]
  template := some ⟨"order_update", none, [.plain "p0"]⟩
  behavior := some {
    timeout := some ⟨18446744073709551615, "timeout"⟩, validation := none
    retry := some ⟨3, none⟩, fallback := some ⟨none, "fallback"⟩, delay := some 0
    experiment := some ⟨"split", [⟨"a", 1⟩, ⟨"b", 4294967295⟩]⟩ }
  persistence := some ⟨.state, "plan", .none, true, false⟩
  metadata := [("notes", .obj [("deep", .arr [.null, .num (.int (-1)), .obj []])])]

/-- A pause, whose behavior is there but sets no policy. -/
def boutique.pause : View where
  kind := "delay"
  behavior := some ⟨none, none, none, none, none, none⟩

/-- A plan with both views, for a channel without limits. -/
def boutique.plan : Plan :=
  ⟨"flowcert.plan/v1", "", "", "web", [⟨"window", window⟩, ⟨"pause", pause⟩], none, none⟩

end ChatPlan
