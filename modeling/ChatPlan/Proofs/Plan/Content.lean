import ChatPlan.Proofs.Plan.Compile
import ChatPlan.Proofs.Step.Wording

/-
What a plan shows is what the design says. A route shows the wording that the properties of its node
give, character for character; a channel drops the buttons that it cannot show, and changes nothing
else (`content_kept`).
-/
namespace ChatPlan

open Compiler

/-- The buttons that the channel can show. -/
def Channel.shown (k : Channel) (bs : List Button) : List Button :=
  bs.filter fun b => b.kind ∈ k.capabilities.buttonKinds

namespace Channel

variable {k : Channel} {v : View}

theorem filter_keeps (k : Channel) (bs : List Button) : bs.filter k.keeps = k.shown bs := by
  refine List.filter_congr fun b _ => ?_
  rw [keeps, Capabilities.shows, List.contains_eq_mem]

theorem mem_of_mem_shown {bs : List Button} {b : Button} (hb : b ∈ k.shown bs) : b ∈ bs :=
  List.mem_of_mem_filter hb

/-- Adapting a view drops buttons and writes notes. -/
theorem adapt_eq (k : Channel) (v : View) : k.adapt v =
    { v with
      buttons := k.shown v.buttons
      cards := v.cards.map fun card => { card with buttons := k.shown card.buttons }
      metadata := (k.adapt v).metadata } := by
  simp only [adapt, filter_keeps]

theorem each_adapt {P : TemplateText → Prop} (h : v.Each P) : (k.adapt v).Each P := by
  rw [adapt_eq]
  exact { h with
    buttons := fun b hb => h.buttons b (mem_of_mem_shown hb)
    cards := by
      intro c hc
      obtain ⟨card, hcard, rfl⟩ := List.mem_map.1 hc
      have hold := h.cards card hcard
      exact { hold with buttons := fun b hb => hold.buttons b (mem_of_mem_shown hb) } }

end Channel

/-- The compiler for a channel with the kinds that are always there, and some passes. -/
abbrev Compiler.withPasses (k : Channel) (o : Options) (passes : Pipeline) : Compiler :=
  ⟨.builtin, k.adapter, o, passes⟩

/-- Every route of a plan shows its node. The view of the node has the wording of its properties;
the route drops the buttons that the channel cannot show, at the top and in cards, and has its own
notes. All texts stand with the blocks that a scan finds in them. -/
theorem content_kept (k : Channel) (o : Options) (passes : Pipeline) {d : Design} {p : Compilation}
    (hp : (withPasses k o passes).compile d = .ok p) :
    p.plan.routes.length = d.graph.nodes.length ∧
      ∀ (i : Nat) (r : Route), p.plan.routes[i]? = some r → ∃ n v, d.graph.nodes[i]? = some n ∧
        (withPasses k o passes).view d n = .ok v ∧ r.node = n.id ∧
          r.view = { v with
            buttons := k.shown v.buttons
            cards := v.cards.map fun card => { card with buttons := k.shown card.buttons }
            metadata := r.view.metadata } ∧
          v.wording = wordingOf n.kind (d.resolvedProps n) ∧
            r.view.Each TemplateText.IsScanned := by
  obtain ⟨rs, hrs, rfl⟩ := compile_eq_ok_iff.1 hp
  refine ⟨by rw [assemble, List.length_map, hrs.length_eq], fun i r hr => ?_⟩
  obtain ⟨q, hq, rfl⟩ := Option.map_eq_some_iff.1 (List.getElem?_map ▸ hr)
  obtain ⟨n, hn, hroute⟩ := getElem?_of_forall₂ hrs.flip hq
  obtain ⟨hv, shown, hshown, hr⟩ := route_eq_ok_iff.1 hroute
  obtain rfl : k.adapt q.1 = shown := Except.ok.inj hshown
  obtain ⟨kind, s, hkind, hs, hsv⟩ := view_eq_ok hv
  obtain ⟨hmem, hname⟩ := Registry.mem_builtinKinds hkind
  refine ⟨n, q.1, hn, hv, by rw [hr], ?_, ?_, ?_⟩
  · rw [hr]
    exact k.adapt_eq q.1
  · rw [← hname]
    exact Kind.wording_of_view hmem hs hsv
  · rw [hr]
    exact Channel.each_adapt (Step.isScanned_of_view hsv)

/-- A question with a button that calls, and one that answers. -/
def kiosk.ask : Node where
  id := "ask"
  kind := "buttons"
  props := [
    ("buttons", .arr [
      .obj [("phone", .str "112"), ("text", .str "Call {{ name }}"), ("type", .str "call")],
      .obj [("label", .str "Wait {# here #}")]]),
    ("text", .str "What now?")]
  propsRef := none
  outputs := ["Wait {# here #}"]
  isFinal := true
  position := none
  size := none

/-- A design that asks one question. -/
def kiosk : Design where
  schema := "chat.design/v1"
  bot := ⟨"bot", ["web"]⟩
  version := ⟨"v1", .development⟩
  entries := [⟨.globalStart, none, "ask"⟩]
  graph := { nodes := [kiosk.ask], edges := [] }
  profile := none
  props := []

/-- On a channel that cannot call, the other button stays as it was written. -/
theorem kiosk_content_kept : ∃ p r,
    (withPasses .webchat .default .standard).compile kiosk = .ok p ∧ p.plan.routes[0]? = some r ∧
      r.node = "ask" ∧ r.view.text.map (·.raw) = some "What now?" ∧
        r.view.buttons.map Button.wording = [some "Wait {# here #}"] ∧
          r.view.Each TemplateText.IsScanned := by
  have hroutes : (kiosk.graph.nodes.mapM
      ((withPasses .webchat .default .standard).route kiosk)).map (·.map (·.2.node)) =
        .ok ["ask"] := by
    decide +kernel
  have hview : ((withPasses .webchat .default .standard).view kiosk kiosk.ask).map
      (fun v => (Channel.webchat.shown v.buttons).map Button.wording) =
        .ok [some "Wait {# here #}"] := by
    decide +kernel
  obtain ⟨rs, hrs, -⟩ := map_eq_ok_iff.1 hroutes
  have hp : (withPasses .webchat .default .standard).compile kiosk = .ok _ :=
    map_eq_ok_iff.2 ⟨rs, hrs, rfl⟩
  obtain ⟨hlength, hkept⟩ := content_kept .webchat .default .standard hp
  obtain ⟨r, hr⟩ := List.length_eq_one_iff.1 hlength
  have hplace : _[0]? = some r := congrArg (·[0]?) hr
  obtain ⟨n, v, hn, hv, hnode, hshown, hwording, hscanned⟩ := hkept 0 r hplace
  obtain rfl : kiosk.ask = n := Option.some.inj hn
  rw [hv] at hview
  refine ⟨_, r, hp, hplace, hnode, ?_, ?_, hscanned⟩
  · rw [hshown]
    exact (congrArg Wording.text hwording).trans (by decide +kernel)
  · rw [hshown]
    exact Except.ok.inj hview

end ChatPlan
