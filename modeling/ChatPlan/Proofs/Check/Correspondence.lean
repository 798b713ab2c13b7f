import ChatPlan.Proofs.Check.Errors
import Mathlib.Combinatorics.Hall.Basic
import Mathlib.Logic.Equiv.Basic
import Mathlib.Logic.Relator

/-
Outputs and the elements that they name. The check of outputs looks for an element for each output
and for an output for each element. This does not yet make the two correspond one to one: that takes
as many outputs as elements, and no outputs that together name too few. Where no output names two
elements, it takes that no element goes by two outputs, and the other way round
(`own_outputs_correspond`).
-/
namespace ChatPlan

section Relations

variable {α β : Type} {R : α → β → Prop}

/-- A relation that is total on both sides and unique on the right holds along a one-to-one
correspondence exactly if it is unique on the left. -/
theorem exists_equiv_iff_leftUnique (htotal : Relator.BiTotal R) (hunique : Relator.RightUnique R) :
    (∃ f : α ≃ β, ∀ a, R a (f a)) ↔ Relator.LeftUnique R := by
  constructor
  · rintro ⟨f, hf⟩ a a' b ha ha'
    have hsame : f a = f a' := (hunique (hf a) ha).trans (hunique (hf a') ha').symm
    exact f.injective hsame
  · intro hleft
    choose g hg using htotal.1
    have hinjective : Function.Injective g := fun a a' h => hleft (hg a) (h ▸ hg a')
    have hsurjective : Function.Surjective g := by
      intro b
      obtain ⟨a, ha⟩ := htotal.2 b
      exact ⟨a, hunique (hg a) ha⟩
    exact ⟨.ofBijective g ⟨hinjective, hsurjective⟩, hg⟩

theorem exists_equiv_iff_rightUnique (htotal : Relator.BiTotal R) (hunique : Relator.LeftUnique R) :
    (∃ f : α ≃ β, ∀ a, R a (f a)) ↔ Relator.RightUnique R := by
  have hswapped : (∃ f : β ≃ α, ∀ b, flip R b (f b)) ↔ Relator.LeftUnique (flip R) :=
    exists_equiv_iff_leftUnique ⟨htotal.2, htotal.1⟩ hunique.flip
  constructor
  · rintro ⟨f, hf⟩
    have hback : ∀ b, R (f.symm b) b := fun b => by simpa using hf (f.symm b)
    exact (hswapped.1 ⟨f.symm, hback⟩).flip
  · intro hright
    obtain ⟨f, hf⟩ := hswapped.2 fun _ _ _ h h' => hright h h'
    exact ⟨f.symm, fun a => by simpa [flip] using hf (f.symm a)⟩

end Relations

namespace Outputs

/-- The outputs of a node that are not standard. -/
def ownOutputs (n : Node) : List String := n.outputs.filter (· ∉ standardOutputs)

/-- The node has outputs for the element, all of them standard. -/
def isStandard (n : Node) (e : Element) : Bool :=
  n.outputs.any e.isNamed && (n.outputs.filter e.isNamed).all (· ∈ standardOutputs)

/-- The elements without those for which only standard outputs stand. -/
def ownElements (n : Node) (es : List Element) : List Element := es.filter fun e => !isStandard n e

/-- The output at one place names the element at the other. -/
def Names (n : Node) (es : List Element) (i : Fin (ownOutputs n).length)
    (j : Fin (ownElements n es).length) : Prop :=
  ((ownElements n es).get j).isNamed ((ownOutputs n).get i) = true

instance (n : Node) (es : List Element) (i : Fin (ownOutputs n).length)
    (j : Fin (ownElements n es).length) : Decidable (Names n es i j) :=
  inferInstanceAs (Decidable (_ = true))

/-- Outputs and elements belong together one to one, each output with an element that it names. -/
def Correspond (n : Node) (es : List Element) : Prop :=
  ∃ f : Fin (ownOutputs n).length ≃ Fin (ownElements n es).length, ∀ i, Names n es i (f i)

/-- The places of the elements that an output names. -/
def namedBy (n : Node) (es : List Element) (i : Fin (ownOutputs n).length) :
    Finset (Fin (ownElements n es).length) :=
  Finset.univ.filter (Names n es i)

/-- No outputs together name fewer elements than they are. -/
def NameEnough (n : Node) (es : List Element) : Prop :=
  ∀ A : Finset (Fin (ownOutputs n).length), A.card ≤ (A.biUnion (namedBy n es)).card

variable {n : Node}

/-- Hall's condition for outputs and elements. -/
theorem correspond_iff {es : List Element} : Correspond n es ↔
    (ownOutputs n).length = (ownElements n es).length ∧ NameEnough n es := by
  have hhall : NameEnough n es ↔ ∃ f, Function.Injective f ∧ ∀ i, Names n es i (f i) := by
    rw [NameEnough, Finset.all_card_le_biUnion_card_iff_exists_injective]
    simp only [namedBy, Finset.mem_filter, Finset.mem_univ, true_and]
  rw [hhall]
  constructor
  · rintro ⟨f, hf⟩
    exact ⟨Fin.equiv_iff_eq.1 ⟨f⟩, f, f.injective, hf⟩
  · rintro ⟨hlength, f, hinjective, hf⟩
    have hbijective : Function.Bijective f :=
      (Fintype.bijective_iff_injective_and_card f).2 ⟨hinjective, by simpa using hlength⟩
    exact ⟨.ofBijective f hbijective, hf⟩

theorem mem_ownOutputs {o : String} : o ∈ ownOutputs n ↔ o ∈ n.outputs ∧ o ∉ standardOutputs := by
  simp [ownOutputs]

theorem isStandard_eq_false {e : Element} {o : String} (ho : o ∈ ownOutputs n)
    (hnamed : e.isNamed o = true) : isStandard n e = false := by
  obtain ⟨hmem, hown⟩ := mem_ownOutputs.1 ho
  rw [isStandard, Bool.and_eq_false_iff, List.all_eq_false]
  exact .inr ⟨o, List.mem_filter.2 ⟨hmem, hnamed⟩, by simpa using hown⟩

theorem exists_ownOutput {e : Element} {o : String} (ho : o ∈ n.outputs)
    (hnamed : e.isNamed o = true) (hown : isStandard n e = false) :
    ∃ o ∈ ownOutputs n, e.isNamed o = true := by
  have hany : n.outputs.any e.isNamed = true := List.any_eq_true.2 ⟨o, ho, hnamed⟩
  rw [isStandard, hany, Bool.true_and, List.all_eq_false] at hown
  obtain ⟨o', ho', hother⟩ := hown
  obtain ⟨hmem, hnamed'⟩ := List.mem_filter.1 ho'
  exact ⟨o', mem_ownOutputs.2 ⟨hmem, by simpa using hother⟩, hnamed'⟩

/-- Where outputs and elements fit, none is left alone. -/
theorem names_biTotal {p : Props} {element : String} {elements : Props → List Element}
    (hfits : Fits n p (.interactive element elements)) :
    Relator.BiTotal (Names n (elements p)) := by
  obtain ⟨hmapped, hnamed⟩ := hfits
  constructor
  · intro i
    have hi : (ownOutputs n).get i ∈ ownOutputs n := List.get_mem _ i
    obtain ⟨hmem, hown⟩ := mem_ownOutputs.1 hi
    obtain ⟨e, he, hin⟩ := (hmapped _ hmem).resolve_left hown
    have hname : e.isNamed ((ownOutputs n).get i) = true := List.contains_iff_mem.2 hin
    have hkept : e ∈ ownElements n (elements p) :=
      List.mem_filter.2 ⟨he, by rw [isStandard_eq_false hi hname]; rfl⟩
    obtain ⟨j, rfl⟩ := List.get_of_mem hkept
    exact ⟨j, hname⟩
  · intro j
    obtain ⟨he, hown⟩ := List.mem_filter.1 (List.get_mem (ownElements n (elements p)) j)
    obtain ⟨o, ho, hin⟩ := hnamed _ he
    obtain ⟨o', ho', hname⟩ :=
      exists_ownOutput ho (List.contains_iff_mem.2 hin) (by simpa using hown)
    obtain ⟨i, rfl⟩ := List.get_of_mem ho'
    exact ⟨i, hname⟩

/-- Where the check of outputs finds no error in an interactive node, the outputs that are not
standard are distinct, each of them names an element, and each element without a standard output has
one. They correspond one to one exactly if they are equally many and no outputs together name too
few. If no output names two of these elements, this is so exactly if no two outputs name one, and the
other way round. -/
theorem own_outputs_correspond {c : DesignContext} {kind : Kind} {element : String}
    {elements : Props → List Element} (hkind : c.registry.kind? n.kind = some kind)
    (hrule : kind.outputs = .interactive element elements)
    (hclean : hasErrors (nodeIssues c n) = false) :
    (ownOutputs n).Nodup ∧ Relator.BiTotal (Names n (elements (c.props n))) ∧
      (Correspond n (elements (c.props n)) ↔
        (ownOutputs n).length = (ownElements n (elements (c.props n))).length ∧
          NameEnough n (elements (c.props n))) ∧
      (Relator.RightUnique (Names n (elements (c.props n))) →
        (Correspond n (elements (c.props n)) ↔
          Relator.LeftUnique (Names n (elements (c.props n))))) ∧
      (Relator.LeftUnique (Names n (elements (c.props n))) →
        (Correspond n (elements (c.props n)) ↔
          Relator.RightUnique (Names n (elements (c.props n))))) := by
  obtain ⟨hnodup, hfits⟩ := (nodeIssues_clean hkind).1 hclean
  rw [hrule] at hfits
  have htotal := names_biTotal hfits
  exact ⟨hnodup.filter _, htotal, correspond_iff, exists_equiv_iff_leftUnique htotal,
    exists_equiv_iff_rightUnique htotal⟩

end Outputs

/-- A list of two plans, the second of which goes by the name of a standard output. -/
def hotline.plans : Node where
  id := "plans"
  kind := "list"
  props := [
    ("sections", .arr [.obj [("items", .arr [
      .obj [("id", .str "p1"), ("title", .str "Basic")],
      .obj [("id", .str "timeout"), ("title", .str "Later")]])]]),
    ("text", .str "Which plan?")]
  propsRef := none
  outputs := ["Basic", "timeout"]
  isFinal := false
  position := none
  size := none

/-- A question with one button and two outputs, one for its id and one for its label. -/
def hotline.menu : Node where
  id := "menu"
  kind := "buttons"
  props := [
    ("buttons", .arr [.obj [("id", .str "sales"), ("label", .str "Sales")]]),
    ("text", .str "How can we help?")]
  propsRef := none
  outputs := ["sales", "Sales"]
  isFinal := false
  position := none
  size := none

/-- The question leads to the plans or to a last word. -/
def hotline : Design where
  schema := "chat.design/v1"
  bot := ⟨"bot", ["web"]⟩
  version := ⟨"v1", .development⟩
  entries := [⟨.globalStart, none, "menu"⟩]
  graph := {
    nodes := [hotline.menu, hotline.plans,
      ⟨"end", "message", [("text", .str "Bye")], none, [], true, none, none⟩]
    edges := [⟨"menu", "plans", "sales", 1, none, none⟩, ⟨"menu", "end", "Sales", 2, none, none⟩,
      ⟨"plans", "end", "Basic", 1, none, none⟩, ⟨"plans", "end", "timeout", 2, none, none⟩] }
  profile := none
  props := []

/-- What the check of outputs looks at in the hotline. -/
abbrev hotline.context : DesignContext := contextOf .builtin .webchat .default hotline

namespace Outputs

/-- The first plan belongs to its title, and the second is left to the standard output. -/
theorem hotline_plans_correspond :
    hasErrors (nodeIssues hotline.context hotline.plans) = false ∧
      ownOutputs hotline.plans = ["Basic"] ∧
      Correspond hotline.plans (Props.itemElements (hotline.context.props hotline.plans)) := by
  have hclean : hasErrors (nodeIssues hotline.context hotline.plans) = false := by decide +kernel
  have hkind : Registry.builtin.kind? hotline.plans.kind = some (.ofContent "list" choicePolicies
      (.interactive "item" Props.itemElements) readList) := rfl
  obtain ⟨-, -, -, hone, -⟩ := own_outputs_correspond (c := hotline.context) hkind rfl hclean
  refine ⟨hclean, by decide +kernel, (hone ?_).2 ?_⟩
  · unfold Relator.RightUnique
    decide +kernel
  · unfold Relator.LeftUnique
    decide +kernel

/-- The check finds nothing in the hotline, although one button has two outputs. -/
theorem hotline_menu_accepted :
    issues hotline.context = [] ∧ hotline.menu ∈ hotline.graph.nodes ∧
      hasErrors (nodeIssues hotline.context hotline.menu) = false ∧
      ¬Correspond hotline.menu (Props.buttonElements (hotline.context.props hotline.menu)) := by
  refine ⟨by decide +kernel, .head _, by decide +kernel, ?_⟩
  rintro ⟨f, -⟩
  have houtputs : (ownOutputs hotline.menu).length = 2 := by decide +kernel
  have helements : (ownElements hotline.menu
      (Props.buttonElements (hotline.context.props hotline.menu))).length = 1 := by decide +kernel
  have hcard := Fin.equiv_iff_eq.1 ⟨f⟩
  omega

end Outputs

end ChatPlan
