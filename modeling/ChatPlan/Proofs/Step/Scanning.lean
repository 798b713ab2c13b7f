import ChatPlan.Proofs.Results
import ChatPlan.Proofs.Template.Segments
import ChatPlan.Step.Basic

/-
Texts that cannot be scanned. Showing a step scans the texts of its content one by one, in a fixed
order. `Scans` says this of a part: it fails as the first of its texts that cannot be scanned, and
as nothing else. Parts are put together by appending their texts (`Scans.bind`).
-/
namespace ChatPlan

open Template

/-! ## The texts of a content, in the order in which they are scanned -/

def ItemContent.texts (i : ItemContent) : List String := i.title :: i.description.toList

/-- The items of a section are scanned before its title. -/
def SectionContent.texts (s : SectionContent) : List String :=
  s.items.flatMap ItemContent.texts ++ s.title.toList

def CardContent.texts (c : CardContent) : List String :=
  c.title :: c.description.toList ++ c.buttons.map (·.label)

/-- The label that opens a list is scanned after its sections. -/
def Content.texts : Content → List String
  | .message text => [text]
  | .media _ _ caption => caption.toList
  | .buttons text header footer answers =>
    text :: header.toList ++ footer.toList ++ answers.map (·.label)
  | .list text header footer buttonLabel sections =>
    text :: header.toList ++ footer.toList ++ sections.flatMap SectionContent.texts ++ [buttonLabel]
  | .carousel text cards => text.toList ++ cards.flatMap CardContent.texts
  | .confirm text yesLabel noLabel => [text, yesLabel, noLabel]
  | .input text _ => [text]
  | .pause => []
  | .approved _ _ params => params

/-- How the first of some texts that cannot be scanned fails. -/
def unscannable? (texts : List String) : Option ScanError :=
  texts.findSome? fun t => failure? (scan t)

theorem unscannable?_eq_some_iff {texts : List String} {e : ScanError} :
    unscannable? texts = some e ↔ ∃ before t after, texts = before ++ t :: after ∧
      scan t = .error e ∧ ∀ u ∈ before, ∃ blocks, scan u = .ok blocks := by
  simp only [unscannable?, List.findSome?_eq_some_iff, failure?_eq_some_iff, failure?_eq_none_iff]

theorem unscannable?_eq_none_iff {texts : List String} :
    unscannable? texts = none ↔ ∀ t ∈ texts, ∃ blocks, scan t = .ok blocks := by
  simp only [unscannable?, List.findSome?_eq_none_iff, failure?_eq_none_iff]

theorem unscannable?_append (texts later : List String) :
    unscannable? (texts ++ later) = (unscannable? texts).or (unscannable? later) :=
  List.findSome?_append

/-! ## Parts -/

/-- The part fails as the first of these texts that cannot be scanned. -/
def Scans {α : Type} (x : Except ScanError α) (texts : List String) : Prop :=
  failure? x = unscannable? texts

namespace Scans

variable {α β : Type} {x : Except ScanError α} {texts : List String}

theorem pure (a : α) : Scans (Pure.pure a) [] := rfl

theorem bind {f : α → Except ScanError β} {later : List String} (hx : Scans x texts)
    (hf : ∀ a, Scans (f a) later) : Scans (x >>= f) (texts ++ later) := by
  rw [Scans, failure?_bind hf, hx, unscannable?_append]

theorem bind_pure {f : α → β} (hx : Scans x texts) :
    Scans (x >>= fun a => Pure.pure (f a)) texts := by
  rw [← List.append_nil texts]
  exact hx.bind fun a => pure (f a)

theorem map {f : α → β} (hx : Scans x texts) : Scans (x.map f) texts := by
  rw [Scans, failure?_map, hx]

theorem mapM {f : β → Except ScanError α} {parts : β → List String}
    (hf : ∀ b, Scans (f b) (parts b)) (l : List β) : Scans (l.mapM f) (l.flatMap parts) := by
  rw [Scans, failure?_mapM]
  induction l with
  | nil => rfl
  | cons b l ih =>
    rw [List.findSome?_cons, hf, ih, List.flatMap_cons, unscannable?_append]
    cases unscannable? (parts b) <;> rfl

/-- A text that is not worth a scan would have no blocks. -/
theorem ofRaw (text : String) : Scans (TemplateText.ofRaw text) [text] := by
  have hone : unscannable? [text] = failure? (scan text) := by
    rw [unscannable?, List.findSome?_singleton]
  rw [Scans, hone, TemplateText.ofRaw]
  split
  · rw [failure?_map]
  · rename_i hworth
    rw [scan_of_not_worth (Bool.eq_false_iff.2 hworth)]
    rfl

theorem optional (text : Option String) : Scans (scanOptional text) text.toList := by
  cases text with
  | none => rfl
  | some text => exact (ofRaw text).map

theorem button (b : ButtonContent) : Scans b.show [b.label] := (ofRaw b.label).bind_pure

theorem buttons (bs : List ButtonContent) :
    Scans (bs.mapM ButtonContent.show) (bs.map (·.label)) := by
  rw [List.map_eq_flatMap]
  exact mapM button bs

theorem item (i : ItemContent) : Scans i.show i.texts :=
  (ofRaw i.title).bind fun _ => (optional i.description).bind_pure

theorem group (s : SectionContent) : Scans s.show s.texts :=
  (mapM item s.items).bind fun _ => (optional s.title).bind_pure

theorem card (c : CardContent) : Scans c.show c.texts :=
  ((ofRaw c.title).bind fun _ => (optional c.description).bind fun _ =>
    (buttons c.buttons).bind_pure)

/-- A content is shown by scanning its texts in their order. -/
theorem content (c : Content) (v : View) : Scans (c.show v) c.texts := by
  cases c with
  | message text => exact (ofRaw text).bind_pure
  | media url mediaType caption => exact (optional caption).bind_pure
  | buttons text header footer answers =>
    simp only [Content.texts, List.append_assoc, List.cons_append]
    exact (ofRaw text).bind fun _ => (optional header).bind fun _ => (optional footer).bind fun _ =>
      (buttons answers).bind_pure
  | list text header footer buttonLabel sections =>
    simp only [Content.texts, List.append_assoc, List.cons_append]
    exact (ofRaw text).bind fun _ => (optional header).bind fun _ => (optional footer).bind fun _ =>
      (mapM group sections).bind fun _ => (ofRaw buttonLabel).bind_pure
  | carousel text cards =>
    exact (optional text).bind fun _ => (mapM card cards).bind_pure
  | confirm text yesLabel noLabel =>
    exact (ofRaw text).bind fun _ => (button ⟨yesLabel, "yes", .reply⟩).bind fun _ =>
      (button ⟨noLabel, "no", .reply⟩).bind_pure
  | input text inputType => exact (ofRaw text).bind_pure
  | pause => rfl
  | approved name language params =>
    have hparams := (mapM ofRaw params).bind_pure (f := fun ps =>
      { v with template := some ⟨name, language, ps⟩ })
    rwa [List.flatMap_singleton'] at hparams

theorem view (s : Step) (values : Values) : Scans (s.view values) s.content.texts :=
  (content s.content _).bind_pure

end Scans

end ChatPlan
