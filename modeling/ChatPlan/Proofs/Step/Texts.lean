import ChatPlan.Proofs.Step.Kinds
import ChatPlan.Proofs.Template.Segments

/-
The texts of a view. `View.Each` says of all of them, place by place, what is to be said of each.
-/
namespace ChatPlan

open Template

/-- All texts of a list item satisfy `P`. -/
structure ListItem.Each (P : TemplateText → Prop) (i : ListItem) : Prop where
  title : P i.title
  description : ∀ t, i.description = some t → P t

/-- All texts of a list section satisfy `P`. -/
structure ListSection.Each (P : TemplateText → Prop) (s : ListSection) : Prop where
  title : ∀ t, s.title = some t → P t
  items : ∀ i ∈ s.items, i.Each P

/-- All texts of a list satisfy `P`. -/
structure Picker.Each (P : TemplateText → Prop) (p : Picker) : Prop where
  buttonLabel : P p.buttonLabel
  sections : ∀ s ∈ p.sections, s.Each P

/-- All texts of a card satisfy `P`. -/
structure Card.Each (P : TemplateText → Prop) (c : Card) : Prop where
  title : P c.title
  description : ∀ t, c.description = some t → P t
  buttons : ∀ b ∈ c.buttons, P b.label

/-- All texts of a view satisfy `P`. -/
structure View.Each (P : TemplateText → Prop) (v : View) : Prop where
  text : ∀ t, v.text = some t → P t
  header : ∀ t, v.header = some t → P t
  footer : ∀ t, v.footer = some t → P t
  buttons : ∀ b ∈ v.buttons, P b.label
  list : ∀ l, v.list = some l → l.Each P
  cards : ∀ c ∈ v.cards, c.Each P
  params : ∀ m, v.template = some m → ∀ t ∈ m.params, P t

variable {P : TemplateText → Prop} {place : String}

/-! ## The fields of a view -/

/-- All texts among the fields satisfy `P`. -/
def Fields.Each (P : TemplateText → Prop) (fs : Fields) : Prop := ∀ f ∈ fs, P f.2

theorem Fields.each_append {a b : Fields} : Each P (a ++ b) ↔ Each P a ∧ Each P b :=
  List.forall_mem_append

theorem Fields.each_cons {f : String × TemplateText} {fs : Fields} :
    Each P (f :: fs) ↔ P f.2 ∧ Each P fs := List.forall_mem_cons

theorem Fields.each_optional {t : Option TemplateText} :
    Each P (optionalField place t) ↔ ∀ s, t = some s → P s := by
  simp [Each, optionalField]

theorem forall_mem_mapIdx {α β : Type} {xs : List α} {f : Nat → α → β} {Q : β → Prop}
    {R : α → Prop} (hf : ∀ i x, Q (f i x) ↔ R x) : (∀ y ∈ xs.mapIdx f, Q y) ↔ ∀ x ∈ xs, R x := by
  constructor
  · intro h x hx
    obtain ⟨i, hi, rfl⟩ := List.mem_iff_getElem.1 hx
    exact (hf i _).1 (h _ (List.mem_mapIdx.2 ⟨i, hi, rfl⟩))
  · intro h y hy
    obtain ⟨i, hi, rfl⟩ := List.mem_mapIdx.1 hy
    exact (hf i _).2 (h _ (List.getElem_mem hi))

theorem Fields.each_flatten {α : Type} {xs : List α} {f : Nat → α → Fields} {Q : α → Prop}
    (hf : ∀ i x, Each P (f i x) ↔ Q x) : Each P (xs.mapIdx f).flatten ↔ ∀ x ∈ xs, Q x := by
  rw [← forall_mem_mapIdx hf, Each, List.forall_mem_flatten]
  rfl

theorem Fields.each_toList {α : Type} {o : Option α} {f : α → Fields} {Q : α → Prop}
    (hf : ∀ x, Each P (f x) ↔ Q x) : Each P (o.toList.flatMap f) ↔ ∀ x, o = some x → Q x := by
  cases o <;> simp [← hf, Each]

theorem ListItem.each_fields {i : ListItem} : Fields.Each P (i.fields place) ↔ i.Each P := by
  rw [fields, Fields.each_cons, Fields.each_optional]
  exact ⟨fun h => ⟨h.1, h.2⟩, fun h => ⟨h.title, h.description⟩⟩

theorem ListSection.each_fields {s : ListSection} : Fields.Each P (s.fields place) ↔ s.Each P := by
  rw [fields, Fields.each_append, Fields.each_optional,
    Fields.each_flatten fun _ i => ListItem.each_fields (i := i)]
  exact ⟨fun h => ⟨h.1, h.2⟩, fun h => ⟨h.title, h.items⟩⟩

theorem Picker.each_fields {p : Picker} : Fields.Each P (p.fields place) ↔ p.Each P := by
  rw [fields, Fields.each_cons, Fields.each_flatten fun _ s => ListSection.each_fields (s := s)]
  exact ⟨fun h => ⟨h.1, h.2⟩, fun h => ⟨h.buttonLabel, h.sections⟩⟩

theorem each_buttonFields {bs : List Button} :
    Fields.Each P (buttonFields place bs) ↔ ∀ b ∈ bs, P b.label :=
  forall_mem_mapIdx fun _ _ => Iff.rfl

theorem Card.each_fields {c : Card} : Fields.Each P (c.fields place) ↔ c.Each P := by
  rw [fields, Fields.each_cons, Fields.each_append, Fields.each_optional, each_buttonFields]
  exact ⟨fun h => ⟨h.1, h.2.1, h.2.2⟩, fun h => ⟨h.title, h.description, h.buttons⟩⟩

theorem ApprovedTemplate.each_fields {m : ApprovedTemplate} :
    Fields.Each P (m.fields place) ↔ ∀ t ∈ m.params, P t :=
  forall_mem_mapIdx fun _ _ => Iff.rfl

/-- The fields of a view are its texts, with nothing left out. -/
theorem View.each_fields {v : View} : Fields.Each P v.fields ↔ v.Each P := by
  simp only [fields, Fields.each_append, Fields.each_optional, each_buttonFields,
    Fields.each_toList fun _ => Picker.each_fields,
    Fields.each_flatten fun _ c => Card.each_fields (c := c),
    Fields.each_toList fun _ => ApprovedTemplate.each_fields]
  constructor
  · intro h
    obtain ⟨⟨⟨⟨⟨⟨htext, hheader⟩, hfooter⟩, hbuttons⟩, hlist⟩, hcards⟩, hparams⟩ := h
    exact ⟨htext, hheader, hfooter, hbuttons, hlist, hcards, hparams⟩
  · intro h
    exact ⟨⟨⟨⟨⟨⟨h.text, h.header⟩, h.footer⟩, h.buttons⟩, h.list⟩, h.cards⟩, h.params⟩

theorem View.Each.and {Q : TemplateText → Prop} {v : View} (hP : v.Each P) (hQ : v.Each Q) :
    v.Each fun t => P t ∧ Q t :=
  each_fields.1 fun f hf => ⟨each_fields.2 hP f hf, each_fields.2 hQ f hf⟩

theorem View.Each.imp {Q : TemplateText → Prop} {v : View} (hP : v.Each P)
    (hPQ : ∀ t, P t → Q t) : v.Each Q :=
  each_fields.1 fun f hf => hPQ f.2 (each_fields.2 hP f hf)

/-! ## Scanned texts -/

/-- The text stands with the blocks that a scan finds in it, and is templated if there are any. -/
structure TemplateText.IsScanned (t : TemplateText) : Prop where
  blocks : scan t.raw = .ok t.blocks
  templated : t.templated = true ↔ t.blocks ≠ []

theorem TemplateText.isScanned_of_ofRaw {s : String} {t : TemplateText} (h : ofRaw s = .ok t) :
    t.IsScanned := by
  obtain ⟨rfl, htemplated, hblocks⟩ := ofRaw_eq_ok h
  refine ⟨?_, by simp [htemplated]⟩
  rcases hblocks with ⟨-, hscan⟩ | ⟨hworth, hnone⟩
  · exact hscan
  · rw [scan_of_not_worth hworth, hnone]

section Scanned

open TemplateText

theorem isScanned_of_ofRaw_some {s : String} {t : TemplateText} (h : ofRaw s = .ok t) :
    ∀ u, some t = some u → u.IsScanned := by
  intro u hu
  cases hu
  exact isScanned_of_ofRaw h

theorem isScanned_of_scanOptional {s : Option String} {o : Option TemplateText}
    (h : scanOptional s = .ok o) : ∀ t, o = some t → t.IsScanned := by
  rintro t rfl
  obtain ⟨raw, -, hraw⟩ := scanOptional_eq_some.1 h
  exact isScanned_of_ofRaw hraw

theorem forall_mem_of_mapM {α β : Type} {f : α → Except ScanError β} {xs : List α} {ys : List β}
    {Q : β → Prop} (h : xs.mapM f = .ok ys) (hQ : ∀ x y, f x = .ok y → Q y) : ∀ y ∈ ys, Q y := by
  intro y hy
  obtain ⟨x, -, hx⟩ := exists_mem_of_forall₂ (mapM_eq_ok_iff.1 h) hy
  exact hQ x y hx

theorem Button.isScanned_of_show (c : ButtonContent) (b : Button) (h : c.show = .ok b) :
    b.label.IsScanned := by
  simp only [ButtonContent.show, bind_eq_ok_iff, pure_eq_ok_iff] at h
  obtain ⟨label, hlabel, rfl⟩ := h
  exact isScanned_of_ofRaw hlabel

theorem ListItem.isScanned_of_show (c : ItemContent) (i : ListItem) (h : c.show = .ok i) :
    i.Each IsScanned := by
  simp only [ItemContent.show, bind_eq_ok_iff, pure_eq_ok_iff] at h
  obtain ⟨title, htitle, description, hdescription, rfl⟩ := h
  exact ⟨isScanned_of_ofRaw htitle, isScanned_of_scanOptional hdescription⟩

theorem ListSection.isScanned_of_show (c : SectionContent) (s : ListSection) (h : c.show = .ok s) :
    s.Each IsScanned := by
  simp only [SectionContent.show, bind_eq_ok_iff, pure_eq_ok_iff] at h
  obtain ⟨items, hitems, title, htitle, rfl⟩ := h
  exact ⟨isScanned_of_scanOptional htitle, forall_mem_of_mapM hitems ListItem.isScanned_of_show⟩

theorem Card.isScanned_of_show (c : CardContent) (card : Card) (h : c.show = .ok card) :
    card.Each IsScanned := by
  simp only [CardContent.show, bind_eq_ok_iff, pure_eq_ok_iff] at h
  obtain ⟨title, htitle, description, hdescription, buttons, hbuttons, rfl⟩ := h
  exact ⟨isScanned_of_ofRaw htitle, isScanned_of_scanOptional hdescription,
    forall_mem_of_mapM hbuttons Button.isScanned_of_show⟩

theorem View.isScanned_of_show {c : Content} {before v : View} (hbefore : before.Each IsScanned)
    (h : c.show before = .ok v) : v.Each IsScanned := by
  cases c with
  | message text =>
    simp only [Content.show, bind_eq_ok_iff, pure_eq_ok_iff] at h
    obtain ⟨t, ht, rfl⟩ := h
    exact { hbefore with text := isScanned_of_ofRaw_some ht }
  | media url mediaType caption =>
    simp only [Content.show, bind_eq_ok_iff, pure_eq_ok_iff] at h
    obtain ⟨t, ht, rfl⟩ := h
    exact { hbefore with text := isScanned_of_scanOptional ht }
  | buttons text header footer answers =>
    simp only [Content.show, bind_eq_ok_iff, pure_eq_ok_iff] at h
    obtain ⟨t, ht, top, htop, bottom, hbottom, bs, hbs, rfl⟩ := h
    exact { hbefore with
      text := isScanned_of_ofRaw_some ht
      header := isScanned_of_scanOptional htop
      footer := isScanned_of_scanOptional hbottom
      buttons := forall_mem_of_mapM hbs Button.isScanned_of_show }
  | list text header footer buttonLabel sections =>
    simp only [Content.show, bind_eq_ok_iff, pure_eq_ok_iff] at h
    obtain ⟨t, ht, top, htop, bottom, hbottom, ss, hss, label, hlabel, rfl⟩ := h
    exact { hbefore with
      text := isScanned_of_ofRaw_some ht
      header := isScanned_of_scanOptional htop
      footer := isScanned_of_scanOptional hbottom
      list := by
        intro l hl
        cases hl
        exact ⟨isScanned_of_ofRaw hlabel, forall_mem_of_mapM hss ListSection.isScanned_of_show⟩ }
  | carousel text cards =>
    simp only [Content.show, bind_eq_ok_iff, pure_eq_ok_iff] at h
    obtain ⟨t, ht, cs, hcs, rfl⟩ := h
    exact { hbefore with
      text := isScanned_of_scanOptional ht
      cards := forall_mem_of_mapM hcs Card.isScanned_of_show }
  | confirm text yesLabel noLabel =>
    simp only [Content.show, bind_eq_ok_iff, pure_eq_ok_iff] at h
    obtain ⟨t, ht, yes, hyes, no, hno, rfl⟩ := h
    exact { hbefore with
      text := isScanned_of_ofRaw_some ht
      buttons := by
        rw [List.forall_mem_cons, List.forall_mem_singleton]
        exact ⟨Button.isScanned_of_show _ _ hyes, Button.isScanned_of_show _ _ hno⟩ }
  | input text inputType =>
    simp only [Content.show, bind_eq_ok_iff, pure_eq_ok_iff] at h
    obtain ⟨t, ht, rfl⟩ := h
    exact { hbefore with text := isScanned_of_ofRaw_some ht }
  | pause =>
    cases h
    exact hbefore
  | approved name language params =>
    simp only [Content.show, bind_eq_ok_iff, pure_eq_ok_iff] at h
    obtain ⟨ts, hts, rfl⟩ := h
    exact { hbefore with
      params := by
        intro m hm
        cases hm
        exact forall_mem_of_mapM hts fun _ _ => isScanned_of_ofRaw }

/-- All texts that a step shows are scanned. -/
theorem Step.isScanned_of_view {s : Step} {values : Values} {v : View}
    (h : s.view values = .ok v) : v.Each IsScanned := by
  obtain ⟨shown, hshown, rfl⟩ := Step.view_eq_ok h
  have hblank : View.Each IsScanned { kind := s.kind, metadata := s.metadata } :=
    ⟨nofun, nofun, nofun, nofun, nofun, nofun, nofun⟩
  exact { View.isScanned_of_show hblank hshown with }

end Scanned

end ChatPlan
