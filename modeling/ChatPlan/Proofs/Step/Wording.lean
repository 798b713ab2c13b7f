import ChatPlan.Proofs.Step.Texts

/-
The wording of a view: the strings that are shown, each at its place. It is the wording that the
properties of the step give, character for character (`Kind.wording_of_view`).
-/
namespace ChatPlan

open Props

/-- The strings of a list item. -/
structure ItemWording where
  title : Option String
  description : Option String
deriving DecidableEq

/-- The strings of a list section. -/
structure SectionWording where
  title : Option String
  items : List ItemWording
deriving DecidableEq

/-- The strings of a card, with the labels of its buttons. -/
structure CardWording where
  title : Option String
  description : Option String
  buttons : List (Option String)
deriving DecidableEq

/-- The strings of a view: its buttons are their labels, and `opener` is the label of its list. -/
structure Wording where
  text : Option String := none
  header : Option String := none
  footer : Option String := none
  buttons : List (Option String) := []
  opener : Option String := none
  sections : List SectionWording := []
  cards : List CardWording := []
  params : List (Option String) := []
deriving DecidableEq

/-! ## Of views -/

def Button.wording (b : Button) : Option String := some b.label.raw

def ListItem.wording (i : ListItem) : ItemWording := ⟨some i.title.raw, i.description.map (·.raw)⟩

def ListSection.wording (s : ListSection) : SectionWording :=
  ⟨s.title.map (·.raw), s.items.map ListItem.wording⟩

def Card.wording (c : Card) : CardWording :=
  ⟨some c.title.raw, c.description.map (·.raw), c.buttons.map Button.wording⟩

/-- The strings that a view shows. -/
def View.wording (v : View) : Wording where
  text := v.text.map (·.raw)
  header := v.header.map (·.raw)
  footer := v.footer.map (·.raw)
  buttons := v.buttons.map Button.wording
  opener := v.list.map (·.buttonLabel.raw)
  sections := (v.list.map (·.sections.map ListSection.wording)).getD []
  cards := v.cards.map Card.wording
  params := (v.template.map (·.params.map fun t => some t.raw)).getD []

/-! ## Of properties -/

/-- The label of a button: the first of three properties that is a string. -/
def buttonWording (b : Props) : Option String := textAmong? b ["label", "text", "title"]

def itemWording (i : Props) : ItemWording :=
  ⟨textAmong? i ["title", "label"], text? i "description"⟩

def sectionWording (s : Props) : SectionWording :=
  ⟨text? s "title", (objects s "items").map itemWording⟩

def cardWording (c : Props) : CardWording :=
  ⟨text? c "title", text? c "description", (objects c "buttons").map buttonWording⟩

/-- What is filled into an approved template: a string, or a number in digits. -/
def paramWording : Json → Option String
  | .str s => some s
  | .num n => some (String.ofList n.chars)
  | _ => none

/-- The strings that a step of the kind finds in its properties. -/
def wordingOf (kind : String) (p : Props) : Wording :=
  match kind with
  | "media" => { text := text? p "caption" }
  | "delay" => {}
  | "buttons" =>
    { text := text? p "text"
      header := text? p "header"
      footer := text? p "footer"
      buttons := (objects p "buttons").map buttonWording }
  | "list" =>
    { text := text? p "text"
      header := text? p "header"
      footer := text? p "footer"
      opener := (text? p "button_label").getD "Options"
      sections := (objects p "sections").map sectionWording }
  | "carousel" => { text := text? p "text", cards := (objects p "cards").map cardWording }
  | "confirm" =>
    { text := text? p "text"
      buttons := [(text? p "yes_label").getD "Yes", (text? p "no_label").getD "No"] }
  | "hsm" =>
    { params := (list (((Members.get? p "template").bind Json.asObject?).getD []) "params").map
        paramWording }
  | _ => { text := text? p "text" }

/-! ## Wording is kept -/

variable {p : Props}

theorem raw_of_scanOptional {s : Option String} {o : Option TemplateText}
    (h : scanOptional s = .ok o) : o.map (·.raw) = s := by
  cases s with
  | none =>
    cases h
    rfl
  | some s =>
    obtain ⟨t, ht, rfl⟩ := map_eq_ok_iff.1 h
    rw [Option.map_some, TemplateText.raw_of_ofRaw ht]

theorem raw_of_scanOptional_some {s : Option String} {t : TemplateText}
    (h : scanOptional s = .ok (some t)) : some t.raw = s := raw_of_scanOptional h

theorem Button.ReadFrom.wording_eq (m : Props) (b : Button) (h : b.ReadFrom m) :
    b.wording = buttonWording m := raw_of_scanOptional_some h.label

theorem ListItem.ReadFrom.wording_eq (m : Props) (i : ListItem) (h : i.ReadFrom m) :
    i.wording = itemWording m := by
  rw [wording, itemWording, raw_of_scanOptional_some h.title, raw_of_scanOptional h.description]

theorem ListSection.ReadFrom.wording_eq (m : Props) (s : ListSection) (h : s.ReadFrom m) :
    s.wording = sectionWording m := by
  rw [wording, sectionWording, raw_of_scanOptional h.title,
    map_eq_of_forall₂ h.items ListItem.ReadFrom.wording_eq]

theorem Card.ReadFrom.wording_eq (m : Props) (c : Card) (h : c.ReadFrom m) :
    c.wording = cardWording m := by
  rw [wording, cardWording, raw_of_scanOptional_some h.title, raw_of_scanOptional h.description,
    map_eq_of_forall₂ h.buttons Button.ReadFrom.wording_eq]

theorem paramWording_eq {i : Nat} {j : Json} {s : String} {t : TemplateText}
    (h : readParam i j = .ok s) (ht : TemplateText.ofRaw s = .ok t) :
    some t.raw = paramWording j := by
  rw [TemplateText.raw_of_ofRaw ht]
  cases j <;> cases h <;> rfl

theorem wording_message {c : Content} {kind : String} {metadata : Props} {v : View}
    (h : readMessage p = .ok c) (hshow : c.show { kind, metadata } = .ok v) :
    v.wording = { text := text? p "text" } := by
  obtain ⟨t, ht, rfl⟩ := shown_message h hshow
  change ({ text := some t.raw } : Wording) = { text := text? p "text" }
  rw [raw_of_scanOptional_some ht]

/-- A view shows the strings that the properties of its step give, and no other strings. -/
theorem Kind.wording_of_view {k : Kind} {s : Step} {values : Values} {v : View}
    (hk : k ∈ builtinKinds) (hs : k.build p = .ok s) (hv : s.view values = .ok v) :
    v.wording = wordingOf k.name p := by
  obtain ⟨shown, hshown, rfl⟩ := Step.view_eq_ok hv
  -- policies show nothing
  change shown.wording = wordingOf k.name p
  simp only [builtinKinds, List.mem_cons, List.not_mem_nil, or_false] at hk
  -- the kinds in the order of their list; the first two read their properties alike
  rcases hk with rfl | rfl | rfl | rfl | rfl | rfl | rfl | rfl | rfl | rfl
  · exact wording_message (build_eq_ok hs).1 hshown
  · exact wording_message (build_eq_ok hs).1 hshown
  · obtain ⟨url, mediaType, t, -, -, ht, rfl⟩ := shown_media (build_eq_ok hs).1 hshown
    change ({ text := t.map (·.raw) } : Wording) = { text := text? p "caption" }
    rw [raw_of_scanOptional ht]
  · rw [shown_pause (build_eq_ok hs).1 hshown]
    rfl
  · obtain ⟨t, header, footer, bs, ht, hheader, hfooter, hbs, rfl⟩ :=
      shown_buttons (build_eq_ok hs).1 hshown
    change ({
      text := some t.raw
      header := header.map (·.raw)
      footer := footer.map (·.raw)
      buttons := bs.map Button.wording } : Wording) = wordingOf "buttons" p
    rw [raw_of_scanOptional_some ht, raw_of_scanOptional hheader, raw_of_scanOptional hfooter,
      map_eq_of_forall₂ hbs Button.ReadFrom.wording_eq]
    rfl
  · obtain ⟨t, header, footer, label, ss, ht, hheader, hfooter, hlabel, hss, rfl⟩ :=
      shown_list (build_eq_ok hs).1 hshown
    change ({
      text := some t.raw
      header := header.map (·.raw)
      footer := footer.map (·.raw)
      opener := some label.raw
      sections := ss.map ListSection.wording } : Wording) = wordingOf "list" p
    rw [raw_of_scanOptional_some ht, raw_of_scanOptional hheader, raw_of_scanOptional hfooter,
      TemplateText.raw_of_ofRaw hlabel, map_eq_of_forall₂ hss ListSection.ReadFrom.wording_eq]
    rfl
  · obtain ⟨t, cards, ht, hcards, rfl⟩ := shown_carousel (build_eq_ok hs).1 hshown
    change ({ text := t.map (·.raw), cards := cards.map Card.wording } : Wording) =
      wordingOf "carousel" p
    rw [raw_of_scanOptional ht, map_eq_of_forall₂ hcards Card.ReadFrom.wording_eq]
    rfl
  · obtain ⟨t, yes, no, ht, hyes, hno, rfl⟩ := shown_confirm (build_eq_ok hs).1 hshown
    change ({ text := some t.raw, buttons := [some yes.raw, some no.raw] } : Wording) =
      wordingOf "confirm" p
    rw [raw_of_scanOptional_some ht, TemplateText.raw_of_ofRaw hyes, TemplateText.raw_of_ofRaw hno]
    rfl
  · obtain ⟨inputType, t, -, ht, rfl⟩ := shown_input (build_eq_ok hs).1 hshown
    change ({ text := some t.raw } : Wording) = { text := text? p "text" }
    rw [raw_of_scanOptional_some ht]
  · obtain ⟨m, template, hm, htemplate, rfl⟩ := shown_approved (build_eq_ok hs).1 hshown
    change ({ params := template.params.map fun t => some t.raw } : Wording) = wordingOf "hsm" p
    have hparams :
        (template.params.map fun t => some t.raw) = (list m "params").map paramWording := by
      refine map_eq_of_forall₂ htemplate.params fun j t hjt => ?_
      obtain ⟨i, raw, hread, ht⟩ := hjt
      exact paramWording_eq hread ht
    rw [hparams, wordingOf, hm]
    rfl

end ChatPlan
