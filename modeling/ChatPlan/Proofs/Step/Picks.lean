import ChatPlan.Proofs.Step.Shown

/-
What a view offers to pick, and the elements that the properties of its step name. The two are read
apart from each other: the view by readers that refuse what is wrong, the elements by looks that
ignore it. Still, everything that a view offers was made from an element, in the same order.
-/
namespace ChatPlan

open Props

/-- Something that a view offers to pick: the answer that it gives, and its label. -/
structure Pick where
  answer : String
  label : TemplateText

/-- A button offers something if it answers. -/
def Button.pick? (b : Button) : Option Pick :=
  if b.kind = .reply then some ⟨b.payload, b.label⟩ else none

def ListItem.pick (i : ListItem) : Pick := ⟨i.id, i.title⟩

/-- What a view offers, in order: its buttons, its list and its cards. -/
def View.picks (v : View) : List Pick :=
  v.buttons.filterMap Button.pick? ++
    (v.list.toList.flatMap fun l => (l.sections.flatMap (·.items)).map ListItem.pick) ++
    (v.cards.flatMap (·.buttons)).filterMap Button.pick?

/-- The pick was made from the element: it gives the answer that the element names first, and shows
the label of the element. -/
structure Element.Makes (e : Element) (pick : Pick) : Prop where
  answer : (e.payload.or e.id).or e.label = some pick.answer
  label : ∀ l, e.label = some l → pick.label.raw = l

/-- The picks were made from elements in this order. Not all of these need have been used: a link
that is mistaken for an answer is an element, too. -/
def MadeFrom (picks : List Pick) (elements : List Element) : Prop :=
  List.SublistForall₂ (fun pick e => Element.Makes e pick) picks elements

/-- Picks that were made from some of the elements. -/
theorem madeFrom_of_sublist {es elements : List Element} {picks : List Pick}
    (h : List.Forall₂ Element.Makes es picks) (hsub : es.Sublist elements) :
    MadeFrom picks elements :=
  List.sublistForall₂_iff.2 ⟨es, h.flip, hsub⟩

/-- A button as an element, where it does answer. -/
def Props.answerElement? (b : Props) : Option Element :=
  if answers b && !isMistaken b then some (buttonElement b) else none

theorem answerElements_sublist (bs : List Props) :
    (bs.filterMap answerElement?).Sublist ((bs.filter answers).map buttonElement) := by
  induction bs with
  | nil => exact .slnil
  | cons b bs ih =>
    rw [List.filterMap_cons, answerElement?]
    cases hanswers : answers b with
    | false => rwa [List.filter_cons_of_neg (by simp [hanswers])]
    | true =>
      rw [List.filter_cons_of_pos hanswers, List.map_cons]
      cases isMistaken b with
      | true => exact ih.cons _
      | false => exact ih.cons_cons _

theorem Element.makes_of_scan {e : Element} {pick : Pick}
    (hanswer : (e.payload.or e.id).or e.label = some pick.answer)
    (hlabel : scanOptional e.label = .ok (some pick.label)) : e.Makes pick := by
  obtain ⟨raw, hsome, hraw⟩ := scanOptional_eq_some.1 hlabel
  refine ⟨hanswer, fun l hl => ?_⟩
  cases hsome.symm.trans hl
  exact TemplateText.raw_of_ofRaw hraw

/-- A button offers something exactly if it was read from one that does answer. -/
theorem Button.ReadFrom.makes {p : Props} {b : Button} (h : b.ReadFrom p) :
    Option.Rel Element.Makes (answerElement? p) b.pick? := by
  unfold Button.pick? answerElement?
  split
  · rename_i hanswers
    have hreply : b.kind = .reply := h.answers.2 (by simpa using hanswers)
    have hnamed : textAmong? p ["payload", "id"] = (text? p "payload").or (text? p "id") := by
      rw [textAmong?_cons, textAmong?_cons, textAmong?_nil, Option.or_none]
    rw [if_pos hreply]
    refine .some (Element.makes_of_scan ?_ h.label)
    rw [← h.reply hreply, hnamed]
    rfl
  · rename_i hanswers
    rw [if_neg fun hreply => hanswers (by simpa using h.answers.1 hreply)]
    exact .none

theorem forall₂_picks {ms : List Props} {bs : List Button}
    (h : List.Forall₂ Button.ReadFrom ms bs) :
    List.Forall₂ Element.Makes (ms.filterMap answerElement?) (bs.filterMap Button.pick?) :=
  List.rel_filterMap (fun _ _ hb => Button.ReadFrom.makes hb) h

theorem ListItem.ReadFrom.makes {p : Props} {i : ListItem} (h : i.ReadFrom p) :
    (itemElement p).Makes i.pick := by
  refine Element.makes_of_scan ?_ h.title
  rw [itemElement, h.id]
  rfl

theorem Element.named_of_mem_identifiers {e : Element} {o : String} (h : o ∈ e.identifiers) :
    e.id = some o ∨ e.payload = some o ∨ e.label = some o := by
  simp only [identifiers, List.mem_filterMap, List.mem_cons, List.not_mem_nil, or_false] at h
  obtain ⟨v, hv, ho⟩ := h
  have hsome : v = some o := (Option.filter_eq_some_iff.1 ho).1
  rw [hsome] at hv
  exact hv.imp Eq.symm (Or.imp Eq.symm Eq.symm)

/-! ## The four kinds that offer something -/

variable {p : Props} {c : Content} {kind : String} {notes : Props} {v : View}

theorem picks_of_buttons (h : readButtonsContent p = .ok c)
    (hshow : c.show { kind := kind, metadata := notes } = .ok v) :
    List.Forall₂ Element.Makes ((objects p "buttons").filterMap answerElement?) v.picks := by
  obtain ⟨t, header, footer, bs, -, -, -, hbs, rfl⟩ := shown_buttons h hshow
  simpa [View.picks] using forall₂_picks hbs

theorem picks_of_list (h : readList p = .ok c)
    (hshow : c.show { kind := kind, metadata := notes } = .ok v) :
    List.Forall₂ Element.Makes (itemElements p) v.picks := by
  obtain ⟨t, header, footer, label, sections, -, -, -, -, hsections, rfl⟩ := shown_list h hshow
  have hitems : List.Forall₂ ListItem.ReadFrom ((objects p "sections").flatMap (objects · "items"))
      (sections.flatMap (·.items)) :=
    List.rel_flatMap hsections fun _ _ hs => ListSection.ReadFrom.items hs
  have hpicks : List.Forall₂ Element.Makes (itemElements p)
      ((sections.flatMap (·.items)).map ListItem.pick) := by
    rw [itemElements, List.forall₂_map_left_iff, List.forall₂_map_right_iff]
    exact hitems.imp fun _ _ hi => hi.makes
  simpa [View.picks] using hpicks

theorem picks_of_carousel (h : readCarousel p = .ok c)
    (hshow : c.show { kind := kind, metadata := notes } = .ok v) :
    List.Forall₂ Element.Makes
      (((objects p "cards").flatMap (objects · "buttons")).filterMap answerElement?) v.picks := by
  obtain ⟨t, cards, -, hcards, rfl⟩ := shown_carousel h hshow
  have hbuttons : List.Forall₂ Button.ReadFrom ((objects p "cards").flatMap (objects · "buttons"))
      (cards.flatMap (·.buttons)) :=
    List.rel_flatMap hcards fun _ _ hc => Card.ReadFrom.buttons hc
  simpa [View.picks] using forall₂_picks hbuttons

theorem cardElements_eq (p : Props) : cardElements p =
    (((objects p "cards").flatMap (objects · "buttons")).filter answers).map buttonElement := by
  rw [List.filter_flatMap, List.map_flatMap]
  rfl

theorem picks_of_confirm (h : readConfirm p = .ok c)
    (hshow : c.show { kind := kind, metadata := notes } = .ok v) :
    List.Forall₂ Element.Makes (choiceElements p) v.picks := by
  obtain ⟨t, yes, no, -, hyes, hno, rfl⟩ := shown_confirm h hshow
  have hraw {s : Option String} {l default : String} {t : TemplateText}
      (ht : TemplateText.ofRaw (s.getD default) = .ok t) (hl : s = some l) : t.raw = l := by
    subst hl
    exact TemplateText.raw_of_ofRaw ht
  exact .cons ⟨rfl, fun l hl => hraw hyes hl⟩ (.cons ⟨rfl, fun l hl => hraw hno hl⟩ .nil)

end ChatPlan
