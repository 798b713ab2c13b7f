import ChatPlan.Proofs.Check.Under
import ChatPlan.Proofs.Json.Record

/-
Dropped buttons. A channel drops the buttons of a view that it cannot show, and the check of views
announces every dropped button at its place. Both go through the buttons in one order: those of the
view, then those of its cards. So a channel drops exactly what is announced, notes the kinds in the
order of the announcements, and has nothing left to drop (`drops_what_is_announced`).
-/
namespace ChatPlan

/-! ## Places of buttons -/

/-- The place of an entry of a list. -/
def entryPlace (list : String) (i : Nat) : String := s!"{list}[{i}]"

/-- The place of the buttons of a card. -/
def cardPlace (i : Nat) : String := s!"cards[{i}].buttons"

/-- Buttons with their places. -/
def placed (place : String) (bs : List Button) : Members Button :=
  bs.mapIdx fun i b => (entryPlace place i, b)

/-- The buttons apart from those that stand at one of the places. -/
def withoutPlaces (gone : List String) (place : String) (bs : List Button) : List Button :=
  ((placed place bs).filter fun p => p.1 ∉ gone).map (·.2)

namespace View

/-- All buttons of a view with their places: those of the view first, then those of its cards. -/
def placedButtons (v : View) : Members Button :=
  placed "buttons" v.buttons ++
    (v.cards.mapIdx fun i card => placed (cardPlace i) card.buttons).flatten

/-- The button at this place. -/
def button? (v : View) (place : String) : Option Button := Members.get? v.placedButtons place

/-- The view apart from the buttons at the places. -/
def withoutButtons (v : View) (gone : List String) : View :=
  { v with
    buttons := withoutPlaces gone "buttons" v.buttons
    cards := v.cards.mapIdx fun i card =>
      { card with buttons := withoutPlaces gone (cardPlace i) card.buttons } }

end View

theorem mem_placed {place : String} {bs : List Button} {p : String × Button} :
    p ∈ placed place bs ↔ ∃ i : Nat, bs[i]? = some p.2 ∧ p.1 = entryPlace place i := by
  rw [placed, List.mem_mapIdx]
  constructor
  · rintro ⟨i, hi, rfl⟩
    exact ⟨i, List.getElem?_eq_getElem hi, rfl⟩
  · rintro ⟨i, hi, hplace⟩
    obtain ⟨hlt, hb⟩ := List.getElem?_eq_some_iff.1 hi
    exact ⟨i, hlt, by rw [hb, ← hplace]⟩

@[simp] theorem placed_map_snd (place : String) (bs : List Button) :
    (placed place bs).map (·.2) = bs := by
  simp [placed, List.mapIdx_eq_zipIdx_map, Function.comp_def]

theorem entryPlace_inj {place : String} {i j : Nat} (h : entryPlace place i = entryPlace place j) :
    i = j :=
  repr_injective (by simpa [entryPlace, toString] using h)

theorem cardPlace_inj {i j k l : Nat}
    (h : entryPlace (cardPlace i) k = entryPlace (cardPlace j) l) : i = j ∧ k = l := by
  have hwritten : i.repr ++ ("].buttons[" ++ (k.repr ++ "]")) =
      j.repr ++ ("].buttons[" ++ (l.repr ++ "]")) := by
    simpa [entryPlace, cardPlace, toString, String.append_assoc] using h
  -- the bracket behind the number tells where it ends
  have hsplit (u : String) : "].buttons[" ++ u = "]" ++ (".buttons[" ++ u) := by
    rw [← String.append_assoc]
    rfl
  rw [hsplit, hsplit] at hwritten
  obtain ⟨rfl, hrest⟩ := repr_closed_inj hwritten
  exact ⟨rfl, repr_injective (by simpa using hrest)⟩

theorem cardPlace_ne {i j k : Nat} : entryPlace "buttons" i ≠ entryPlace (cardPlace j) k :=
  fun h => by simpa [entryPlace, cardPlace, toString] using congrArg (·.toList.head?) h

theorem View.mem_placedButtons {v : View} {p : String × Button} : p ∈ v.placedButtons ↔
    (∃ i : Nat, v.buttons[i]? = some p.2 ∧ p.1 = entryPlace "buttons" i) ∨
      ∃ (j : Nat) (card : Card) (i : Nat), v.cards[j]? = some card ∧ card.buttons[i]? = some p.2 ∧
        p.1 = entryPlace (cardPlace j) i := by
  rw [placedButtons, List.mem_append, mem_placed, List.mem_flatten]
  refine or_congr_right ?_
  constructor
  · rintro ⟨_, hcard, hp⟩
    obtain ⟨j, hj, rfl⟩ := List.mem_mapIdx.1 hcard
    obtain ⟨i, hi, hplace⟩ := mem_placed.1 hp
    exact ⟨j, v.cards[j], i, List.getElem?_eq_getElem hj, hi, hplace⟩
  · rintro ⟨j, card, i, hcard, hi, hplace⟩
    obtain ⟨hj, rfl⟩ := List.getElem?_eq_some_iff.1 hcard
    exact ⟨_, List.mem_mapIdx.2 ⟨j, hj, rfl⟩, mem_placed.2 ⟨i, hi, hplace⟩⟩

@[simp] theorem View.placedButtons_map_snd (v : View) :
    v.placedButtons.map (·.2) = v.buttons ++ v.cards.flatMap (·.buttons) := by
  have hcards : (v.cards.mapIdx fun i card => placed (cardPlace i) card.buttons).map
      (List.map (·.2)) = v.cards.map (·.buttons) := by
    refine List.ext_getElem (by simp) fun i hi _ => ?_
    rw [List.getElem_map, List.getElem_mapIdx, placed_map_snd, List.getElem_map]
  rw [placedButtons, List.map_append, placed_map_snd, List.map_flatten, hcards, List.flatMap_def]

theorem View.placed_card_subset {v : View} {i : Nat} (hi : i < v.cards.length) :
    placed (cardPlace i) v.cards[i].buttons ⊆ v.placedButtons := by
  intro p hp
  exact List.mem_append_right _ (List.mem_flatten_of_mem (List.mem_mapIdx.2 ⟨i, hi, rfl⟩) hp)

/-- One button stands at a place. -/
theorem View.placedButtons_unique {v : View} {p q : String × Button} (hp : p ∈ v.placedButtons)
    (hq : q ∈ v.placedButtons) (h : p.1 = q.1) : p.2 = q.2 := by
  rcases mem_placedButtons.1 hp with ⟨i, hi, hp⟩ | ⟨j, card, i, hcard, hi, hp⟩ <;>
    rcases mem_placedButtons.1 hq with ⟨i', hi', hq⟩ | ⟨j', card', i', hcard', hi', hq⟩ <;>
      rw [hp, hq] at h
  case inl.inl =>
    obtain rfl := entryPlace_inj h
    exact Option.some.inj (hi.symm.trans hi')
  case inl.inr => exact absurd h cardPlace_ne
  case inr.inl => exact absurd h.symm cardPlace_ne
  case inr.inr =>
    obtain ⟨rfl, rfl⟩ := cardPlace_inj h
    obtain rfl := Option.some.inj (hcard.symm.trans hcard')
    exact Option.some.inj (hi.symm.trans hi')

theorem View.button?_of_mem {v : View} {p : String × Button} (hp : p ∈ v.placedButtons) :
    v.button? p.1 = some p.2 := by
  rw [button?, Members.get?]
  cases hfound : v.placedButtons.find? (·.1 == p.1) with
  | none => exact absurd (beq_self_eq_true p.1) (List.find?_eq_none.1 hfound p hp)
  | some q =>
    have hplace : q.1 = p.1 := by simpa using List.find?_some hfound
    exact congrArg some (placedButtons_unique (List.mem_of_find?_eq_some hfound) hp hplace)

/-- Where all places of a kind of buttons are taken away, the other buttons stay. -/
theorem withoutPlaces_eq {v : View} {shows : Button → Bool} {place : String} {bs : List Button}
    (hbs : placed place bs ⊆ v.placedButtons) :
    withoutPlaces ((v.placedButtons.filter fun p => !shows p.2).map (·.1)) place bs =
      bs.filter shows := by
  have hstays : ∀ p ∈ placed place bs,
      decide (p.1 ∉ (v.placedButtons.filter fun p => !shows p.2).map (·.1)) = shows p.2 := by
    intro p hp
    rw [Bool.eq_iff_iff, decide_eq_true_iff, List.mem_map]
    constructor
    · intro hnot
      by_contra hshown
      exact hnot ⟨p, List.mem_filter.2 ⟨hbs hp, by simpa using hshown⟩, rfl⟩
    · rintro hshown ⟨q, hq, hplace⟩
      obtain ⟨hq, hhidden⟩ := List.mem_filter.1 hq
      rw [View.placedButtons_unique hq (hbs hp) hplace, hshown] at hhidden
      cases hhidden
  rw [withoutPlaces, List.filter_congr hstays]
  conv_rhs => rw [← placed_map_snd place bs, List.filter_map]
  rfl

/-! ## Announcements -/

namespace Fit

/-- The issues that announce a dropped button. -/
def announcements (kind : String) (is : List Issue) : List Issue :=
  is.filter fun i => i.code == s!"adapter.{kind}.button_kind_unsupported"

/-- What announces the button at a place. -/
def announcement (c : ViewContext) (kind : String) (p : String × Button) : Issue :=
  .warn s!"adapter.{kind}.button_kind_unsupported" (c.at p.1)
    s!"Button kind '{p.2.kind.name}' is not supported by the channel and will be dropped"

/-- None of the issues announces a dropped button. -/
def Silent (kind : String) (is : List Issue) : Prop :=
  Reports (fun i => i.code ≠ s!"adapter.{kind}.button_kind_unsupported") is

variable (c : ViewContext) (kind : String)

@[simp] theorem announcements_append (is js : List Issue) :
    announcements kind (is ++ js) = announcements kind is ++ announcements kind js :=
  List.filter_append ..

theorem announcements_flatten_mapIdx {α : Type} (l : List α) (f : Nat → α → List Issue) :
    announcements kind (l.mapIdx f).flatten =
      (l.mapIdx fun i a => announcements kind (f i a)).flatten := by
  rw [announcements, List.filter_flatten]
  simp only [List.mapIdx_eq_zipIdx_map, List.map_map]
  rfl

variable {kind}

theorem Silent.announcements_eq {is : List Issue} (h : Silent kind is) :
    announcements kind is = [] :=
  List.filter_eq_nil_iff.2 fun i hi => by simpa using h i hi

/-! ### Checks of other things -/

theorem lengthIssue_silent {code path what : String} {limit : Option Nat} {t : TemplateText}
    (hcode : code ≠ s!"adapter.{kind}.button_kind_unsupported") :
    Silent kind (lengthIssue code path what limit t).toList :=
  .toList fun _ hi => (lengthIssue_eq_some hi).1 ▸ hcode

theorem countIssue_silent {code path what : String} {limit : Option Nat} {count : Nat}
    (hcode : code ≠ s!"adapter.{kind}.button_kind_unsupported") :
    Silent kind (countIssue code path what limit count).toList :=
  .toList fun _ hi => (countIssue_eq_some hi).1 ▸ hcode

theorem descriptionIssue_silent (place what : String) (d : Option TemplateText) :
    Silent kind (descriptionIssue c kind place what d) :=
  .bind fun _ => lengthIssue_silent (by simp [toString])

theorem listIssues_silent (p : Picker) : Silent kind (listIssues c kind p) := by
  refine .append (.append (.append (.append ?feature ?sections) ?items) ?label) ?descriptions
  case feature => exact .ite .nil (.single (by simp [Issue.error, toString]))
  case sections => exact countIssue_silent (by simp [toString])
  case items => exact countIssue_silent (by simp [toString])
  case label => exact lengthIssue_silent (by simp [toString])
  case descriptions =>
    exact .flatten_mapIdx fun _ _ => .flatten_mapIdx fun _ _ => descriptionIssue_silent c _ _ _

theorem templateIssues_silent (v : View) : Silent v.kind (templateIssues c v) :=
  .ite (.single (by simp [Issue.error, toString])) .nil

theorem markupIssues_silent (v : View) : Silent v.kind (markupIssues c v) :=
  .ite (.single (by simp [Issue.warn, toString])) .nil

/-! ### The check of buttons -/

variable (kind)

theorem announcements_buttonIssues (place : String) (b : Button) :
    announcements kind (buttonIssues c kind place b) =
      if c.capabilities.shows b.kind then [] else [announcement c kind (place, b)] := by
  have hlabel : Silent kind (lengthIssue s!"adapter.{kind}.button_label_too_long"
      (c.at (place ++ ".label")) "Button label" c.capabilities.maxButtonLen b.label).toList :=
    lengthIssue_silent (by simp [toString])
  rw [buttonIssues, announcements_append, hlabel.announcements_eq, List.append_nil]
  split
  · rfl
  · simp [announcements, announcement, Issue.warn, toString]

theorem announcements_buttonsIssues (place : String) (bs : List Button) :
    announcements kind (buttonsIssues c kind place bs) =
      ((placed place bs).filter fun p => !c.capabilities.shows p.2.kind).map
        (announcement c kind) := by
  have hcount : Silent kind (countIssue s!"adapter.{kind}.too_many_buttons" (c.at place)
      "buttons; the channel shows" c.capabilities.maxButtons bs.length).toList :=
    countIssue_silent (by simp [toString])
  rw [buttonsIssues, announcements_append, hcount.announcements_eq, List.nil_append,
    announcements_flatten_mapIdx, placed]
  simp only [announcements_buttonIssues, List.mapIdx_eq_zipIdx_map]
  induction bs.zipIdx with
  | nil => rfl
  | cons b bs ih =>
    rw [List.map_cons, List.map_cons, List.flatten_cons, ih, List.filter_cons]
    cases c.capabilities.shows b.1.kind <;> rfl

theorem announcements_cardsIssues (cards : List Card) :
    announcements kind (cardsIssues c kind cards) =
      ((cards.mapIdx fun i card => placed (cardPlace i) card.buttons).flatten.filter
        fun p => !c.capabilities.shows p.2.kind).map (announcement c kind) := by
  have hfeature : Silent kind (if c.capabilities.carousel then [] else
      [.error s!"adapter.{kind}.carousel_unsupported" (c.at "cards")
        "The channel cannot display carousels"]) :=
    .ite .nil (.single (by simp [Issue.error, toString]))
  have hcard (i : Nat) (card : Card) : announcements kind (cardIssues c kind i card) =
      ((placed (cardPlace i) card.buttons).filter
        fun p => !c.capabilities.shows p.2.kind).map (announcement c kind) := by
    rw [cardIssues, announcements_append, (descriptionIssue_silent c _ _ _).announcements_eq,
      List.nil_append]
    exact announcements_buttonsIssues c kind (cardPlace i) card.buttons
  cases cards with
  | nil => rfl
  | cons card cards =>
    rw [cardsIssues, List.isEmpty_cons, if_neg Bool.false_ne_true, announcements_append,
      hfeature.announcements_eq, List.nil_append, announcements_flatten_mapIdx]
    simp only [hcard, List.filter_flatten, List.map_flatten, List.mapIdx_eq_zipIdx_map,
      List.map_map]
    rfl

/-- The check of a view announces the buttons that the channel cannot show, in their order. -/
theorem announcements_issues (v : View) : announcements v.kind (issues c v) =
    (v.placedButtons.filter fun p => !c.capabilities.shows p.2.kind).map
      (announcement c v.kind) := by
  have hheader : Silent v.kind (v.header.bind (lengthIssue s!"adapter.{v.kind}.header_too_long"
      (c.at "header") "Header" c.capabilities.maxHeaderLen)).toList :=
    .bind fun _ => lengthIssue_silent (by simp [toString])
  have hfooter : Silent v.kind (v.footer.bind (lengthIssue s!"adapter.{v.kind}.footer_too_long"
      (c.at "footer") "Footer" c.capabilities.maxFooterLen)).toList :=
    .bind fun _ => lengthIssue_silent (by simp [toString])
  have hlist : Silent v.kind (v.list.toList.flatMap (listIssues c v.kind)) :=
    .flatMap (listIssues_silent c)
  simp only [issues, announcements_append, hheader.announcements_eq, hfooter.announcements_eq,
    hlist.announcements_eq, (templateIssues_silent c v).announcements_eq,
    (markupIssues_silent c v).announcements_eq, List.nil_append, List.append_nil,
    announcements_buttonsIssues, announcements_cardsIssues, View.placedButtons, List.filter_append,
    List.map_append]

end Fit

/-! ## What a channel drops -/

namespace Channel

variable (k : Channel) (v : View)

/-- The places of the buttons that the channel drops. -/
def droppedPlaces : List String :=
  (v.placedButtons.filter fun p => !k.keeps p.2).map (·.1)

theorem dropped_eq : k.dropped v = (v.placedButtons.filter fun p => !k.keeps p.2).map (·.2) := by
  rw [dropped, ← v.placedButtons_map_snd, List.filter_map]
  rfl

/-- The channel takes away the buttons at those places, and writes notes. -/
theorem adapt_eq_withoutButtons : k.adapt v =
    { v.withoutButtons (k.droppedPlaces v) with metadata := (k.adapt v).metadata } := by
  have hbuttons : v.buttons.filter k.keeps =
      withoutPlaces (k.droppedPlaces v) "buttons" v.buttons :=
    (withoutPlaces_eq (List.subset_append_left _ _)).symm
  have hcards : (v.cards.map fun card => { card with buttons := card.buttons.filter k.keeps }) =
      v.cards.mapIdx fun i card => { card with
        buttons := withoutPlaces (k.droppedPlaces v) (cardPlace i) card.buttons } := by
    refine List.ext_getElem (by simp) fun i hi _ => ?_
    rw [List.length_map] at hi
    have hcard : withoutPlaces (k.droppedPlaces v) (cardPlace i) v.cards[i].buttons =
        v.cards[i].buttons.filter k.keeps := withoutPlaces_eq (View.placed_card_subset hi)
    rw [List.getElem_map, List.getElem_mapIdx, hcard]
  simp only [adapt, View.withoutButtons, hbuttons, hcards]

theorem keeps_of_mem_adapt {p : String × Button} (hp : p ∈ (k.adapt v).placedButtons) :
    k.keeps p.2 = true := by
  have hbutton : p.2 ∈ (k.adapt v).buttons ++ (k.adapt v).cards.flatMap (·.buttons) := by
    rw [← View.placedButtons_map_snd]
    exact List.mem_map_of_mem hp
  rw [List.mem_append, List.mem_flatMap] at hbutton
  rcases hbutton with hb | ⟨card, hcard, hb⟩
  · exact List.of_mem_filter hb
  · obtain ⟨card, -, rfl⟩ := List.mem_map.1 hcard
    exact List.of_mem_filter hb

theorem dropped_adapt : k.dropped (k.adapt v) = [] := by
  rw [dropped_eq, List.map_eq_nil_iff, List.filter_eq_nil_iff]
  intro p hp
  rw [k.keeps_of_mem_adapt v hp]
  exact Bool.false_ne_true

theorem metadata_adapt : (k.adapt v).metadata =
    if k.dropped v = [] then Members.insert "channel" (.str k.name) v.metadata
    else Members.insert "dropped_buttons" (.strings ((k.dropped v).map (·.kind.name)))
      (Members.insert "channel" (.str k.name) v.metadata) := by
  simp only [adapt, List.isEmpty_iff]

/-- The notes of a view that is shown already stay as they are. -/
theorem metadata_adapt_adapt : (k.adapt (k.adapt v)).metadata = (k.adapt v).metadata := by
  have hkeys : "channel" ≠ "dropped_buttons" := by decide
  rw [metadata_adapt, dropped_adapt, if_pos rfl, metadata_adapt]
  -- the name of the channel is noted again, in front of the dropped kinds
  split
  · rw [Members.insert_insert]
  · rw [Members.insert_comm hkeys, Members.insert_insert]

theorem adapt_adapt : k.adapt (k.adapt v) = k.adapt v := by
  have hbuttons : (k.adapt (k.adapt v)).buttons = (k.adapt v).buttons := by
    simp only [adapt, List.filter_filter, Bool.and_self]
  have hcards : (k.adapt (k.adapt v)).cards = (k.adapt v).cards := by
    simp only [adapt, List.map_map, Function.comp_def, List.filter_filter, Bool.and_self]
  calc k.adapt (k.adapt v)
      = { k.adapt v with
          buttons := (k.adapt (k.adapt v)).buttons
          cards := (k.adapt (k.adapt v)).cards
          metadata := (k.adapt (k.adapt v)).metadata } := rfl
    _ = k.adapt v := by rw [hbuttons, hcards, metadata_adapt_adapt]

open Fit in
/-- A channel takes away the buttons at whose places the check of views announces this, and no
others; it notes their kinds in the order of the announcements. It can show all that is left, so
nothing more is announced, and a second time the view stays as it is. -/
theorem drops_what_is_announced (o : Options) (path : String) :
    ∃ (shown : View) (places : List String) (gone : List Button), k.adapter.adapt v = .ok shown ∧
      (announcements v.kind (issues ⟨k.capabilities, o, path⟩ v)).map (·.path) =
        places.map (ViewContext.at ⟨k.capabilities, o, path⟩) ∧
      places.map v.button? = gone.map some ∧
      shown = { v.withoutButtons places with metadata := shown.metadata } ∧
      Members.get? shown.metadata "dropped_buttons" =
        (if places = [] then Members.get? v.metadata "dropped_buttons"
          else some (.strings (gone.map (·.kind.name)))) ∧
      (∀ p ∈ shown.placedButtons, k.capabilities.shows p.2.kind = true) ∧
      announcements shown.kind (issues ⟨k.capabilities, o, path⟩ shown) = [] ∧
      k.adapter.adapt shown = .ok shown := by
  refine ⟨k.adapt v, k.droppedPlaces v, k.dropped v, rfl, ?announced, ?found,
    k.adapt_eq_withoutButtons v, ?noted, fun p hp => k.keeps_of_mem_adapt v hp, ?silent,
    congrArg Except.ok (k.adapt_adapt v)⟩
  case announced =>
    rw [announcements_issues, droppedPlaces, List.map_map, List.map_map]
    rfl
  case found =>
    rw [dropped_eq, droppedPlaces, List.map_map, List.map_map]
    refine List.map_congr_left fun p hp => ?_
    exact View.button?_of_mem (List.mem_of_mem_filter hp)
  case noted =>
    have hnone : k.droppedPlaces v = [] ↔ k.dropped v = [] := by
      rw [dropped_eq, droppedPlaces, List.map_eq_nil_iff, List.map_eq_nil_iff]
    have hkeys : "dropped_buttons" ≠ "channel" := by decide
    simp only [metadata_adapt, hnone]
    split
    · rw [Members.get?_insert, if_neg hkeys]
    · rw [Members.get?_insert, if_pos rfl]
  case silent =>
    rw [announcements_issues, List.map_eq_nil_iff, List.filter_eq_nil_iff]
    intro p hp
    have hshown : k.capabilities.shows p.2.kind = true := k.keeps_of_mem_adapt v hp
    rw [hshown]
    exact Bool.false_ne_true

end Channel

end ChatPlan
