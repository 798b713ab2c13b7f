import ChatPlan.Proofs.Step.Kinds

/-
Elements against what a view offers, one for one. The check of outputs looks at the elements of a
step, a user at what its view offers, and each is read from the properties in a way of its own. The
two agree for lists and confirmations. For buttons they agree but for one slip: a link or a call
whose type is written as `null` is read by its kind, and looked at as a button that answers. It is
an element that stands for nothing.
-/
namespace ChatPlan

open Props

/-- The element stands for the pick: it is named by the answer, unless that is blank. -/
def Element.StandsFor (e : Element) (pick : Pick) : Prop :=
  Text.blank pick.answer = false → e.isNamed pick.answer = true

theorem Element.Makes.standsFor {e : Element} {pick : Pick} (h : e.Makes pick) :
    e.StandsFor pick := by
  intro hblank
  have hkept (s : Option String) (hs : s = some pick.answer)
      (hmem : s ∈ [e.id, e.payload, e.label]) : pick.answer ∈ e.identifiers :=
    List.mem_filterMap.2 ⟨s, hmem, by simp [hs, hblank]⟩
  rw [isNamed, List.contains_iff_mem]
  -- the answer is the first identifier that is there, in the order payload, id, label
  have hanswer := h.answer
  cases hpayload : e.payload with
  | some payload => exact hkept e.payload (by simpa [hpayload] using hanswer) (by simp)
  | none =>
    cases hid : e.id with
    | some id => exact hkept e.id (by simpa [hpayload, hid] using hanswer) (by simp)
    | none => exact hkept e.label (by simpa [hpayload, hid] using hanswer) (by simp)

/-- What is mistaken for an answer is one to the look. -/
theorem Props.answers_of_isMistaken {b : Props} (h : isMistaken b = true) : answers b = true := by
  rw [isMistaken, Bool.and_eq_true, Option.any_eq_true] at h
  obtain ⟨⟨v, hv, hnull⟩, -⟩ := h
  cases v <;> cases hnull
  rw [answers, buttonType, hv]
  rfl

/-- The look finds as many more elements as it mistakes buttons. -/
theorem length_answering (bs : List Props) : (bs.filter answers).length =
    (bs.filterMap answerElement?).length + bs.countP isMistaken := by
  induction bs with
  | nil => rfl
  | cons b bs ih =>
    rw [List.filter_cons, List.filterMap_cons, List.countP_cons, answerElement?]
    cases hmistaken : isMistaken b with
    | true =>
      simp only [answers_of_isMistaken hmistaken, Bool.not_true, Bool.and_false, Bool.false_eq_true,
        if_true, if_false, List.length_cons, ih]
      omega
    | false =>
      cases answers b with
      | true =>
        simp only [Bool.not_false, Bool.and_self, Bool.false_eq_true, if_true, if_false,
          List.length_cons, ih]
        omega
      | false =>
        simp only [Bool.false_and, Bool.false_eq_true, if_false, ih]
        omega

/-- The elements of buttons stand for what these offer exactly if none is mistaken for an answer. -/
theorem forall₂_standsFor_iff {bs : List Props} {picks : List Pick}
    (h : List.Forall₂ Element.Makes (bs.filterMap answerElement?) picks) :
    List.Forall₂ Element.StandsFor ((bs.filter answers).map buttonElement) picks ↔
      ∀ b ∈ bs, isMistaken b = false := by
  have hnone : (∀ b ∈ bs, isMistaken b = false) ↔ bs.countP isMistaken = 0 := by
    simp only [List.countP_eq_zero, Bool.not_eq_true]
  have hlength := length_answering bs
  rw [hnone]
  constructor
  · intro hstands
    have hpicks := hstands.length_eq
    rw [List.length_map, ← h.length_eq] at hpicks
    omega
  · intro hzero
    have hsame : bs.filterMap answerElement? = (bs.filter answers).map buttonElement := by
      refine (answerElements_sublist bs).eq_of_length ?_
      rw [List.length_map]
      omega
    rw [← hsame]
    exact h.imp fun _ _ hmakes => hmakes.standsFor

/-- The buttons that a step of this kind is given, on its cards if it has any. -/
def Kind.givenButtons (k : Kind) (p : Props) : List Props :=
  if k.name = "buttons" then objects p "buttons"
  else if k.name = "carousel" then (objects p "cards").flatMap (objects · "buttons")
  else []

/-- Whatever a view offers was made from an element, in order. The elements are one for each pick,
each named by its answer, exactly if none of the buttons that the step is given is mistaken for one
that answers. -/
theorem elements_stand_for_picks {k : Kind} (hk : k ∈ builtinKinds) {element : String}
    {elements : Props → List Element} (hrule : k.outputs = .interactive element elements)
    {p : Props} {s : Step} (hs : k.build p = .ok s) {values : Values} {v : View}
    (hv : s.view values = .ok v) :
    MadeFrom v.picks (elements p) ∧
      (List.Forall₂ Element.StandsFor (elements p) v.picks ↔
        ∀ b ∈ k.givenButtons p, isMistaken b = false) := by
  refine ⟨Kind.picks_of_view hk hs hv hrule, ?_⟩
  obtain ⟨shown, hshown, rfl⟩ := Step.view_eq_ok hv
  change List.Forall₂ Element.StandsFor (elements p) shown.picks ↔ _
  have hall {es : List Element} (h : List.Forall₂ Element.Makes es shown.picks) :
      List.Forall₂ Element.StandsFor es shown.picks ↔
        ∀ b ∈ ([] : List Props), isMistaken b = false :=
    iff_of_true (h.imp fun _ _ hmakes => hmakes.standsFor) (by simp)
  simp only [builtinKinds, List.mem_cons, List.not_mem_nil, or_false] at hk
  -- of the ten kinds, four have a rule for elements, and two of these are given buttons
  rcases hk with rfl | rfl | rfl | rfl | rfl | rfl | rfl | rfl | rfl | rfl <;> cases hrule
  · exact forall₂_standsFor_iff (picks_of_buttons (Kind.build_eq_ok hs).1 hshown)
  · exact hall (picks_of_list (Kind.build_eq_ok hs).1 hshown)
  · rw [cardElements_eq]
    exact forall₂_standsFor_iff (picks_of_carousel (Kind.build_eq_ok hs).1 hshown)
  · exact hall (picks_of_confirm (Kind.build_eq_ok hs).1 hshown)

theorem Kind.exists_view {k : Kind} {p : Props} {values : Values} {P : View → Bool}
    (h : ((k.build p).toOption.bind fun s => (s.view values).toOption).any P = true) :
    ∃ s v, k.build p = .ok s ∧ s.view values = .ok v ∧ P v = true := by
  cases hs : k.build p with
  | error e =>
    rw [hs] at h
    cases h
  | ok s =>
    cases hv : s.view values with
    | error e =>
      rw [hs] at h
      simp [Except.toOption, hv] at h
    | ok v =>
      refine ⟨s, v, rfl, hv, ?_⟩
      rw [hs] at h
      simpa [Except.toOption, hv] using h

/-- A button that answers, and a link whose type is written in this way. -/
def portal (linkType : Json) : Props := [
  ("buttons", .arr [
    .obj [("label", .str "Help"), ("type", .str "reply")],
    .obj [("kind", .str "url"), ("label", .str "Site"), ("type", linkType),
      ("url", .str "https://example.org")]]),
  ("text", .str "Where to?")]

/-- The kind of steps that show buttons. -/
def portal.kind : Kind :=
  .ofContent "buttons" choicePolicies (.interactive "button" buttonElements) readButtonsContent

theorem portal.kind_mem : portal.kind ∈ builtinKinds := by simp [portal.kind, builtinKinds]

theorem portal.exists_view {linkType : Json} (h : linkType = .str "url" ∨ linkType = .null) :
    ∃ s v, portal.kind.build (portal linkType) = .ok s ∧ s.view ⟨[], []⟩ = .ok v ∧
      v.picks.length = 1 := by
  have hviews (h : ((portal.kind.build (portal linkType)).toOption.bind fun s =>
      (s.view ⟨[], []⟩).toOption).any (fun v => v.picks.length == 1) = true) :=
    Kind.exists_view h
  simp only [beq_iff_eq] at hviews
  rcases h with rfl | rfl
  · exact hviews (by decide +kernel)
  · exact hviews (by decide +kernel)

/-- With its type written out, the link is no element. -/
theorem portal_elements_stand : ∃ k ∈ builtinKinds, ∃ s v,
    k.outputs = .interactive "button" buttonElements ∧ k.build (portal (.str "url")) = .ok s ∧
      s.view ⟨[], []⟩ = .ok v ∧ v.picks.length = 1 ∧
        List.Forall₂ Element.StandsFor (buttonElements (portal (.str "url"))) v.picks := by
  obtain ⟨s, v, hs, hv, hpicks⟩ := portal.exists_view (.inl rfl)
  have hnone : (portal.kind.givenButtons (portal (.str "url"))).all (!isMistaken ·) = true := by
    decide +kernel
  obtain ⟨-, hstand⟩ := elements_stand_for_picks portal.kind_mem rfl hs hv
  refine ⟨portal.kind, portal.kind_mem, s, v, rfl, hs, hv, hpicks, hstand.2 fun b hb => ?_⟩
  simpa using List.all_eq_true.1 hnone b hb

/-- With a type of `null` the link is an element, though the view offers no more than before. -/
theorem portal_link_is_element : ∃ k ∈ builtinKinds, ∃ s v,
    k.outputs = .interactive "button" buttonElements ∧ k.build (portal .null) = .ok s ∧
      s.view ⟨[], []⟩ = .ok v ∧ v.picks.length = 1 ∧
        ¬List.Forall₂ Element.StandsFor (buttonElements (portal .null)) v.picks := by
  obtain ⟨s, v, hs, hv, hpicks⟩ := portal.exists_view (.inr rfl)
  refine ⟨portal.kind, portal.kind_mem, s, v, rfl, hs, hv, hpicks, fun hstands => ?_⟩
  have hlength : (buttonElements (portal .null)).length = 2 := by decide +kernel
  rw [hstands.length_eq, hpicks] at hlength
  cases hlength

end ChatPlan
