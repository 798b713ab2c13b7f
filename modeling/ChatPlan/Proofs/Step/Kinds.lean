import ChatPlan.Proofs.Json.Record
import ChatPlan.Proofs.Step.Picks
import ChatPlan.Step.Kind

/-
Kinds of steps: what a registry finds under a name, and what a step of a kind shows.
-/
namespace ChatPlan

namespace Registry

variable {r : Registry} {name : String} {k : Kind}

theorem kind?_register (r : Registry) (k : Kind) (name : String) :
    kind? (register r k) name = if name = k.name then some k else kind? r name :=
  Members.get?_insert k.name k r name

theorem kind?_registered {ks : List Kind} (h : kind? (ks.foldl register r) name = some k) :
    (k ∈ ks ∧ k.name = name) ∨ kind? r name = some k := by
  induction ks generalizing r with
  | nil => exact .inr h
  | cons a ks ih =>
    rw [List.foldl_cons] at h
    rcases ih h with hlater | hbefore
    · exact .inl ⟨List.mem_cons_of_mem a hlater.1, hlater.2⟩
    · rw [kind?_register] at hbefore
      split at hbefore
      · rename_i hname
        cases hbefore
        exact .inl ⟨List.mem_cons_self, hname.symm⟩
      · exact .inr hbefore

theorem mem_builtinKinds (h : kind? builtin name = some k) : k ∈ builtinKinds ∧ k.name = name := by
  rcases kind?_registered h with hk | hnone
  · exact hk
  · cases hnone

end Registry

theorem Step.read_eq_ok {kind : String} {content : Props → Except PropError Content} {p : Props}
    {s : Step} (h : Step.read kind content p = .ok s) :
    content p = .ok s.content ∧ Behavior.read p = .ok s.behavior ∧
      Persistence.read p = .ok s.persistence ∧ s.kind = kind := by
  simp only [Step.read, bind_eq_ok_iff, pure_eq_ok_iff] at h
  obtain ⟨c, hc, b, hb, k, hk, notes, -, rfl⟩ := h
  exact ⟨hc, hb, hk, rfl⟩

/-- The view of a step: its content as it is shown, with the policies of the step. -/
theorem Step.view_eq_ok {s : Step} {values : Values} {v : View} (h : s.view values = .ok v) :
    ∃ shown, s.content.show { kind := s.kind, metadata := s.metadata } = .ok shown ∧
      v = { shown with
        behavior := s.behavior
        persistence := s.persistence.map fun p => { p with declared := values.has p.key } } := by
  simp only [Step.view, bind_eq_ok_iff, pure_eq_ok_iff] at h
  obtain ⟨shown, hshown, rfl⟩ := h
  exact ⟨shown, hshown, rfl⟩

namespace Kind

variable {k : Kind} {p : Props} {s : Step} {values : Values} {v : View}

theorem build_eq_ok {name : String} {allowed : List Policy} {outputs : OutputRule}
    {content : Props → Except PropError Content}
    (h : (ofContent name allowed outputs content).build p = .ok s) :
    content p = .ok s.content ∧ s.kind = name := by
  obtain ⟨hcontent, -, -, hkind⟩ := Step.read_eq_ok (mapError_eq_ok_iff.1 h)
  exact ⟨hcontent, hkind⟩

theorem ofContent_policies {name : String} {allowed : List Policy} {outputs : OutputRule}
    {content : Props → Except PropError Content}
    (h : (ofContent name allowed outputs content).build p = .ok s) :
    Behavior.read p = .ok s.behavior ∧ Persistence.read p = .ok s.persistence := by
  obtain ⟨-, hb, hkept, -⟩ := Step.read_eq_ok (mapError_eq_ok_iff.1 h)
  exact ⟨hb, hkept⟩

theorem policies_of_build (hk : k ∈ builtinKinds) (hs : k.build p = .ok s) :
    Behavior.read p = .ok s.behavior ∧ Persistence.read p = .ok s.persistence := by
  simp only [builtinKinds, List.mem_cons, List.not_mem_nil, or_false] at hk
  rcases hk with rfl | rfl | rfl | rfl | rfl | rfl | rfl | rfl | rfl | rfl
  all_goals exact ofContent_policies hs

/-- A step that cannot be built is a failure of its kind, which names no node. -/
theorem ofContent_refuses {name : String} {allowed : List Policy} {outputs : OutputRule}
    {content : Props → Except PropError Content} {e : Failure}
    (h : (ofContent name allowed outputs content).build p = .error e) :
    ∃ message, e = .factory name "" message := by
  rw [← failure?_eq_some_iff, ofContent, failure?_mapError, Option.map_eq_some_iff] at h
  obtain ⟨refusal, -, rfl⟩ := h
  exact ⟨refusal.message, rfl⟩

theorem refuses (hk : k ∈ builtinKinds) {e : Failure} (h : k.build p = .error e) :
    ∃ message, e = .factory k.name "" message := by
  simp only [builtinKinds, List.mem_cons, List.not_mem_nil, or_false] at hk
  rcases hk with rfl | rfl | rfl | rfl | rfl | rfl | rfl | rfl | rfl | rfl
  all_goals exact ofContent_refuses h

/-- Whatever a step of a kind offers to pick was made from the elements of the kind. -/
theorem picks_of_view (hk : k ∈ builtinKinds) (hs : k.build p = .ok s)
    (hv : s.view values = .ok v) {element : String} {elements : Props → List Element}
    (hrule : k.outputs = .interactive element elements) : MadeFrom v.picks (elements p) := by
  obtain ⟨shown, hshown, rfl⟩ := Step.view_eq_ok hv
  -- the policies that are laid over a view offer nothing
  change MadeFrom shown.picks (elements p)
  simp only [builtinKinds, List.mem_cons, List.not_mem_nil, or_false] at hk
  -- of the ten kinds, four have a rule for elements
  rcases hk with rfl | rfl | rfl | rfl | rfl | rfl | rfl | rfl | rfl | rfl <;> cases hrule
  · exact madeFrom_of_sublist (picks_of_buttons (build_eq_ok hs).1 hshown)
      (answerElements_sublist _)
  · exact madeFrom_of_sublist (picks_of_list (build_eq_ok hs).1 hshown) (.refl _)
  · rw [cardElements_eq]
    exact madeFrom_of_sublist (picks_of_carousel (build_eq_ok hs).1 hshown)
      (answerElements_sublist _)
  · exact madeFrom_of_sublist (picks_of_confirm (build_eq_ok hs).1 hshown) (.refl _)

/-- The principal text of a view: a caption where the step shows media, and `text` everywhere
else. -/
theorem text_of_view (hk : k ∈ builtinKinds) (hs : k.build p = .ok s) (hv : s.view values = .ok v)
    {t : TemplateText} (ht : v.text = some t) :
    scanOptional (Props.text? p (if k.name = "media" then "caption" else "text")) = .ok (some t) := by
  obtain ⟨shown, hshown, rfl⟩ := Step.view_eq_ok hv
  change shown.text = some t at ht
  simp only [builtinKinds, List.mem_cons, List.not_mem_nil, or_false] at hk
  rcases hk with rfl | rfl | rfl | rfl | rfl | rfl | rfl | rfl | rfl | rfl
  · obtain ⟨t', htext, rfl⟩ := shown_message (build_eq_ok hs).1 hshown
    cases ht
    exact htext
  · obtain ⟨t', htext, rfl⟩ := shown_message (build_eq_ok hs).1 hshown
    cases ht
    exact htext
  · obtain ⟨url, mediaType, t', -, -, hcaption, rfl⟩ := shown_media (build_eq_ok hs).1 hshown
    cases ht
    exact hcaption
  · rw [shown_pause (build_eq_ok hs).1 hshown] at ht
    cases ht
  · obtain ⟨t', header, footer, bs, htext, -, -, -, rfl⟩ := shown_buttons (build_eq_ok hs).1 hshown
    cases ht
    exact htext
  · obtain ⟨t', header, footer, label, sections, htext, -, -, -, -, rfl⟩ :=
      shown_list (build_eq_ok hs).1 hshown
    cases ht
    exact htext
  · obtain ⟨t', cards, htext, -, rfl⟩ := shown_carousel (build_eq_ok hs).1 hshown
    cases ht
    exact htext
  · obtain ⟨t', yes, no, htext, -, -, rfl⟩ := shown_confirm (build_eq_ok hs).1 hshown
    cases ht
    exact htext
  · obtain ⟨inputType, t', -, htext, rfl⟩ := shown_input (build_eq_ok hs).1 hshown
    cases ht
    exact htext
  · obtain ⟨m, template, -, -, rfl⟩ := shown_approved (build_eq_ok hs).1 hshown
    cases ht

end Kind

end ChatPlan
