import ChatPlan.Proofs.Check.Errors
import ChatPlan.Proofs.Check.Views
import ChatPlan.Proofs.Plan.Compile
import Mathlib.Tactic.MkIffOfInductiveProp

/-
A wider channel never makes things worse. `Wider` compares what two channels can show. A check is
`Milder` than another if it finds the same or less, at the same places, in the same order and as
severely; only the wording, which names the limit, may differ. Checks are put together from parts,
and so is the proof that they are milder on the wider channel: one lemma for each way of putting
issues together, then one for each part of a view (`standard_viewsIssues_milder`).

A node has its view before any channel is looked at, and channels adapt every view, so a design
compiles for all channels or for none. The estimates of texts are not milder: between the bands a
finding becomes another one. But they are errors only where they would be on the other channel, so
that validity is kept (`Compiler.hasErrors_of_wider`).
-/
namespace ChatPlan

/-- The first limit leaves all the room that the second leaves. -/
def Roomier (wide narrow : Option Nat) : Prop := ∀ n ∈ wide, ∃ m ∈ narrow, m ≤ n

instance (wide narrow : Option Nat) : Decidable (Roomier wide narrow) :=
  inferInstanceAs (Decidable (∀ n ∈ wide, ∃ m ∈ narrow, m ≤ n))

/-- The first channel can show all that the second can show. -/
@[mk_iff]
structure Capabilities.Wider (wide narrow : Capabilities) : Prop where
  maxTextLen : Roomier wide.maxTextLen narrow.maxTextLen
  maxButtons : Roomier wide.maxButtons narrow.maxButtons
  maxListItems : Roomier wide.maxListItems narrow.maxListItems
  maxListSections : Roomier wide.maxListSections narrow.maxListSections
  maxButtonLen : Roomier wide.maxButtonLen narrow.maxButtonLen
  maxDescriptionLen : Roomier wide.maxDescriptionLen narrow.maxDescriptionLen
  maxHeaderLen : Roomier wide.maxHeaderLen narrow.maxHeaderLen
  maxFooterLen : Roomier wide.maxFooterLen narrow.maxFooterLen
  approvedTemplates : narrow.approvedTemplates = true → wide.approvedTemplates = true
  richText : narrow.richText = true → wide.richText = true
  carousel : narrow.carousel = true → wide.carousel = true
  listPicker : narrow.listPicker = true → wide.listPicker = true
  buttonKinds : narrow.buttonKinds ⊆ wide.buttonKinds

instance (wide narrow : Capabilities) : Decidable (wide.Wider narrow) :=
  decidable_of_iff' _ (Capabilities.wider_iff wide narrow)

theorem Capabilities.Wider.shows {wide narrow : Capabilities} (h : wide.Wider narrow)
    {k : ButtonKind} (hk : narrow.shows k = true) : wide.shows k = true := by
  rw [Capabilities.shows, List.contains_iff_mem] at hk ⊢
  exact h.buttonKinds hk

/-- An issue without its wording. -/
def Issue.finding (i : Issue) : String × Severity × String := (i.code, i.severity, i.path)

/-- The first issues are findings of the second, in their order. -/
def Milder (is js : List Issue) : Prop := (is.map Issue.finding).Sublist (js.map Issue.finding)

namespace Milder

variable {is js is' js' : List Issue} {α : Type}

theorem refl (is : List Issue) : Milder is is := List.Sublist.refl _

theorem nil (js : List Issue) : Milder [] js := List.nil_sublist _

theorem append (h : Milder is js) (h' : Milder is' js') : Milder (is ++ is') (js ++ js') := by
  rw [Milder, List.map_append, List.map_append]
  exact List.Sublist.append h h'

theorem flatMap {f g : α → List Issue} {l : List α} (h : ∀ a ∈ l, Milder (f a) (g a)) :
    Milder (l.flatMap f) (l.flatMap g) := by
  induction l with
  | nil => exact nil _
  | cons a l ih =>
    rw [List.flatMap_cons, List.flatMap_cons]
    exact append (h a List.mem_cons_self) (ih fun b hb => h b (List.mem_cons_of_mem a hb))

theorem mapIdx {f g : Nat → α → List Issue} (l : List α) (h : ∀ i a, Milder (f i a) (g i a)) :
    Milder (l.mapIdx f).flatten (l.mapIdx g).flatten := by
  rw [List.mapIdx_eq_zipIdx_map, List.mapIdx_eq_zipIdx_map, ← List.flatMap_def, ← List.flatMap_def]
  exact flatMap fun a _ => h a.2 a.1

theorem bind {f g : α → Option Issue} (o : Option α)
    (h : ∀ a, Milder (f a).toList (g a).toList) : Milder (o.bind f).toList (o.bind g).toList := by
  cases o with
  | none => exact nil _
  | some a => exact h a

theorem lacking {p q : Bool} (h : q = true → p = true) (is : List Issue) :
    Milder (if p then [] else is) (if q then [] else is) := by
  cases q with
  | false =>
    cases p with
    | false => exact refl is
    | true => exact nil is
  | true =>
    rw [h rfl]
    exact refl []

theorem used {p q : Bool} (h : q = true → p = true) (uses : Bool) (is : List Issue) :
    Milder (if uses && !p then is else []) (if uses && !q then is else []) := by
  cases uses with
  | false => exact refl []
  | true =>
    simp only [Bool.true_and, Bool.not_eq_true', ← Bool.not_eq_true, ite_not]
    exact lacking h is

theorem hasErrors (h : Milder is js) (his : hasErrors is = true) :
    ChatPlan.hasErrors js = true := by
  obtain ⟨i, hi, herror⟩ := List.any_eq_true.1 his
  obtain ⟨j, hj, hij⟩ := List.mem_map.1 (h.subset (List.mem_map_of_mem hi))
  have hseverity : j.severity = i.severity := congrArg (·.2.1) hij
  exact List.any_eq_true.2 ⟨j, hj, by rwa [Issue.isError, hseverity]⟩

end Milder

/-- What is said of a size that is over its limit. -/
def overLimit (issue : Nat → Issue) (limit : Option Nat) (size : Nat) : Option Issue :=
  limit.bind fun max => if max < size then some (issue max) else none

/-- What is over a limit is over any smaller one, and the same is found. -/
theorem Milder.overLimit {wide narrow : Option Nat} (h : Roomier wide narrow) {issue : Nat → Issue}
    (hissue : ∀ m n, (issue n).finding = (issue m).finding) (size : Nat) :
    Milder (overLimit issue wide size).toList (overLimit issue narrow size).toList := by
  cases wide with
  | none => exact nil _
  | some n =>
    obtain ⟨m, rfl, hmn⟩ := h n rfl
    rw [ChatPlan.overLimit, ChatPlan.overLimit, Option.bind_some, Option.bind_some]
    by_cases hn : n < size
    · rw [if_pos hn, if_pos (hmn.trans_lt hn)]
      simp [Milder, hissue m n]
    · rw [if_neg hn]
      exact nil _

namespace Fit

theorem lengthIssue_eq (code path what : String) (limit : Option Nat) (t : TemplateText) :
    lengthIssue code path what limit t = overLimit (fun max => .warn code path
      s!"{what} is {t.certainSize} characters; the channel limit is {max}") limit t.certainSize := by
  cases limit with
  | none => rfl
  | some max => rfl

theorem countIssue_eq (code path what : String) (limit : Option Nat) (count : Nat) :
    countIssue code path what limit count =
      overLimit (fun max => .warn code path s!"{count} {what} at most {max}") limit count := by
  cases limit with
  | none => rfl
  | some max => rfl

section Limits

variable {wide narrow : Option Nat} (h : Roomier wide narrow) (code path what : String)

include h

theorem lengthIssue_milder (t : TemplateText) :
    Milder (lengthIssue code path what wide t).toList
      (lengthIssue code path what narrow t).toList := by
  rw [lengthIssue_eq, lengthIssue_eq]
  exact .overLimit h (fun _ _ => rfl) _

theorem countIssue_milder (count : Nat) :
    Milder (countIssue code path what wide count).toList
      (countIssue code path what narrow count).toList := by
  rw [countIssue_eq, countIssue_eq]
  exact .overLimit h (fun _ _ => rfl) _

end Limits

section Parts

variable {wide narrow : Capabilities} (h : wide.Wider narrow) (o : Options) (path kind : String)

include h

theorem buttonIssues_milder (place : String) (b : Button) :
    Milder (buttonIssues ⟨wide, o, path⟩ kind place b)
      (buttonIssues ⟨narrow, o, path⟩ kind place b) :=
  .append (.lacking h.shows _) (lengthIssue_milder h.maxButtonLen _ _ _ _)

theorem buttonsIssues_milder (place : String) (bs : List Button) :
    Milder (buttonsIssues ⟨wide, o, path⟩ kind place bs)
      (buttonsIssues ⟨narrow, o, path⟩ kind place bs) :=
  .append (countIssue_milder h.maxButtons _ _ _ _)
    (.mapIdx bs fun _ b => buttonIssues_milder h o path kind _ b)

theorem descriptionIssue_milder (place what : String) (d : Option TemplateText) :
    Milder (descriptionIssue ⟨wide, o, path⟩ kind place what d)
      (descriptionIssue ⟨narrow, o, path⟩ kind place what d) :=
  .bind d (lengthIssue_milder h.maxDescriptionLen _ _ _)

theorem listIssues_milder (p : Picker) :
    Milder (listIssues ⟨wide, o, path⟩ kind p) (listIssues ⟨narrow, o, path⟩ kind p) := by
  refine .append (.append (.append (.append ?feature ?sections) ?items) ?label) ?descriptions
  case feature => exact .lacking h.listPicker _
  case sections => exact countIssue_milder h.maxListSections _ _ _ _
  case items => exact countIssue_milder h.maxListItems _ _ _ _
  case label => exact lengthIssue_milder h.maxButtonLen _ _ _ _
  case descriptions =>
    exact .mapIdx p.sections fun _ sec => .mapIdx sec.items fun _ item =>
      descriptionIssue_milder h o path kind _ _ item.description

theorem cardIssues_milder (index : Nat) (card : Card) :
    Milder (cardIssues ⟨wide, o, path⟩ kind index card)
      (cardIssues ⟨narrow, o, path⟩ kind index card) :=
  .append (descriptionIssue_milder h o path kind _ _ card.description)
    (buttonsIssues_milder h o path kind _ card.buttons)

theorem cardsIssues_milder (cards : List Card) :
    Milder (cardsIssues ⟨wide, o, path⟩ kind cards) (cardsIssues ⟨narrow, o, path⟩ kind cards) := by
  unfold cardsIssues
  cases cards.isEmpty with
  | true => exact .refl []
  | false =>
    exact .append (.lacking h.carousel _)
      (.mapIdx cards fun index card => cardIssues_milder h o path kind index card)

theorem templateIssues_milder (v : View) :
    Milder (templateIssues ⟨wide, o, path⟩ v) (templateIssues ⟨narrow, o, path⟩ v) :=
  .used h.approvedTemplates v.template.isSome _

theorem markupIssues_milder (v : View) :
    Milder (markupIssues ⟨wide, o, path⟩ v) (markupIssues ⟨narrow, o, path⟩ v) := by
  unfold markupIssues
  rw [Bool.and_comm, Bool.and_comm (!narrow.richText)]
  exact .used h.richText _ _

theorem issues_milder (v : View) :
    Milder (issues ⟨wide, o, path⟩ v) (issues ⟨narrow, o, path⟩ v) := by
  refine .append (.append (.append (.append (.append (.append ?header ?footer) ?buttons) ?list)
    ?cards) ?template) ?markup
  case header => exact .bind v.header (lengthIssue_milder h.maxHeaderLen _ _ _)
  case footer => exact .bind v.footer (lengthIssue_milder h.maxFooterLen _ _ _)
  case buttons => exact buttonsIssues_milder h o path _ _ v.buttons
  case list => exact .flatMap fun p _ => listIssues_milder h o path _ p
  case cards => exact cardsIssues_milder h o path _ v.cards
  case template => exact templateIssues_milder h o path v
  case markup => exact markupIssues_milder h o path v

end Parts

end Fit

namespace Length

variable {wide narrow : Capabilities} (h : wide.Wider narrow)

include h

/-- A text that is put off, or too long, on the wider channel is so on the other. -/
theorem viewIssues_milder (o : Options) (path : String) (v : View) :
    Milder (viewIssues ⟨wide, o, path⟩ v) (viewIssues ⟨narrow, o, path⟩ v) := by
  unfold viewIssues
  cases v.text with
  | none => exact .refl []
  | some t =>
    cases hwide : wide.maxTextLen with
    | none => exact .nil _
    | some n =>
      obtain ⟨m, hm, hmn⟩ := h.maxTextLen n hwide
      rw [Option.mem_def] at hm
      rw [hm]
      dsimp only
      cases t.templated with
      | true => exact .refl _
      | false =>
        by_cases hn : n < t.size
        · rw [if_neg Bool.false_ne_true, if_neg Bool.false_ne_true, if_pos hn,
            if_pos (hmn.trans_lt hn)]
          exact .refl _
        · rw [if_neg Bool.false_ne_true, if_neg hn]
          exact .nil _

/-- Where the estimates of a design hold an error on the wider channel, they do on the other. -/
theorem hasErrors_designIssues_of_wider {r : Registry} {o : Options} {d : Design}
    (herror : hasErrors (designIssues (contextOf r wide o d)) = true) :
    hasErrors (designIssues (contextOf r narrow o d)) = true := by
  obtain ⟨max, hmax, n, hn, literal, estimated, hestimate, hlong⟩ := hasErrors_designIssues.1 herror
  obtain ⟨max', hmax', hle⟩ := h.maxTextLen max hmax
  exact hasErrors_designIssues.2
    ⟨max', hmax', n, hn, literal, estimated, hestimate, hle.trans_lt hlong⟩

end Length

section Views

variable {wide narrow : Capabilities} (h : wide.Wider narrow) (o : Options)

include h

/-- What is found in a view on the wider channel. Filters are looked up for no channel. -/
theorem standard_viewIssues_milder (path : String) (v : View) :
    Milder (Pipeline.standard.viewIssues ⟨wide, o, path⟩ v)
      (Pipeline.standard.viewIssues ⟨narrow, o, path⟩ v) := by
  rw [standard_viewIssues_eq, standard_viewIssues_eq]
  refine .append ?filters (.append ?length ?fit)
  case filters => exact .refl _
  case length => exact Length.viewIssues_milder h o path v
  case fit => exact Fit.issues_milder h o path v

theorem standard_viewsIssues_milder (views : List View) :
    Milder (Pipeline.standard.viewsIssues wide o views)
      (Pipeline.standard.viewsIssues narrow o views) :=
  .mapIdx views fun _ v => standard_viewIssues_milder h o _ v

end Views

/-! ## Plans -/

namespace Compiler

variable {d : Design} (k k' : Channel) (o : Options)

/-- The nodes of a design have their routes on one channel if they have them on another, and these
show the same views. -/
theorem routes_of_channel {ns : List Node} {rs : List (View × Route)}
    (hrs : List.Forall₂ (fun n r => (forChannel k o).route d n = .ok r) ns rs) :
    ∃ rs', List.Forall₂ (fun n r => (forChannel k' o).route d n = .ok r) ns rs' ∧
      rs'.map (·.1) = rs.map (·.1) := by
  -- on the routes; each node has its view on no channel, and every channel adapts it
  induction hrs with
  | nil => exact ⟨[], .nil, rfl⟩
  | @cons n r ns rs hr _ ih =>
    obtain ⟨rs', hrs', hviews⟩ := ih
    have hview : (forChannel k' o).view d n = .ok r.1 := (route_eq_ok_iff.1 hr).1
    refine ⟨(r.1, ⟨n.id, k'.adapt r.1⟩) :: rs', .cons ?_ hrs', ?_⟩
    · exact route_eq_ok_iff.2 ⟨hview, k'.adapt r.1, rfl, rfl⟩
    · rw [List.map_cons, List.map_cons, hviews]

/-- What compiles for one channel compiles for any other, from the same views. -/
theorem compile_of_channel {p : Compilation} (hp : (forChannel k o).compile d = .ok p) :
    ∃ p' views, (forChannel k' o).compile d = .ok p' ∧
      p.issues = (forChannel k o).issues d views ∧
      p'.issues = (forChannel k' o).issues d views := by
  obtain ⟨rs, hrs, rfl⟩ := compile_eq_ok_iff.1 hp
  obtain ⟨rs', hrs', hviews⟩ := routes_of_channel k k' o hrs
  exact ⟨_, rs.map (·.1), compile_eq_ok_iff.2 ⟨rs', hrs', rfl⟩, rfl, by rw [assemble, hviews]⟩

/-- Where the checks find an error for the wider channel, they do for the other. The flow, the
shape, the outputs, the policies and the variables of a design are checked for no channel. -/
theorem hasErrors_of_wider {wide narrow : Capabilities} (h : wide.Wider narrow)
    (name name' : String) {views : List View}
    (herror : hasErrors ((forChannel ⟨name, wide⟩ o).issues d views) = true) :
    hasErrors ((forChannel ⟨name', narrow⟩ o).issues d views) = true := by
  simp only [issues, forChannel, standard_designIssues_eq, hasErrors_append, Bool.or_eq_true]
    at herror ⊢
  rcases herror with (hflow | hshape | houtputs | hpolicies | hlengths | hvariables) | hviews
  · exact .inl (.inl hflow)
  · exact .inl (.inr (.inl hshape))
  · exact .inl (.inr (.inr (.inl houtputs)))
  · exact .inl (.inr (.inr (.inr (.inl hpolicies))))
  · have hlengths' := Length.hasErrors_designIssues_of_wider h hlengths
    exact .inl (.inr (.inr (.inr (.inr (.inl hlengths')))))
  · exact .inl (.inr (.inr (.inr (.inr (.inr hvariables)))))
  · exact .inr ((standard_viewsIssues_milder h o views).hasErrors hviews)

end Compiler

/-- A wider channel never makes things worse. In any view, the checks of fitness and of length find
no more than on the other channel, and in the same order. A design compiles for both channels or for
neither, and what is valid for the other channel is valid for the wider one. -/
theorem wider_channel_never_worse {wide narrow : Capabilities} (h : wide.Wider narrow)
    (o : Options) :
    (∀ path v, Milder (Fit.issues ⟨wide, o, path⟩ v) (Fit.issues ⟨narrow, o, path⟩ v) ∧
      Milder (Length.viewIssues ⟨wide, o, path⟩ v) (Length.viewIssues ⟨narrow, o, path⟩ v)) ∧
    ∀ name name' d,
      ((∃ p, (Compiler.forChannel ⟨name, wide⟩ o).compile d = .ok p) ↔
        ∃ p, (Compiler.forChannel ⟨name', narrow⟩ o).compile d = .ok p) ∧
      ∀ p, (Compiler.forChannel ⟨name', narrow⟩ o).compile d = .ok p → p.isValid = true →
        ∃ p', (Compiler.forChannel ⟨name, wide⟩ o).compile d = .ok p' ∧ p'.isValid = true := by
  refine ⟨fun path v => ⟨Fit.issues_milder h o path v, Length.viewIssues_milder h o path v⟩,
    fun name name' d => ⟨⟨?_, ?_⟩, ?_⟩⟩
  · intro hok
    obtain ⟨p, hp⟩ := hok
    obtain ⟨p', -, hp', -⟩ := Compiler.compile_of_channel _ ⟨name', narrow⟩ o hp
    exact ⟨p', hp'⟩
  · intro hok
    obtain ⟨p, hp⟩ := hok
    obtain ⟨p', -, hp', -⟩ := Compiler.compile_of_channel _ ⟨name, wide⟩ o hp
    exact ⟨p', hp'⟩
  · intro p hp hvalid
    obtain ⟨p', views, hp', hissues, hissues'⟩ :=
      Compiler.compile_of_channel _ ⟨name, wide⟩ o hp
    refine ⟨p', hp', ?_⟩
    rw [Compilation.isValid, hissues, Bool.not_eq_true'] at hvalid
    rw [Compilation.isValid, hissues', Bool.not_eq_true', ← Bool.not_eq_true]
    intro herror
    rw [Compiler.hasErrors_of_wider o h name name' herror] at hvalid
    cases hvalid

/-- A chat on the web without a limit of texts, with more buttons, of which some call. -/
def Capabilities.lounge : Capabilities :=
  { Capabilities.webchat with
    maxTextLen := none
    maxButtons := some 12
    approvedTemplates := true
    buttonKinds := [.reply, .url, .call] }

/-- The survey is as good there as on the web. -/
theorem lounge_never_worse :
    Capabilities.lounge.Wider .webchat ∧
      ∃ p, (Compiler.forChannel ⟨"lounge", .lounge⟩ .default).compile survey = .ok p ∧
        p.isValid = true := by
  have hwider : Capabilities.lounge.Wider .webchat := by decide
  obtain ⟨p, hp, hvalid⟩ := compile_survey
  exact ⟨hwider, (wider_channel_never_worse hwider .default).2 "lounge" "webchat" survey
    |>.2 p hp hvalid⟩

end ChatPlan
