import ChatPlan.Proofs.Step.Reading
import ChatPlan.Proofs.Template.Width

/-
What a step shows, in terms of its properties. For every kind of content there is one lemma: where
the content can be read and shown, the view is the given one with the texts, buttons, list or cards
that the properties spell out, and is otherwise unchanged.
-/
namespace ChatPlan

open Props Template

theorem scanOptional_eq_some {s : Option String} {t : TemplateText} :
    scanOptional s = .ok (some t) ↔ ∃ raw, s = some raw ∧ TemplateText.ofRaw raw = .ok t := by
  cases s with
  | none => simp [scanOptional]
  | some raw => simp [scanOptional, map_eq_ok_iff]

theorem scanOptional_some {s : String} {t : TemplateText} (h : TemplateText.ofRaw s = .ok t) :
    scanOptional (some s) = .ok (some t) := scanOptional_eq_some.2 ⟨s, rfl, h⟩

/-- A button that shows what its properties say. -/
structure Button.ReadFrom (p : Props) (b : Button) : Prop where
  label : scanOptional (textAmong? p ["label", "text", "title"]) = .ok (some b.label)
  answers : b.kind = .reply ↔ answers p = true ∧ isMistaken p = false
  reply : b.kind = .reply →
    (textAmong? p ["payload", "id"]).or (textAmong? p ["label", "text", "title"]) = some b.payload
  url : b.kind = .url → text? p "url" = some b.payload
  call : b.kind = .call → text? p "phone" = some b.payload

/-- A list item that shows what its properties say. -/
structure ListItem.ReadFrom (p : Props) (i : ListItem) : Prop where
  id : text? p "id" = some i.id
  title : scanOptional (textAmong? p ["title", "label"]) = .ok (some i.title)
  description : scanOptional (text? p "description") = .ok i.description

/-- A list section that shows what its properties say. -/
structure ListSection.ReadFrom (p : Props) (s : ListSection) : Prop where
  title : scanOptional (text? p "title") = .ok s.title
  items : List.Forall₂ ListItem.ReadFrom (objects p "items") s.items

/-- A card that shows what its properties say. -/
structure Card.ReadFrom (p : Props) (c : Card) : Prop where
  title : scanOptional (text? p "title") = .ok (some c.title)
  description : scanOptional (text? p "description") = .ok c.description
  imageUrl : textAmong? p ["image_url", "image"] = c.imageUrl
  buttons : List.Forall₂ Button.ReadFrom (objects p "buttons") c.buttons

/-- An approved template that is filled in as its properties say. -/
structure ApprovedTemplate.ReadFrom (p : Props) (t : ApprovedTemplate) : Prop where
  name : text? p "name" = some t.name
  language : text? p "language" = t.language
  params : List.Forall₂ (fun raw param =>
    ∃ i s, readParam i raw = .ok s ∧ TemplateText.ofRaw s = .ok param) (list p "params") t.params

/-! ## Parts of a view -/

theorem Button.readFrom_of_ok {p : Props} {c : ButtonContent} {b : Button}
    (h : ButtonContent.read p = .ok c) (hshow : ButtonContent.show c = .ok b) :
    Button.ReadFrom p b := by
  simp only [ButtonContent.show, bind_eq_ok_iff, pure_eq_ok_iff] at hshow
  obtain ⟨shown, hshown, rfl⟩ := hshow
  simp only [ButtonContent.read, bind_eq_ok_iff, require_eq_ok_iff] at h
  obtain ⟨_, hfound, label, rfl, kind, hkind, h⟩ := h
  have hlabel := stringAmong?_eq_ok hfound
  have hanswers := answers_iff_of_stringAmong? hkind
  split at h
  · rename_i hreply
    simp only [bind_eq_ok_iff, pure_eq_ok_iff] at h
    obtain ⟨payload, hpayload, rfl⟩ := h
    refine ⟨by rw [hlabel, scanOptional_some hshown], ?_, fun _ => ?_, nofun, nofun⟩
    · rw [hanswers, hreply]
      exact iff_of_true rfl rfl
    · rw [stringAmong?_eq_ok hpayload, hlabel]
      cases payload <;> rfl
  · split at h
    · rename_i hopens
      simp only [bind_eq_ok_iff, pure_eq_ok_iff] at h
      obtain ⟨url, hurl, rfl⟩ := h
      refine ⟨by rw [hlabel, scanOptional_some hshown], ?_, nofun, fun _ => string_eq_ok hurl,
        nofun⟩
      rw [hanswers, hopens]
      exact iff_of_false nofun (by decide)
    · split at h
      · rename_i hcalls
        simp only [bind_eq_ok_iff, pure_eq_ok_iff] at h
        obtain ⟨phone, hphone, rfl⟩ := h
        refine ⟨by rw [hlabel, scanOptional_some hshown], ?_, nofun, nofun,
          fun _ => string_eq_ok hphone⟩
        rw [hanswers]
        rw [Bool.or_eq_true, decide_eq_true_eq, decide_eq_true_eq] at hcalls
        rcases hcalls with hcall | hphone
        · rw [hcall]
          exact iff_of_false nofun (by decide)
        · rw [hphone]
          exact iff_of_false nofun (by decide)
      · cases h

theorem Button.readFrom_of_list {raw : List Json} {cs : List ButtonContent} {bs : List Button}
    (h : readButtons raw = .ok cs) (hshow : cs.mapM ButtonContent.show = .ok bs) :
    List.Forall₂ Button.ReadFrom (raw.filterMap Json.asObject?) bs := by
  obtain ⟨ms, hms, hcs⟩ := bind_eq_ok_iff.1 h
  rw [itemsOf_eq_ok hms]
  refine (forall₂_trans (eachItem_eq_ok hcs) (mapM_eq_ok_iff.1 hshow)).imp fun m b hmb => ?_
  obtain ⟨c, ⟨i, hread⟩, hshown⟩ := hmb
  exact Button.readFrom_of_ok (within_eq_ok_iff.1 hread) hshown

theorem ListItem.readFrom_of_ok {p : Props} {c : ItemContent} {i : ListItem}
    (h : ItemContent.read p = .ok c) (hshow : ItemContent.show c = .ok i) :
    ListItem.ReadFrom p i := by
  simp only [ItemContent.read, bind_eq_ok_iff, require_eq_ok_iff, pure_eq_ok_iff] at h
  obtain ⟨id, hid, _, htitle, title, rfl, description, hdescription, rfl⟩ := h
  simp only [ItemContent.show, bind_eq_ok_iff, pure_eq_ok_iff] at hshow
  obtain ⟨shown, hshown, about, habout, rfl⟩ := hshow
  exact {
    id := string_eq_ok hid
    title := by rw [stringAmong?_eq_ok htitle, scanOptional_some hshown]
    description := by rw [string?_eq_ok hdescription, habout] }

theorem ListSection.readFrom_of_ok {p : Props} {n : Nat} {c : SectionContent} {s : ListSection}
    (h : SectionContent.read n p = .ok c) (hshow : SectionContent.show c = .ok s) :
    ListSection.ReadFrom p s := by
  simp only [SectionContent.read, bind_eq_ok_iff, within_eq_ok_iff, require_eq_ok_iff,
    pure_eq_ok_iff] at h
  obtain ⟨raw, ⟨_, harray, rfl⟩, ms, hms, cs, hcs, title, htitle, rfl⟩ := h
  simp only [SectionContent.show, bind_eq_ok_iff, pure_eq_ok_iff] at hshow
  obtain ⟨is, his, heading, hheading, rfl⟩ := hshow
  refine ⟨by rw [string?_eq_ok htitle, hheading], ?_⟩
  rw [objects_of_array? harray hms]
  refine (forall₂_trans (eachItem_eq_ok hcs) (mapM_eq_ok_iff.1 his)).imp fun m i hmi => ?_
  obtain ⟨c, ⟨i, hread⟩, hshown⟩ := hmi
  exact ListItem.readFrom_of_ok (within_eq_ok_iff.1 hread) hshown

/-- A card without buttons is read as one with an empty array of them. -/
theorem CardContent.read_eq_ok {p : Props} {n : Nat} {c : CardContent}
    (h : CardContent.read n p = .ok c) : ∃ v, array? p "buttons" = .ok v ∧
      readButtons (v.getD []) = .ok c.buttons ∧ string p "title" = .ok c.title ∧
        string? p "description" = .ok c.description ∧
          stringAmong? p ["image_url", "image"] = .ok c.imageUrl := by
  rw [CardContent.read, within_eq_ok_iff] at h
  obtain ⟨v, harray, h⟩ := bind_eq_ok_iff.1 h
  refine ⟨v, harray, ?_⟩
  cases v with
  | none =>
    simp only [bind_eq_ok_iff, pure_eq_ok_iff] at h
    obtain ⟨cs, rfl, title, htitle, description, hdescription, imageUrl, himageUrl, rfl⟩ := h
    exact ⟨rfl, htitle, hdescription, himageUrl⟩
  | some raw =>
    simp only [bind_eq_ok_iff, pure_eq_ok_iff] at h
    obtain ⟨cs, hcs, title, htitle, description, hdescription, imageUrl, himageUrl, rfl⟩ := h
    exact ⟨hcs, htitle, hdescription, himageUrl⟩

theorem Card.readFrom_of_ok {p : Props} {n : Nat} {c : CardContent} {card : Card}
    (h : CardContent.read n p = .ok c) (hshow : CardContent.show c = .ok card) :
    Card.ReadFrom p card := by
  obtain ⟨v, harray, hbuttons, htitle, hdescription, himageUrl⟩ := CardContent.read_eq_ok h
  simp only [CardContent.show, bind_eq_ok_iff, pure_eq_ok_iff] at hshow
  obtain ⟨shown, hshown, about, habout, bs, hbs, rfl⟩ := hshow
  exact {
    title := by rw [string_eq_ok htitle, scanOptional_some hshown]
    description := by rw [string?_eq_ok hdescription, habout]
    imageUrl := stringAmong?_eq_ok himageUrl
    buttons := by
      rw [objects, array?_eq_ok harray]
      exact Button.readFrom_of_list hbuttons hbs }

/-! ## Contents -/

theorem readOption_eq_ok {p : Props} {key value default : String} {options : List String}
    (h : readOption p key options default = .ok value) :
    (text? p key).getD default = value ∧ value ∈ options := by
  simp only [readOption, bind_eq_ok_iff] at h
  obtain ⟨v, hv, h⟩ := h
  rw [string?_eq_ok hv]
  split at h
  · rename_i hin
    cases pure_eq_ok_iff.1 h
    exact ⟨rfl, List.contains_iff_mem.1 hin⟩
  · cases h

theorem readObjects_eq_ok {p : Props} {key : String} {ms : List Props}
    (h : readObjects p key = .ok ms) : objects p key = ms := by
  simp only [readObjects, bind_eq_ok_iff, require_eq_ok_iff] at h
  obtain ⟨v, harray, raw, rfl, h⟩ := h
  split at h
  · cases h
  · exact objects_of_array? harray h

section Contents

variable {p : Props} {c : Content} {before v : View}

theorem shown_message (h : readMessage p = .ok c) (hshow : c.show before = .ok v) :
    ∃ t, scanOptional (text? p "text") = .ok (some t) ∧ v = { before with text := some t } := by
  simp only [readMessage, bind_eq_ok_iff, pure_eq_ok_iff] at h
  obtain ⟨text, htext, rfl⟩ := h
  simp only [Content.show, bind_eq_ok_iff, pure_eq_ok_iff] at hshow
  obtain ⟨t, ht, rfl⟩ := hshow
  exact ⟨t, by rw [string_eq_ok htext, scanOptional_some ht], rfl⟩

theorem shown_media (h : readMedia p = .ok c) (hshow : c.show before = .ok v) :
    ∃ url mediaType t, text? p "url" = some url ∧
      (text? p "media_type").getD "image" = mediaType ∧ scanOptional (text? p "caption") = .ok t ∧
        v = { before with
          mediaUrl := some url
          text := t
          metadata := Members.insert "media_type" (.str mediaType) before.metadata } := by
  simp only [readMedia, bind_eq_ok_iff, pure_eq_ok_iff] at h
  obtain ⟨url, hurl, mediaType, hmedia, caption, hcaption, rfl⟩ := h
  simp only [Content.show, bind_eq_ok_iff, pure_eq_ok_iff] at hshow
  obtain ⟨t, ht, rfl⟩ := hshow
  exact ⟨url, mediaType, t, string_eq_ok hurl, (readOption_eq_ok hmedia).1,
    by rw [string?_eq_ok hcaption, ht], rfl⟩

theorem shown_buttons (h : readButtonsContent p = .ok c) (hshow : c.show before = .ok v) :
    ∃ t header footer bs, scanOptional (text? p "text") = .ok (some t) ∧
      scanOptional (text? p "header") = .ok header ∧ scanOptional (text? p "footer") = .ok footer ∧
        List.Forall₂ Button.ReadFrom (objects p "buttons") bs ∧
          v = { before with text := some t, header, footer, buttons := bs } := by
  simp only [readButtonsContent, bind_eq_ok_iff, require_eq_ok_iff] at h
  obtain ⟨_, harray, raw, rfl, h⟩ := h
  split at h
  · cases h
  · simp only [bind_eq_ok_iff, pure_eq_ok_iff] at h
    obtain ⟨text, htext, header, hheader, footer, hfooter, cs, hcs, rfl⟩ := h
    simp only [Content.show, bind_eq_ok_iff, pure_eq_ok_iff] at hshow
    obtain ⟨t, ht, head, hhead, foot, hfoot, bs, hbs, rfl⟩ := hshow
    refine ⟨t, head, foot, bs, ?_, ?_, ?_, ?_, rfl⟩
    · rw [string_eq_ok htext, scanOptional_some ht]
    · rw [string?_eq_ok hheader, hhead]
    · rw [string?_eq_ok hfooter, hfoot]
    · rw [objects, array?_eq_ok harray]
      exact Button.readFrom_of_list hcs hbs

theorem shown_list (h : readList p = .ok c) (hshow : c.show before = .ok v) :
    ∃ t header footer label sections, scanOptional (text? p "text") = .ok (some t) ∧
      scanOptional (text? p "header") = .ok header ∧ scanOptional (text? p "footer") = .ok footer ∧
        TemplateText.ofRaw ((text? p "button_label").getD "Options") = .ok label ∧
          List.Forall₂ ListSection.ReadFrom (objects p "sections") sections ∧
            v = { before with text := some t, header, footer, list := some ⟨label, sections⟩ } := by
  simp only [readList, bind_eq_ok_iff, pure_eq_ok_iff] at h
  obtain ⟨ms, hms, cs, hcs, text, htext, header, hheader, footer, hfooter, label, hlabel, rfl⟩ := h
  simp only [Content.show, bind_eq_ok_iff, pure_eq_ok_iff] at hshow
  obtain ⟨t, ht, head, hhead, foot, hfoot, ss, hss, opening, hopening, rfl⟩ := hshow
  refine ⟨t, head, foot, opening, ss, ?_, ?_, ?_, ?_, ?_, rfl⟩
  · rw [string_eq_ok htext, scanOptional_some ht]
  · rw [string?_eq_ok hheader, hhead]
  · rw [string?_eq_ok hfooter, hfoot]
  · rw [string?_eq_ok hlabel, hopening]
  · rw [readObjects_eq_ok hms]
    refine (forall₂_trans (eachItem_eq_ok hcs) (mapM_eq_ok_iff.1 hss)).imp fun m s hs => ?_
    obtain ⟨c, ⟨i, hread⟩, hshown⟩ := hs
    exact ListSection.readFrom_of_ok hread hshown

theorem shown_carousel (h : readCarousel p = .ok c) (hshow : c.show before = .ok v) :
    ∃ t cards, scanOptional (text? p "text") = .ok t ∧
      List.Forall₂ Card.ReadFrom (objects p "cards") cards ∧
        v = { before with text := t, cards } := by
  simp only [readCarousel, bind_eq_ok_iff, pure_eq_ok_iff] at h
  obtain ⟨ms, hms, cs, hcs, text, htext, rfl⟩ := h
  simp only [Content.show, bind_eq_ok_iff, pure_eq_ok_iff] at hshow
  obtain ⟨t, ht, cards, hcards, rfl⟩ := hshow
  refine ⟨t, cards, by rw [string?_eq_ok htext, ht], ?_, rfl⟩
  rw [readObjects_eq_ok hms]
  refine (forall₂_trans (eachItem_eq_ok hcs) (mapM_eq_ok_iff.1 hcards)).imp fun m card hcard => ?_
  obtain ⟨c, ⟨i, hread⟩, hshown⟩ := hcard
  exact Card.readFrom_of_ok hread hshown

theorem shown_confirm (h : readConfirm p = .ok c) (hshow : c.show before = .ok v) :
    ∃ t yes no, scanOptional (text? p "text") = .ok (some t) ∧
      TemplateText.ofRaw ((text? p "yes_label").getD "Yes") = .ok yes ∧
        TemplateText.ofRaw ((text? p "no_label").getD "No") = .ok no ∧
          v = { before with
            text := some t
            buttons := [⟨yes, "yes", .reply⟩, ⟨no, "no", .reply⟩] } := by
  simp only [readConfirm, bind_eq_ok_iff, pure_eq_ok_iff] at h
  obtain ⟨text, htext, yes, hyes, no, hno, rfl⟩ := h
  simp only [Content.show, ButtonContent.show, bind_eq_ok_iff, pure_eq_ok_iff] at hshow
  obtain ⟨t, ht, _, ⟨y, hy, rfl⟩, _, ⟨n, hn, rfl⟩, rfl⟩ := hshow
  refine ⟨t, y, n, ?_, ?_, ?_, rfl⟩
  · rw [string_eq_ok htext, scanOptional_some ht]
  · rw [string?_eq_ok hyes, hy]
  · rw [string?_eq_ok hno, hn]

theorem shown_input (h : readInput p = .ok c) (hshow : c.show before = .ok v) :
    ∃ inputType t, (text? p "input_type").getD "text" = inputType ∧
      scanOptional (text? p "text") = .ok (some t) ∧
        v = { before with
          text := some t
          metadata := Members.insert "input_type" (.str inputType) before.metadata } := by
  simp only [readInput, bind_eq_ok_iff, pure_eq_ok_iff] at h
  obtain ⟨inputType, hinput, text, htext, rfl⟩ := h
  simp only [Content.show, bind_eq_ok_iff, pure_eq_ok_iff] at hshow
  obtain ⟨t, ht, rfl⟩ := hshow
  exact ⟨inputType, t, (readOption_eq_ok hinput).1,
    by rw [string_eq_ok htext, scanOptional_some ht], rfl⟩

theorem shown_pause (h : readPause p = .ok c) (hshow : c.show before = .ok v) : v = before := by
  unfold readPause at h
  split at h
  · cases h
  · cases h
  · cases h
    cases hshow
    rfl

/-- An approved template without parameters is read as one with an empty array of them. -/
theorem readApproved_eq_ok (h : readApproved p = .ok c) :
    ∃ m name language v params, object? p "template" = .ok (some m) ∧ string m "name" = .ok name ∧
      string? m "language" = .ok language ∧ array? m "params" = .ok v ∧
        eachItem readParam (v.getD []) = .ok params ∧ c = .approved name language params := by
  simp only [readApproved, bind_eq_ok_iff, require_eq_ok_iff, within_eq_ok_iff] at h
  obtain ⟨_, hobject, m, rfl, name, hname, v, harray, h⟩ := h
  cases v with
  | none =>
    simp only [bind_eq_ok_iff, pure_eq_ok_iff, within_eq_ok_iff] at h
    obtain ⟨params, rfl, language, hlanguage, rfl⟩ := h
    exact ⟨m, name, language, none, [], hobject, hname, hlanguage, harray, rfl, rfl⟩
  | some raw =>
    simp only [bind_eq_ok_iff, pure_eq_ok_iff, within_eq_ok_iff] at h
    obtain ⟨params, hparams, language, hlanguage, rfl⟩ := h
    exact ⟨m, name, language, some raw, params, hobject, hname, hlanguage, harray, hparams, rfl⟩

theorem shown_approved (h : readApproved p = .ok c) (hshow : c.show before = .ok v) :
    ∃ m t, (Members.get? p "template").bind Json.asObject? = some m ∧
      ApprovedTemplate.ReadFrom m t ∧ v = { before with template := some t } := by
  obtain ⟨m, name, language, raw, params, hobject, hname, hlanguage, harray, hparams, rfl⟩ :=
    readApproved_eq_ok h
  simp only [Content.show, bind_eq_ok_iff, pure_eq_ok_iff] at hshow
  obtain ⟨ts, hts, rfl⟩ := hshow
  refine ⟨m, ⟨name, language, ts⟩, typed?_eq_ok rfl hobject, ?_, rfl⟩
  refine ⟨string_eq_ok hname, string?_eq_ok hlanguage, ?_⟩
  rw [array?_eq_ok harray]
  refine (forall₂_trans (eachItem_eq_ok hparams) (mapM_eq_ok_iff.1 hts)).imp fun j t hjt => ?_
  obtain ⟨s, ⟨i, hread⟩, ht⟩ := hjt
  exact ⟨i, s, hread, ht⟩

end Contents

end ChatPlan
