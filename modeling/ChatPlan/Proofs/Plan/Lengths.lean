import ChatPlan.Proofs.Check.Views
import ChatPlan.Proofs.Plan.Compile
import ChatPlan.Proofs.Step.Kinds

/-
Which principal texts that are too long are reported. The two checks of length share the texts
between them, and what one leaves out is not always what the other takes. A text without blocks is
measured in its view; a text with an output block is estimated, but only where it is the property
`text` of its node. Captions with blocks, and texts whose blocks are all statements or comments, are
put off by the one check and skipped by the other.
-/
namespace ChatPlan

open Compiler

/-- A finding that is more than a note says that the text of the node at this place is too long. -/
def IsReported (o : Options) (issues : List Issue) (place : Nat) (n : Node) : Prop :=
  ∃ i ∈ issues, i.severity ≠ .info ∧
    (i.code = "text.length.exceeded" ∧ i.path = o.basePath ++ s!".routes[{place}].text" ∨
      i.code = "template.length.static_exceeded" ∧ i.path = nodePath n.id ++ ".props.text")

/-- Some check measures what stands outside the blocks of the text: the text has no blocks, or it is
no caption and has an output block. -/
def IsMeasured (n : Node) (t : TemplateText) : Prop :=
  t.templated = false ∨ n.kind ≠ "media" ∧ t.blocks.any (·.kind == .output) = true

theorem at_text (k : Channel) (o : Options) (j : Nat) :
    (placeOf k o j).at "text" = o.basePath ++ s!".routes[{j}].text" := by
  simp only [ViewContext.at, String.append_assoc]
  rfl

section Text

variable {k : Channel} {o : Options} {d : Design} {rs : List (View × Route)} {place max : Nat}
  {n : Node} {v : View} {t : TemplateText}

theorem text_of_node (hview : (forChannel k o).view d n = .ok v) (ht : v.text = some t) :
    ∃ raw, Props.text? (d.resolvedProps n) (if n.kind = "media" then "caption" else "text") =
      some raw ∧ TemplateText.ofRaw raw = .ok t := by
  obtain ⟨kind, s, hkind, hs, hsv⟩ := view_eq_ok hview
  obtain ⟨hmem, hname⟩ := Registry.mem_builtinKinds hkind
  rw [← hname]
  exact scanOptional_eq_some.1 (Kind.text_of_view hmem hs hsv ht)

theorem reported_of_measured (hn : n ∈ d.graph.nodes)
    (hmax : k.capabilities.maxTextLen = some max) (hview : (forChannel k o).view d n = .ok v)
    (hv : (rs.map (·.1))[place]? = some v) (ht : v.text = some t) (hlong : max < t.literalSize)
    (hmeasured : IsMeasured n t) :
    IsReported o ((forChannel k o).issues d (rs.map (·.1))) place n := by
  obtain ⟨raw, hraw, hscan⟩ := text_of_node hview ht
  rcases hmeasured with hplain | ⟨hkind, hout⟩
  · have hblocks : t.blocks = [] := by
      simpa [TemplateText.templated_of_ofRaw hscan] using hplain
    rw [TemplateText.literalSize_of_plain hblocks] at hlong
    obtain ⟨i, hi, hwarn, hcode, hpath⟩ :=
      Length.exists_viewIssue (c := placeOf k o place) hmax ht hplain hlong
    refine ⟨i, ?_, by simp [hwarn], .inl ⟨hcode, hpath.trans (at_text k o place)⟩⟩
    exact mem_issues.2 (.inr (.inr (mem_viewsIssues.2 ⟨place, v, hv, .inr (.inl hi)⟩)))
  · rw [if_neg hkind] at hraw
    have hestimate := TemplateText.estimate?_of_ofRaw hscan
    rw [if_pos hout] at hestimate
    obtain ⟨i, hi, herror, hcode, hpath⟩ :=
      Length.exists_designIssue (c := contextOf .builtin k.capabilities o d) hn hmax hraw hestimate hlong
    refine ⟨i, ?_, by simp [herror], .inr ⟨hcode, hpath⟩⟩
    exact mem_issues.2 (.inr (.inl (.inr (.inr (.inr (.inl hi))))))

theorem plain_of_exceeded (hv : (rs.map (·.1))[place]? = some v) (ht : v.text = some t) {i : Issue}
    (hi : i ∈ (forChannel k o).issues d (rs.map (·.1))) (hcode : i.code = "text.length.exceeded")
    (hpath : i.path = o.basePath ++ s!".routes[{place}].text") : t.templated = false := by
  obtain ⟨j, w, hw, hij⟩ := mem_of_area_text hi (by simp [hcode, areaOf])
  obtain ⟨hplace, t', ht', hplain⟩ := Length.plain_of_viewIssue hij hcode
  have hj : j = place := by
    rw [hpath, ← at_text k o place] at hplace
    exact (routePath_injective o.basePath (by simpa [ViewContext.at] using hplace)).symm
  subst hj
  cases hv.symm.trans hw
  cases ht.symm.trans ht'
  exact hplain

/-- What is said to be too long in its node is a property `text` that was estimated. Ids have to be
distinct, since the place of such an issue names the node by its id. -/
theorem estimated_of_exceeded (hids : (d.graph.nodes.map (·.id)).Nodup) (hn : n ∈ d.graph.nodes)
    {i : Issue} (hi : i ∈ (forChannel k o).issues d (rs.map (·.1)))
    (hcode : i.code = "template.length.static_exceeded")
    (hpath : i.path = nodePath n.id ++ ".props.text") :
    ∃ raw, Props.text? (d.resolvedProps n) "text" = some raw ∧ (Template.estimate? raw).isSome := by
  rcases mem_of_area_template hi (by simp [hcode, areaOf]) with
    hdesign | ⟨j, v, -, hfilter⟩
  · obtain ⟨m, hm, hplace, raw, htext, hsome⟩ := Length.estimated_of_designIssue hdesign
    have hid : m.id = n.id := by
      rw [hpath] at hplace
      exact nodePath_injective (by simpa using hplace.symm)
    cases List.inj_on_of_nodup_map hids hm hn hid
    exact ⟨raw, htext, hsome⟩
  · have hother := Filters.code_of_mem hfilter
    rw [hcode] at hother
    exact absurd hother (by decide)

theorem measured_of_reported (hids : (d.graph.nodes.map (·.id)).Nodup) (hn : n ∈ d.graph.nodes)
    (hmedia : n.kind = "media" → Props.text? (d.resolvedProps n) "text" = none)
    (hview : (forChannel k o).view d n = .ok v) (hv : (rs.map (·.1))[place]? = some v)
    (ht : v.text = some t)
    (hreported : IsReported o ((forChannel k o).issues d (rs.map (·.1))) place n) :
    IsMeasured n t := by
  obtain ⟨i, hi, -, ⟨hcode, hpath⟩ | ⟨hcode, hpath⟩⟩ := hreported
  · exact .inl (plain_of_exceeded hv ht hi hcode hpath)
  · obtain ⟨raw, htext, hsome⟩ := estimated_of_exceeded hids hn hi hcode hpath
    have hkind : n.kind ≠ "media" := by
      intro hkind
      cases (hmedia hkind).symm.trans htext
    obtain ⟨raw', hraw, hscan⟩ := text_of_node hview ht
    rw [if_neg hkind] at hraw
    cases hraw.symm.trans htext
    rw [TemplateText.estimate?_of_ofRaw hscan] at hsome
    refine .inr ⟨hkind, ?_⟩
    by_contra hnone
    rw [if_neg hnone] at hsome
    cases hsome

end Text

/-- A principal text that is too long outside its blocks is reported if some check measures it. Where
no two nodes share an id, and media do not carry a `text` beside their caption, it is not reported
otherwise. -/
theorem long_text_reported (k : Channel) (o : Options) {d : Design} {p : Compilation}
    (hp : (forChannel k o).compile d = .ok p) {max : Nat}
    (hmax : k.capabilities.maxTextLen = some max) {place : Nat} {n : Node}
    (hn : d.graph.nodes[place]? = some n) {v : View} (hview : (forChannel k o).view d n = .ok v)
    {t : TemplateText} (ht : v.text = some t) (hlong : max < t.literalSize) :
    (IsMeasured n t → IsReported o p.issues place n) ∧
      ((d.graph.nodes.map (·.id)).Nodup →
        (n.kind = "media" → Props.text? (d.resolvedProps n) "text" = none) →
          IsReported o p.issues place n → IsMeasured n t) := by
  obtain ⟨rs, hrs, rfl⟩ := compile_eq_ok_iff.1 hp
  obtain ⟨w, hw, hv⟩ := exists_view hrs hn
  cases hview.symm.trans hw
  have hmem : n ∈ d.graph.nodes := List.mem_of_getElem? hn
  constructor
  · exact reported_of_measured hmem hmax hview hv ht hlong
  · exact fun hids hmedia => measured_of_reported hids hmem hmedia hview hv ht

/-- A channel that shows ten characters. -/
def Channel.pager : Channel := ⟨"pager", { maxTextLen := some 10 }⟩

/-- A plain text, a picture with a templated caption, and a text with a remark in it. -/
def album : Design where
  schema := "chat.design/v1"
  bot := ⟨"bot", ["web"]⟩
  version := ⟨"v1", .development⟩
  entries := [⟨.globalStart, none, "intro"⟩]
  graph := {
    nodes := [
      ⟨"intro", "message", [("text", .str "This is the album")], none, ["next"], false, none, none⟩,
      ⟨"photo", "media", [("caption", .str "A portrait of {{ name }}"), ("url", .str "p.png")], none,
        ["next"], false, none, none⟩,
      ⟨"last", "message", [("text", .str "{# draft #}That was the album")], none, [], true, none,
        none⟩]
    edges := [⟨"intro", "photo", "next", 0, none, none⟩, ⟨"photo", "last", "next", 0, none, none⟩] }
  profile := none
  props := []

/-- The principal texts of the album. -/
def album.texts : List TemplateText := [
  ⟨"This is the album", false, []⟩,
  ⟨"A portrait of {{ name }}", true, [⟨.output, "{{ name }}", "name", 14, ["name"], []⟩]⟩,
  ⟨"{# draft #}That was the album", true, [⟨.comment, "{# draft #}", "draft", 0, [], []⟩]⟩]

theorem compile_album :
    ∃ p, (forChannel .pager .default).compile album = .ok p ∧ p.isValid = true := by
  apply exists_valid
  · decide +kernel
  · decide +kernel
  · cbv

theorem album.exists_text {place : Nat} {n : Node} (hn : album.graph.nodes[place]? = some n) :
    ∃ v t, (forChannel .pager .default).view album n = .ok v ∧ v.text = some t ∧
      album.texts[place]? = some t := by
  have hall : (album.graph.nodes.mapM fun n =>
      ((forChannel .pager .default).view album n).map (·.text)) = .ok (album.texts.map some) := by
    decide +kernel
  obtain ⟨w, hw, hview⟩ := getElem?_of_forall₂ (mapM_eq_ok_iff.1 hall) hn
  obtain ⟨v, hv, htext⟩ := map_eq_ok_iff.1 hview
  rw [List.getElem?_map, Option.map_eq_some_iff] at hw
  obtain ⟨t, ht, rfl⟩ := hw
  exact ⟨v, t, hv, htext, ht⟩

theorem album.ids_nodup : (album.graph.nodes.map (·.id)).Nodup := by decide

theorem album.no_stray_text : ∀ n ∈ album.graph.nodes,
    n.kind = "media" → Props.text? (album.resolvedProps n) "text" = none := by
  decide +kernel

/-- The plain text of the album is too long. It is measured, and so it is reported. -/
theorem album_intro_reported :
    ∃ p v t, (forChannel .pager .default).compile album = .ok p ∧
      (forChannel .pager .default).view album album.graph.nodes[0] = .ok v ∧ v.text = some t ∧
        10 < t.literalSize ∧ IsReported .default p.issues 0 album.graph.nodes[0] ∧
          IsMeasured album.graph.nodes[0] t := by
  obtain ⟨p, hp, -⟩ := compile_album
  have hn : album.graph.nodes[0]? = some album.graph.nodes[0] := rfl
  obtain ⟨v, t, hv, ht, htext⟩ := album.exists_text hn
  cases htext
  obtain ⟨hreported, hmeasured⟩ := long_text_reported .pager .default hp rfl hn hv ht (by decide)
  have hintro := hreported (.inl rfl)
  refine ⟨p, v, _, hp, hv, ht, by decide, hintro, ?_⟩
  exact hmeasured album.ids_nodup (album.no_stray_text _ (List.getElem_mem _)) hintro

theorem album.silent {p : Compilation} (hp : (forChannel .pager .default).compile album = .ok p)
    {place : Nat} {n : Node} (hn : album.graph.nodes[place]? = some n) {v : View}
    (hview : (forChannel .pager .default).view album n = .ok v) {t : TemplateText}
    (ht : v.text = some t) (hmeasured : ¬IsMeasured n t) : ¬IsReported .default p.issues place n := by
  obtain ⟨rs, hrs, rfl⟩ := compile_eq_ok_iff.1 hp
  obtain ⟨w, hw, hv⟩ := exists_view hrs hn
  cases hview.symm.trans hw
  have hmem : n ∈ album.graph.nodes := List.mem_of_getElem? hn
  intro hreported
  have hmedia := album.no_stray_text n hmem
  exact hmeasured (measured_of_reported album.ids_nodup hmem hmedia hview hv ht hreported)

/-- The other two texts of the album are too long outside their blocks as well, but are not reported;
the plan is valid. -/
theorem album_unreported :
    ∃ p, (forChannel .pager .default).compile album = .ok p ∧ p.isValid = true ∧
      ∀ place ∈ [1, 2], ∃ n v t, album.graph.nodes[place]? = some n ∧
        (forChannel .pager .default).view album n = .ok v ∧ v.text = some t ∧
          10 < t.literalSize ∧ ¬IsReported .default p.issues place n := by
  obtain ⟨p, hp, hvalid⟩ := compile_album
  refine ⟨p, hp, hvalid, List.forall_mem_cons.2 ⟨?_, List.forall_mem_singleton.2 ?_⟩⟩
  · have hn : album.graph.nodes[1]? = some album.graph.nodes[1] := rfl
    obtain ⟨v, t, hv, ht, htext⟩ := album.exists_text hn
    cases htext
    refine ⟨_, v, _, hn, hv, ht, by decide, album.silent hp hn hv ht fun h => ?_⟩
    rcases h with hplain | ⟨hkind, -⟩
    · cases hplain
    · exact hkind rfl
  · have hn : album.graph.nodes[2]? = some album.graph.nodes[2] := rfl
    obtain ⟨v, t, hv, ht, htext⟩ := album.exists_text hn
    cases htext
    refine ⟨_, v, _, hn, hv, ht, by decide, album.silent hp hn hv ht fun h => ?_⟩
    rcases h with hplain | ⟨-, hout⟩
    · cases hplain
    · cases hout

end ChatPlan
