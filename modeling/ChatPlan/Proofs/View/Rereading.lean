import ChatPlan.Proofs.Json.Restored
import ChatPlan.Proofs.Step.Texts
import ChatPlan.View.Reader
import ChatPlan.View.Writer

/-
A view is read again from the value that is written for it (`View.restored`): what is left out where
it is missing or empty is what reading takes for missing, at every level of nesting, and the name of
a choice is read as that choice. All that is asked of the view is that its numbers fit the words in
which they are kept, and that its notes are a value as it is kept.
-/
namespace ChatPlan

open Json Template

/-! ## Views as they are kept -/

/-- Where the blocks of the text start fits a word. -/
def TemplateText.InRange (t : TemplateText) : Prop := ∀ b ∈ t.blocks, b.offset < Nat.pow 2 64

/-- The numbers of the policies fit their words. -/
structure Behavior.InRange (b : Behavior) : Prop where
  timeout : ∀ t, b.timeout = some t → t.seconds < Nat.pow 2 64
  retry : ∀ r, b.retry = some r → r.maxAttempts < Nat.pow 2 32
  delay : ∀ millis, b.delay = some millis → millis < Nat.pow 2 64
  experiment : ∀ e, b.experiment = some e → ∀ v ∈ e.variants, v.weight < Nat.pow 2 32

/-- The numbers of the view fit their words, and its notes are an object as it is kept. -/
structure View.WellFormed (v : View) : Prop where
  texts : v.Each TemplateText.InRange
  behavior : ∀ b, v.behavior = some b → b.InRange
  notes : (Json.obj v.metadata).WellFormed

/-! ## Choices -/

theorem Template.BlockKind.ofName?_name (k : BlockKind) : ofName? k.name = some k := by
  cases k <;> decide

theorem ButtonKind.ofName?_name (k : ButtonKind) : ofName? k.name = some k := by
  cases k <;> decide

theorem Scope.ofName?_name (s : Scope) : ofName? s.name = some s := by
  cases s <;> decide

theorem Sanitizer.ofName?_name (s : Sanitizer) : ofName? s.name = some s := by
  cases s <;> decide

variable {depth : Nat}

theorem restored_choice {α : Type} {name : α → String} {ofName? : String → Option α}
    (h : ∀ a, ofName? (name a) = some a) (a : α) :
    Restored depth (namedChoice? ofName?) (fun a => .str (name a)) a :=
  ⟨.str _, h a⟩

/-! ## Texts -/

theorem Template.Block.restored {b : Block} (hroom : 2 ≤ depth) (hb : b.offset < Nat.pow 2 64) :
    Restored depth Block.ofTree? Block.toJson b := by
  obtain ⟨depth, rfl⟩ := Nat.exists_eq_add_of_le' hroom
  have keptKind : Kept (depth + 1) _ _ b.kind :=
    (restored_choice BlockKind.ofName?_name b.kind).required
  have keptRaw : Kept (depth + 1) _ _ b.raw := (restored_string b.raw).required
  have keptBody : Kept (depth + 1) _ _ b.body := (restored_string b.body).required
  have keptOffset : Kept (depth + 1) (·.required Tree.asWord?) _ b.offset :=
    (restored_natBelow le_rfl hb).required
  have keptVars : Kept (depth + 1) _ _ b.vars := (restored_strings b.vars).required
  have keptFilters : Kept (depth + 1) _ _ b.filters := (restored_strings b.filters).required
  rw [Restored, Block.toJson, object_eq_record]
  refine record_again [["kind"], ["raw"], ["body"], ["offset"], ["variables"], ["filters"]]
    (by decide) rfl ?_ fun t ht => ?_
  · simp only [List.map, List.forall_mem_cons]
    exact ⟨keptKind.within, keptRaw.within, keptBody.within, keptOffset.within, keptVars.within,
      keptFilters.within, List.forall_mem_nil _⟩
  · rw [Block.ofTree?, ht]
    simp only [List.map, keptKind.read_eq, keptRaw.read_eq, keptBody.read_eq, keptOffset.read_eq,
      keptVars.read_eq, keptFilters.read_eq]
    rfl

theorem TemplateText.restored {t : TemplateText} (hroom : 4 ≤ depth) (ht : t.InRange) :
    Restored depth TemplateText.ofTree? TemplateText.toJson t := by
  obtain ⟨depth, rfl⟩ := Nat.exists_eq_add_of_le' hroom
  have keptRaw : Kept (depth + 3) _ _ t.raw := (restored_string t.raw).required
  have keptTemplated : Kept (depth + 3) _ _ t.templated :=
    (restored_bool t.templated).orElse false
  have keptBlocks : Kept (depth + 3) _ _ t.blocks :=
    Restored.nonEmpty fun b hb => Block.restored (by omega) (ht b hb)
  rw [Restored, TemplateText.toJson]
  refine record_again [["raw"], ["template"], ["expressions"]] (by decide) rfl ?_ fun t ht => ?_
  · simp only [List.forall_mem_cons]
    exact ⟨keptRaw.within, keptTemplated.within, keptBlocks.within, List.forall_mem_nil _⟩
  · rw [TemplateText.ofTree?, ht]
    simp only [List.map, keptRaw.read_eq, keptTemplated.read_eq, keptBlocks.read_eq]
    rfl

theorem TemplateText.restored_optional {o : Option TemplateText} (hroom : 4 ≤ depth)
    (ho : ∀ t, o = some t → t.InRange) :
    Kept depth (·.optional TemplateText.ofTree?) (o.map TemplateText.toJson) o :=
  Restored.optional (fun t ht => TemplateText.restored hroom (ho t ht)) fun _ _ => nofun

/-! ## What a view shows -/

theorem Button.restored {b : Button} (hroom : 5 ≤ depth) (hb : b.label.InRange) :
    Restored depth Button.ofTree? Button.toJson b := by
  obtain ⟨depth, rfl⟩ := Nat.exists_eq_add_of_le' hroom
  have keptLabel : Kept (depth + 4) _ _ b.label :=
    (TemplateText.restored (by omega) hb).required
  have keptPayload : Kept (depth + 4) _ _ b.payload := (restored_string b.payload).required
  have keptKind : Kept (depth + 4) _ _ b.kind :=
    (restored_choice ButtonKind.ofName?_name b.kind).required
  rw [Restored, Button.toJson, object_eq_record]
  refine record_again [["label"], ["payload"], ["kind"]] (by decide) rfl ?_ fun t ht => ?_
  · simp only [List.map, List.forall_mem_cons]
    exact ⟨keptLabel.within, keptPayload.within, keptKind.within, List.forall_mem_nil _⟩
  · rw [Button.ofTree?, ht]
    simp only [List.map, keptLabel.read_eq, keptPayload.read_eq, keptKind.read_eq]
    rfl

theorem ListItem.restored {i : ListItem} (hroom : 5 ≤ depth) (hi : i.Each TemplateText.InRange) :
    Restored depth ListItem.ofTree? ListItem.toJson i := by
  obtain ⟨depth, rfl⟩ := Nat.exists_eq_add_of_le' hroom
  have keptId : Kept (depth + 4) _ _ i.id := (restored_string i.id).required
  have keptTitle : Kept (depth + 4) _ _ i.title :=
    (TemplateText.restored (by omega) hi.title).required
  have keptDescription : Kept (depth + 4) _ _ i.description :=
    TemplateText.restored_optional (by omega) hi.description
  rw [Restored, ListItem.toJson]
  refine record_again [["id"], ["title"], ["description"]] (by decide) rfl ?_ fun t ht => ?_
  · simp only [List.forall_mem_cons]
    exact ⟨keptId.within, keptTitle.within, keptDescription.within, List.forall_mem_nil _⟩
  · rw [ListItem.ofTree?, ht]
    simp only [List.map, keptId.read_eq, keptTitle.read_eq, keptDescription.read_eq]
    rfl

theorem ListSection.restored {s : ListSection} (hroom : 7 ≤ depth)
    (hs : s.Each TemplateText.InRange) :
    Restored depth ListSection.ofTree? ListSection.toJson s := by
  obtain ⟨depth, rfl⟩ := Nat.exists_eq_add_of_le' hroom
  have keptTitle : Kept (depth + 6) _ _ s.title :=
    TemplateText.restored_optional (by omega) hs.title
  have keptItems : Kept (depth + 6) _ _ s.items :=
    (Restored.list fun i hi => ListItem.restored (by omega) (hs.items i hi)).required
  rw [Restored, ListSection.toJson]
  refine record_again [["title"], ["items"]] (by decide) rfl ?_ fun t ht => ?_
  · simp only [List.forall_mem_cons]
    exact ⟨keptTitle.within, keptItems.within, List.forall_mem_nil _⟩
  · rw [ListSection.ofTree?, ht]
    simp only [List.map, keptTitle.read_eq, keptItems.read_eq]
    rfl

theorem Picker.restored {p : Picker} (hroom : 9 ≤ depth) (hp : p.Each TemplateText.InRange) :
    Restored depth Picker.ofTree? Picker.toJson p := by
  obtain ⟨depth, rfl⟩ := Nat.exists_eq_add_of_le' hroom
  have keptButtonLabel : Kept (depth + 8) _ _ p.buttonLabel :=
    (TemplateText.restored (by omega) hp.buttonLabel).required
  have keptSections : Kept (depth + 8) _ _ p.sections :=
    (Restored.list fun s hs => ListSection.restored (by omega) (hp.sections s hs)).required
  rw [Restored, Picker.toJson, object_eq_record]
  refine record_again [["button_label"], ["sections"]] (by decide) rfl ?_ fun t ht => ?_
  · simp only [List.map, List.forall_mem_cons]
    exact ⟨keptButtonLabel.within, keptSections.within, List.forall_mem_nil _⟩
  · rw [Picker.ofTree?, ht]
    simp only [List.map, keptButtonLabel.read_eq, keptSections.read_eq]
    rfl

theorem Card.restored {c : Card} (hroom : 7 ≤ depth) (hc : c.Each TemplateText.InRange) :
    Restored depth Card.ofTree? Card.toJson c := by
  obtain ⟨depth, rfl⟩ := Nat.exists_eq_add_of_le' hroom
  have keptTitle : Kept (depth + 6) _ _ c.title :=
    (TemplateText.restored (by omega) hc.title).required
  have keptDescription : Kept (depth + 6) _ _ c.description :=
    TemplateText.restored_optional (by omega) hc.description
  have keptImageUrl : Kept (depth + 6) _ _ c.imageUrl := restored_optionalString c.imageUrl
  have keptButtons : Kept (depth + 6) _ _ c.buttons :=
    (Restored.list fun b hb => Button.restored (by omega) (hc.buttons b hb)).orElse []
  rw [Restored, Card.toJson]
  refine record_again [["title"], ["description"], ["image_url"], ["buttons"]]
    (by decide) rfl ?_ fun t ht => ?_
  · simp only [List.forall_mem_cons]
    exact ⟨keptTitle.within, keptDescription.within, keptImageUrl.within, keptButtons.within,
      List.forall_mem_nil _⟩
  · rw [Card.ofTree?, ht]
    simp only [List.map, keptTitle.read_eq, keptDescription.read_eq, keptImageUrl.read_eq,
      keptButtons.read_eq]
    rfl

theorem ApprovedTemplate.restored {m : ApprovedTemplate} (hroom : 6 ≤ depth)
    (hm : ∀ t ∈ m.params, t.InRange) :
    Restored depth ApprovedTemplate.ofTree? ApprovedTemplate.toJson m := by
  obtain ⟨depth, rfl⟩ := Nat.exists_eq_add_of_le' hroom
  have keptName : Kept (depth + 5) _ _ m.name := (restored_string m.name).required
  have keptLanguage : Kept (depth + 5) _ _ m.language := restored_optionalString m.language
  have keptParams : Kept (depth + 5) _ _ m.params :=
    (Restored.list fun t ht => TemplateText.restored (by omega) (hm t ht)).orElse []
  rw [Restored, ApprovedTemplate.toJson]
  refine record_again [["name"], ["language"], ["params"]] (by decide) rfl ?_ fun t ht => ?_
  · simp only [List.forall_mem_cons]
    exact ⟨keptName.within, keptLanguage.within, keptParams.within, List.forall_mem_nil _⟩
  · rw [ApprovedTemplate.ofTree?, ht]
    simp only [List.map, keptName.read_eq, keptLanguage.read_eq, keptParams.read_eq]
    rfl

/-! ## Policies -/

theorem Timeout.restored {t : Timeout} (hroom : 1 ≤ depth) (ht : t.seconds < Nat.pow 2 64) :
    Restored depth Timeout.ofTree? Timeout.toJson t := by
  obtain ⟨depth, rfl⟩ := Nat.exists_eq_add_of_le' hroom
  have keptSeconds : Kept depth (·.required Tree.asWord?) _ t.seconds :=
    (restored_natBelow le_rfl ht).required
  have keptOutput : Kept depth _ _ t.output := (restored_string t.output).required
  rw [Restored, Timeout.toJson, object_eq_record]
  refine record_again [["seconds"], ["output"]] (by decide) rfl ?_ fun t ht => ?_
  · simp only [List.map, List.forall_mem_cons]
    exact ⟨keptSeconds.within, keptOutput.within, List.forall_mem_nil _⟩
  · rw [Timeout.ofTree?, ht]
    simp only [List.map, keptSeconds.read_eq, keptOutput.read_eq]
    rfl

theorem Validation.restored {v : Validation} (hroom : 1 ≤ depth) :
    Restored depth Validation.ofTree? Validation.toJson v := by
  obtain ⟨depth, rfl⟩ := Nat.exists_eq_add_of_le' hroom
  have keptKind : Kept depth _ _ v.kind := (restored_string v.kind).required
  have keptPattern : Kept depth _ _ v.pattern := restored_optionalString v.pattern
  have keptMessage : Kept depth _ _ v.message := restored_optionalString v.message
  have keptOutput : Kept depth _ _ v.output := (restored_string v.output).required
  rw [Restored, Validation.toJson]
  refine record_again [["kind"], ["pattern"], ["message"], ["output"]]
    (by decide) rfl ?_ fun t ht => ?_
  · simp only [List.forall_mem_cons]
    exact ⟨keptKind.within, keptPattern.within, keptMessage.within, keptOutput.within,
      List.forall_mem_nil _⟩
  · rw [Validation.ofTree?, ht]
    simp only [List.map, keptKind.read_eq, keptPattern.read_eq, keptMessage.read_eq,
      keptOutput.read_eq]
    rfl

theorem Retry.restored {r : Retry} (hroom : 1 ≤ depth) (hr : r.maxAttempts < Nat.pow 2 32) :
    Restored depth Retry.ofTree? Retry.toJson r := by
  obtain ⟨depth, rfl⟩ := Nat.exists_eq_add_of_le' hroom
  have keptMaxAttempts : Kept depth _ _ r.maxAttempts :=
    (restored_natBelow (by decide) hr).required
  have keptMessage : Kept depth _ _ r.message := restored_optionalString r.message
  rw [Restored, Retry.toJson]
  refine record_again [["max_attempts"], ["message"]] (by decide) rfl ?_ fun t ht => ?_
  · simp only [List.forall_mem_cons]
    exact ⟨keptMaxAttempts.within, keptMessage.within, List.forall_mem_nil _⟩
  · rw [Retry.ofTree?, ht]
    simp only [List.map, keptMaxAttempts.read_eq, keptMessage.read_eq]
    rfl

theorem Fallback.restored {f : Fallback} (hroom : 1 ≤ depth) :
    Restored depth Fallback.ofTree? Fallback.toJson f := by
  obtain ⟨depth, rfl⟩ := Nat.exists_eq_add_of_le' hroom
  have keptMessage : Kept depth _ _ f.message := restored_optionalString f.message
  have keptOutput : Kept depth _ _ f.output := (restored_string f.output).required
  rw [Restored, Fallback.toJson]
  refine record_again [["message"], ["output"]] (by decide) rfl ?_ fun t ht => ?_
  · simp only [List.forall_mem_cons]
    exact ⟨keptMessage.within, keptOutput.within, List.forall_mem_nil _⟩
  · rw [Fallback.ofTree?, ht]
    simp only [List.map, keptMessage.read_eq, keptOutput.read_eq]
    rfl

theorem Variant.restored {v : Variant} (hroom : 1 ≤ depth) (hv : v.weight < Nat.pow 2 32) :
    Restored depth Variant.ofTree? Variant.toJson v := by
  obtain ⟨depth, rfl⟩ := Nat.exists_eq_add_of_le' hroom
  have keptName : Kept depth _ _ v.name := (restored_string v.name).required
  have keptWeight : Kept depth _ _ v.weight := (restored_natBelow (by decide) hv).required
  rw [Restored, Variant.toJson, object_eq_record]
  refine record_again [["name"], ["weight"]] (by decide) rfl ?_ fun t ht => ?_
  · simp only [List.map, List.forall_mem_cons]
    exact ⟨keptName.within, keptWeight.within, List.forall_mem_nil _⟩
  · rw [Variant.ofTree?, ht]
    simp only [List.map, keptName.read_eq, keptWeight.read_eq]
    rfl

theorem Experiment.restored {e : Experiment} (hroom : 3 ≤ depth)
    (he : ∀ v ∈ e.variants, v.weight < Nat.pow 2 32) :
    Restored depth Experiment.ofTree? Experiment.toJson e := by
  obtain ⟨depth, rfl⟩ := Nat.exists_eq_add_of_le' hroom
  have keptName : Kept (depth + 2) _ _ e.name := (restored_string e.name).required
  have keptVariants : Kept (depth + 2) _ _ e.variants :=
    (Restored.list fun v hv => Variant.restored (by omega) (he v hv)).required
  rw [Restored, Experiment.toJson, object_eq_record]
  refine record_again [["name"], ["variants"]] (by decide) rfl ?_ fun t ht => ?_
  · simp only [List.map, List.forall_mem_cons]
    exact ⟨keptName.within, keptVariants.within, List.forall_mem_nil _⟩
  · rw [Experiment.ofTree?, ht]
    simp only [List.map, keptName.read_eq, keptVariants.read_eq]
    rfl

theorem restored_delay {millis : Nat} (hroom : 1 ≤ depth) (h : millis < Nat.pow 2 64) :
    Restored depth delayOfTree? delayToJson millis := by
  obtain ⟨depth, rfl⟩ := Nat.exists_eq_add_of_le' hroom
  have keptMillis : Kept depth (·.required Tree.asWord?) _ millis :=
    (restored_natBelow le_rfl h).required
  rw [Restored, delayToJson, object_eq_record]
  refine record_again [["millis"]] (by decide) rfl ?_ fun t ht => ?_
  · simp only [List.map, List.forall_mem_cons]
    exact ⟨keptMillis.within, List.forall_mem_nil _⟩
  · rw [delayOfTree?, ht]
    exact keptMillis.read_eq

/-- A behavior without policies is written as an object without members, and stays a behavior. -/
theorem Behavior.restored {b : Behavior} (hroom : 4 ≤ depth) (hb : b.InRange) :
    Restored depth Behavior.ofTree? Behavior.toJson b := by
  obtain ⟨depth, rfl⟩ := Nat.exists_eq_add_of_le' hroom
  have keptTimeout : Kept (depth + 3) _ _ b.timeout :=
    Restored.optional (fun t ht => Timeout.restored (by omega) (hb.timeout t ht))
      fun _ _ => nofun
  have keptValidation : Kept (depth + 3) _ _ b.validation :=
    Restored.optional (fun v _ => Validation.restored (by omega)) fun _ _ => nofun
  have keptRetry : Kept (depth + 3) _ _ b.retry :=
    Restored.optional (fun r hr => Retry.restored (by omega) (hb.retry r hr)) fun _ _ => nofun
  have keptFallback : Kept (depth + 3) _ _ b.fallback :=
    Restored.optional (fun f _ => Fallback.restored (by omega)) fun _ _ => nofun
  have keptDelay : Kept (depth + 3) _ _ b.delay :=
    Restored.optional (fun m hm => restored_delay (by omega) (hb.delay m hm)) fun _ _ => nofun
  have keptExperiment : Kept (depth + 3) _ _ b.experiment :=
    Restored.optional (fun e he => Experiment.restored (by omega) (hb.experiment e he))
      fun _ _ => nofun
  rw [Restored, Behavior.toJson]
  refine record_again [["timeout"], ["validation"], ["retry"], ["fallback"], ["delay"],
    ["experiment"]] (by decide) rfl ?_ fun t ht => ?_
  · simp only [List.forall_mem_cons]
    exact ⟨keptTimeout.within, keptValidation.within, keptRetry.within, keptFallback.within,
      keptDelay.within, keptExperiment.within, List.forall_mem_nil _⟩
  · rw [Behavior.ofTree?, ht]
    simp only [List.map, keptTimeout.read_eq, keptValidation.read_eq, keptRetry.read_eq,
      keptFallback.read_eq, keptDelay.read_eq, keptExperiment.read_eq]
    rfl

theorem Persistence.restored {p : Persistence} (hroom : 1 ≤ depth) :
    Restored depth Persistence.ofTree? Persistence.toJson p := by
  obtain ⟨depth, rfl⟩ := Nat.exists_eq_add_of_le' hroom
  have keptScope : Kept depth _ _ p.scope :=
    (restored_choice Scope.ofName?_name p.scope).required
  have keptKey : Kept depth _ _ p.key := (restored_string p.key).required
  have keptSanitizer : Kept depth _ _ p.sanitizer :=
    (restored_choice Sanitizer.ofName?_name p.sanitizer).orElse .none
  have keptRequired : Kept depth _ _ p.required := (restored_bool p.required).orElse false
  have keptDeclared : Kept depth _ _ p.declared := (restored_bool p.declared).orElse false
  rw [Restored, Persistence.toJson, object_eq_record]
  refine record_again [["scope"], ["key"], ["sanitize"], ["required"], ["declared"]]
    (by decide) rfl ?_ fun t ht => ?_
  · simp only [List.map, List.forall_mem_cons]
    exact ⟨keptScope.within, keptKey.within, keptSanitizer.within, keptRequired.within,
      keptDeclared.within, List.forall_mem_nil _⟩
  · rw [Persistence.ofTree?, ht]
    simp only [List.map, keptScope.read_eq, keptKey.read_eq, keptSanitizer.read_eq,
      keptRequired.read_eq, keptDeclared.read_eq]
    rfl

/-! ## Views -/

/-- Apart from its notes, no view is nested deeper than ten arrays and objects. -/
theorem View.restored {v : View} (hroom : 10 ≤ depth) (hv : v.WellFormed)
    (hnotes : (Json.obj v.metadata).nesting + 1 ≤ depth) :
    Restored depth View.ofTree? View.toJson v := by
  obtain ⟨depth, rfl⟩ := Nat.exists_eq_add_of_le' hroom
  have keptKind : Kept (depth + 9) _ _ v.kind := (restored_string v.kind).required
  have keptText : Kept (depth + 9) _ _ v.text :=
    TemplateText.restored_optional (by omega) hv.texts.text
  have keptMediaUrl : Kept (depth + 9) _ _ v.mediaUrl := restored_optionalString v.mediaUrl
  have keptButtons : Kept (depth + 9) _ _ v.buttons :=
    Restored.nonEmpty fun b hb => Button.restored (by omega) (hv.texts.buttons b hb)
  have keptHeader : Kept (depth + 9) _ _ v.header :=
    TemplateText.restored_optional (by omega) hv.texts.header
  have keptFooter : Kept (depth + 9) _ _ v.footer :=
    TemplateText.restored_optional (by omega) hv.texts.footer
  have keptList : Kept (depth + 9) _ _ v.list :=
    Restored.optional (fun p hp => Picker.restored (by omega) (hv.texts.list p hp))
      fun _ _ => nofun
  have keptCards : Kept (depth + 9) _ _ v.cards :=
    Restored.nonEmpty fun c hc => Card.restored (by omega) (hv.texts.cards c hc)
  have keptTemplate : Kept (depth + 9) _ _ v.template :=
    Restored.optional (fun m hm => ApprovedTemplate.restored (by omega) (hv.texts.params m hm))
      fun _ _ => nofun
  have keptBehavior : Kept (depth + 9) _ _ v.behavior :=
    Restored.optional (fun b hb => Behavior.restored (by omega) (hv.behavior b hb))
      fun _ _ => nofun
  have keptPersistence : Kept (depth + 9) _ _ v.persistence :=
    Restored.optional (fun p _ => Persistence.restored (by omega)) fun _ _ => nofun
  have keptMetadata : Kept (depth + 9) _ _ v.metadata :=
    restored_values hv.notes (by omega)
  rw [Restored, View.toJson]
  refine record_again [["kind"], ["text"], ["media_url"], ["buttons"], ["header"], ["footer"],
    ["list"], ["cards"], ["template"], ["behavior"], ["persistence"], ["meta"]]
    (by decide) rfl ?_ fun t ht => ?_
  · simp only [List.forall_mem_cons]
    exact ⟨keptKind.within, keptText.within, keptMediaUrl.within, keptButtons.within,
      keptHeader.within, keptFooter.within, keptList.within, keptCards.within,
      keptTemplate.within, keptBehavior.within, keptPersistence.within, keptMetadata.within,
      List.forall_mem_nil _⟩
  · rw [View.ofTree?, ht]
    simp only [List.map, keptKind.read_eq, keptText.read_eq, keptMediaUrl.read_eq,
      keptButtons.read_eq, keptHeader.read_eq, keptFooter.read_eq, keptList.read_eq,
      keptCards.read_eq, keptTemplate.read_eq, keptBehavior.read_eq, keptPersistence.read_eq,
      keptMetadata.read_eq]
    rfl

end ChatPlan
