import ChatPlan.Json.Record
import ChatPlan.View.Basic

/-
Reading views. What writing leaves out has its default; everything else has to be there.
-/
namespace ChatPlan

open Json Template

/-- A choice that is written by its name. -/
def namedChoice? {α : Type} (ofName? : String → Option α) (t : Tree) : Option α :=
  t.asChoice?.bind ofName?

def Template.Block.ofTree? (t : Tree) : Option Block :=
  match t.slots [["kind"], ["raw"], ["body"], ["offset"], ["variables"], ["filters"]] with
  | some [kind, raw, body, offset, vars, filters] => do
    return {
      kind := ← kind.required (namedChoice? BlockKind.ofName?)
      raw := ← raw.required Tree.asString?
      body := ← body.required Tree.asString?
      offset := ← offset.required Tree.asWord?
      vars := ← vars.required Tree.asStrings?
      filters := ← filters.required Tree.asStrings? }
  | _ => none

def TemplateText.ofTree? (t : Tree) : Option TemplateText :=
  match t.slots [["raw"], ["template"], ["expressions"]] with
  | some [raw, templated, blocks] => do
    return {
      raw := ← raw.required Tree.asString?
      templated := ← templated.orElse Tree.asBool? false
      blocks := ← blocks.orElse (Tree.asList? Block.ofTree?) [] }
  | _ => none

def Button.ofTree? (t : Tree) : Option Button :=
  match t.slots [["label"], ["payload"], ["kind"]] with
  | some [label, payload, kind] => do
    return {
      label := ← label.required TemplateText.ofTree?
      payload := ← payload.required Tree.asString?
      kind := ← kind.required (namedChoice? ButtonKind.ofName?) }
  | _ => none

def ListItem.ofTree? (t : Tree) : Option ListItem :=
  match t.slots [["id"], ["title"], ["description"]] with
  | some [id, title, description] => do
    return {
      id := ← id.required Tree.asString?
      title := ← title.required TemplateText.ofTree?
      description := ← description.optional TemplateText.ofTree? }
  | _ => none

def ListSection.ofTree? (t : Tree) : Option ListSection :=
  match t.slots [["title"], ["items"]] with
  | some [title, items] => do
    return {
      title := ← title.optional TemplateText.ofTree?
      items := ← items.required (Tree.asList? ListItem.ofTree?) }
  | _ => none

def Picker.ofTree? (t : Tree) : Option Picker :=
  match t.slots [["button_label"], ["sections"]] with
  | some [buttonLabel, sections] => do
    return {
      buttonLabel := ← buttonLabel.required TemplateText.ofTree?
      sections := ← sections.required (Tree.asList? ListSection.ofTree?) }
  | _ => none

def Card.ofTree? (t : Tree) : Option Card :=
  match t.slots [["title"], ["description"], ["image_url"], ["buttons"]] with
  | some [title, description, imageUrl, buttons] => do
    return {
      title := ← title.required TemplateText.ofTree?
      description := ← description.optional TemplateText.ofTree?
      imageUrl := ← imageUrl.optional Tree.asString?
      buttons := ← buttons.orElse (Tree.asList? Button.ofTree?) [] }
  | _ => none

def ApprovedTemplate.ofTree? (t : Tree) : Option ApprovedTemplate :=
  match t.slots [["name"], ["language"], ["params"]] with
  | some [name, language, params] => do
    return {
      name := ← name.required Tree.asString?
      language := ← language.optional Tree.asString?
      params := ← params.orElse (Tree.asList? TemplateText.ofTree?) [] }
  | _ => none

def Timeout.ofTree? (t : Tree) : Option Timeout :=
  match t.slots [["seconds"], ["output"]] with
  | some [seconds, output] => do
    return {
      seconds := ← seconds.required Tree.asWord?
      output := ← output.required Tree.asString? }
  | _ => none

def Validation.ofTree? (t : Tree) : Option Validation :=
  match t.slots [["kind"], ["pattern"], ["message"], ["output"]] with
  | some [kind, pattern, message, output] => do
    return {
      kind := ← kind.required Tree.asString?
      pattern := ← pattern.optional Tree.asString?
      message := ← message.optional Tree.asString?
      output := ← output.required Tree.asString? }
  | _ => none

def Retry.ofTree? (t : Tree) : Option Retry :=
  match t.slots [["max_attempts"], ["message"]] with
  | some [maxAttempts, message] => do
    return {
      maxAttempts := ← maxAttempts.required (Tree.asNatBelow? (Nat.pow 2 32))
      message := ← message.optional Tree.asString? }
  | _ => none

def Fallback.ofTree? (t : Tree) : Option Fallback :=
  match t.slots [["message"], ["output"]] with
  | some [message, output] => do
    return {
      message := ← message.optional Tree.asString?
      output := ← output.required Tree.asString? }
  | _ => none

def Variant.ofTree? (t : Tree) : Option Variant :=
  match t.slots [["name"], ["weight"]] with
  | some [name, weight] => do
    return {
      name := ← name.required Tree.asString?
      weight := ← weight.required (Tree.asNatBelow? (Nat.pow 2 32)) }
  | _ => none

def Experiment.ofTree? (t : Tree) : Option Experiment :=
  match t.slots [["name"], ["variants"]] with
  | some [name, variants] => do
    return {
      name := ← name.required Tree.asString?
      variants := ← variants.required (Tree.asList? Variant.ofTree?) }
  | _ => none

/-- A delay in milliseconds. -/
def delayOfTree? (t : Tree) : Option Nat :=
  match t.slots [["millis"]] with
  | some [millis] => millis.required Tree.asWord?
  | _ => none

def Behavior.ofTree? (t : Tree) : Option Behavior :=
  match t.slots [["timeout"], ["validation"], ["retry"], ["fallback"], ["delay"],
      ["experiment"]] with
  | some [timeout, validation, retry, fallback, delay, experiment] => do
    return {
      timeout := ← timeout.optional Timeout.ofTree?
      validation := ← validation.optional Validation.ofTree?
      retry := ← retry.optional Retry.ofTree?
      fallback := ← fallback.optional Fallback.ofTree?
      delay := ← delay.optional delayOfTree?
      experiment := ← experiment.optional Experiment.ofTree? }
  | _ => none

def Persistence.ofTree? (t : Tree) : Option Persistence :=
  match t.slots [["scope"], ["key"], ["sanitize"], ["required"], ["declared"]] with
  | some [scope, key, sanitizer, required, declared] => do
    return {
      scope := ← scope.required (namedChoice? Scope.ofName?)
      key := ← key.required Tree.asString?
      sanitizer := ← sanitizer.orElse (namedChoice? Sanitizer.ofName?) .none
      required := ← required.orElse Tree.asBool? false
      declared := ← declared.orElse Tree.asBool? false }
  | _ => none

def View.ofTree? (t : Tree) : Option View :=
  match t.slots [["kind"], ["text"], ["media_url"], ["buttons"], ["header"], ["footer"], ["list"],
      ["cards"], ["template"], ["behavior"], ["persistence"], ["meta"]] with
  | some [kind, text, mediaUrl, buttons, header, footer, list, cards, template, behavior,
      persistence, metadata] => do
    return {
      kind := ← kind.required Tree.asString?
      text := ← text.optional TemplateText.ofTree?
      mediaUrl := ← mediaUrl.optional Tree.asString?
      buttons := ← buttons.orElse (Tree.asList? Button.ofTree?) []
      header := ← header.optional TemplateText.ofTree?
      footer := ← footer.optional TemplateText.ofTree?
      list := ← list.optional Picker.ofTree?
      cards := ← cards.orElse (Tree.asList? Card.ofTree?) []
      template := ← template.optional ApprovedTemplate.ofTree?
      behavior := ← behavior.optional Behavior.ofTree?
      persistence := ← persistence.optional Persistence.ofTree?
      metadata := ← metadata.orElse Tree.asObject? [] }
  | _ => none

end ChatPlan
