import ChatPlan.Design.Writer
import ChatPlan.View.Basic

/-
Writing views as JSON values. What is missing or empty is left out, but a few lists are always
written.
-/
namespace ChatPlan

open Json Template

def Template.Block.toJson (b : Block) : Json :=
  object [("kind", .str b.kind.name), ("raw", .str b.raw), ("body", .str b.body),
    ("offset", ofNat b.offset), ("variables", strings b.vars), ("filters", strings b.filters)]

def TemplateText.toJson (t : TemplateText) : Json :=
  record [("raw", some (.str t.raw)), ("template", some (.bool t.templated)),
    ("expressions", nonEmptyArray (t.blocks.map Block.toJson))]

def Button.toJson (b : Button) : Json :=
  object [("label", b.label.toJson), ("payload", .str b.payload), ("kind", .str b.kind.name)]

def ListItem.toJson (i : ListItem) : Json :=
  record [("id", some (.str i.id)), ("title", some i.title.toJson),
    ("description", i.description.map TemplateText.toJson)]

def ListSection.toJson (s : ListSection) : Json :=
  record [("title", s.title.map TemplateText.toJson),
    ("items", some (.arr (s.items.map ListItem.toJson)))]

def Picker.toJson (p : Picker) : Json :=
  object [("button_label", p.buttonLabel.toJson),
    ("sections", .arr (p.sections.map ListSection.toJson))]

def Card.toJson (c : Card) : Json :=
  record [("title", some c.title.toJson), ("description", c.description.map TemplateText.toJson),
    ("image_url", optionalString c.imageUrl),
    ("buttons", some (.arr (c.buttons.map Button.toJson)))]

def ApprovedTemplate.toJson (t : ApprovedTemplate) : Json :=
  record [("name", some (.str t.name)), ("language", optionalString t.language),
    ("params", some (.arr (t.params.map TemplateText.toJson)))]

def Timeout.toJson (t : Timeout) : Json :=
  object [("seconds", ofNat t.seconds), ("output", .str t.output)]

def Validation.toJson (v : Validation) : Json :=
  record [("kind", some (.str v.kind)), ("pattern", optionalString v.pattern),
    ("message", optionalString v.message), ("output", some (.str v.output))]

def Retry.toJson (r : Retry) : Json :=
  record [("max_attempts", some (ofNat r.maxAttempts)), ("message", optionalString r.message)]

def Fallback.toJson (f : Fallback) : Json :=
  record [("message", optionalString f.message), ("output", some (.str f.output))]

def Variant.toJson (v : Variant) : Json :=
  object [("name", .str v.name), ("weight", ofNat v.weight)]

def Experiment.toJson (e : Experiment) : Json :=
  object [("name", .str e.name), ("variants", .arr (e.variants.map Variant.toJson))]

/-- A delay in milliseconds. -/
def delayToJson (millis : Nat) : Json := object [("millis", ofNat millis)]

def Behavior.toJson (b : Behavior) : Json :=
  record [("timeout", b.timeout.map Timeout.toJson),
    ("validation", b.validation.map Validation.toJson), ("retry", b.retry.map Retry.toJson),
    ("fallback", b.fallback.map Fallback.toJson), ("delay", b.delay.map delayToJson),
    ("experiment", b.experiment.map Experiment.toJson)]

def Persistence.toJson (p : Persistence) : Json :=
  object [("scope", .str p.scope.name), ("key", .str p.key), ("sanitize", .str p.sanitizer.name),
    ("required", .bool p.required), ("declared", .bool p.declared)]

def View.toJson (v : View) : Json :=
  record [("kind", some (.str v.kind)), ("text", v.text.map TemplateText.toJson),
    ("media_url", optionalString v.mediaUrl),
    ("buttons", nonEmptyArray (v.buttons.map Button.toJson)),
    ("header", v.header.map TemplateText.toJson), ("footer", v.footer.map TemplateText.toJson),
    ("list", v.list.map Picker.toJson), ("cards", nonEmptyArray (v.cards.map Card.toJson)),
    ("template", v.template.map ApprovedTemplate.toJson),
    ("behavior", v.behavior.map Behavior.toJson),
    ("persistence", v.persistence.map Persistence.toJson), ("meta", nonEmptyObject id v.metadata)]

end ChatPlan
