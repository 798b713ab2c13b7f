import ChatPlan.Design.Basic
import ChatPlan.View.Basic

/-
Steps. What a step shows is read from its properties, in one form for each kind of content; showing
it puts every text into the view as it was written, together with its template blocks. Policies and
free notes are laid over the content.
-/
namespace ChatPlan

/-! ## Content -/

open Template

/-- A button before its label is scanned. -/
structure ButtonContent where
  label : String
  payload : String
  kind : ButtonKind

/-- A list item before its texts are scanned. -/
structure ItemContent where
  id : String
  title : String
  description : Option String

/-- A list section before its texts are scanned. -/
structure SectionContent where
  title : Option String
  items : List ItemContent

/-- A card before its texts are scanned. -/
structure CardContent where
  title : String
  description : Option String
  imageUrl : Option String
  buttons : List ButtonContent

/-- What a step shows. A pause shows nothing. -/
inductive Content where
  | message (text : String)
  | media (url mediaType : String) (caption : Option String)
  | buttons (text : String) (header footer : Option String) (answers : List ButtonContent)
  | list (text : String) (header footer : Option String) (buttonLabel : String)
      (sections : List SectionContent)
  | carousel (text : Option String) (cards : List CardContent)
  | confirm (text yesLabel noLabel : String)
  | input (text inputType : String)
  | pause
  | approved (name : String) (language : Option String) (params : List String)

/-- A text that may be missing, scanned. -/
def scanOptional : Option String → Except ScanError (Option TemplateText)
  | none => .ok none
  | some s => (TemplateText.ofRaw s).map some

def ButtonContent.show (b : ButtonContent) : Except ScanError Button :=
  return ⟨← TemplateText.ofRaw b.label, b.payload, b.kind⟩

def ItemContent.show (i : ItemContent) : Except ScanError ListItem := do
  let title ← TemplateText.ofRaw i.title
  return ⟨i.id, title, ← scanOptional i.description⟩

def SectionContent.show (s : SectionContent) : Except ScanError ListSection := do
  let items ← s.items.mapM ItemContent.show
  return ⟨← scanOptional s.title, items⟩

def CardContent.show (c : CardContent) : Except ScanError Card := do
  let title ← TemplateText.ofRaw c.title
  let description ← scanOptional c.description
  return ⟨title, description, c.imageUrl, ← c.buttons.mapM ButtonContent.show⟩

/-- The view with the content in it. -/
def Content.show (v : View) : Content → Except ScanError View
  | .message text => return { v with text := some (← TemplateText.ofRaw text) }
  | .media url mediaType caption => do
    return { v with
      mediaUrl := some url
      text := ← scanOptional caption
      metadata := Members.insert "media_type" (.str mediaType) v.metadata }
  | .buttons text header footer answers => do
    let text ← TemplateText.ofRaw text
    let header ← scanOptional header
    let footer ← scanOptional footer
    return { v with
      text := some text, header, footer, buttons := ← answers.mapM ButtonContent.show }
  | .list text header footer buttonLabel sections => do
    let text ← TemplateText.ofRaw text
    let header ← scanOptional header
    let footer ← scanOptional footer
    let sections ← sections.mapM SectionContent.show
    return { v with
      text := some text, header, footer
      list := some ⟨← TemplateText.ofRaw buttonLabel, sections⟩ }
  | .carousel text cards => do
    let text ← scanOptional text
    return { v with text, cards := ← cards.mapM CardContent.show }
  | .confirm text yesLabel noLabel => do
    let text ← TemplateText.ofRaw text
    let yes ← ButtonContent.show ⟨yesLabel, "yes", .reply⟩
    let no ← ButtonContent.show ⟨noLabel, "no", .reply⟩
    return { v with text := some text, buttons := [yes, no] }
  | .input text inputType => do
    return { v with
      text := some (← TemplateText.ofRaw text)
      metadata := Members.insert "input_type" (.str inputType) v.metadata }
  | .pause => .ok v
  | .approved name language params => do
    return { v with template := some ⟨name, language, ← params.mapM TemplateText.ofRaw⟩ }

end ChatPlan

namespace ChatPlan

/-! ## Steps -/

/-- A step of one kind. -/
structure Step where
  kind : String
  content : Content
  behavior : Option Behavior := none
  persistence : Option Persistence := none
  metadata : Props := []

namespace Step

/-- The step with this behavior; an empty one is none. -/
def withBehavior (s : Step) (b : Option Behavior) : Step :=
  { s with behavior := b.filter fun b => !b.isEmpty }

/-- The step that keeps what it captures there. -/
def withPersistence (s : Step) (p : Option Persistence) : Step := { s with persistence := p }

/-- The step with one more note. -/
def withMetadata (s : Step) (key : String) (value : Json) : Step :=
  { s with metadata := Members.insert key value s.metadata }

/-- The view of the step. The key under which it keeps something is marked as declared if it is
known. -/
def view (s : Step) (values : Values) : Except Template.ScanError View := do
  let shown ← s.content.show { kind := s.kind, metadata := s.metadata }
  return { shown with
    behavior := s.behavior
    persistence := s.persistence.map fun p => { p with declared := values.has p.key } }

end Step

end ChatPlan
