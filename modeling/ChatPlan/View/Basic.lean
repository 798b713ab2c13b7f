import ChatPlan.Design.Basic
import ChatPlan.Template.Width
import ChatPlan.Text.Basic

/-
Views: what a step shows, in a form that no channel has adapted yet. A view carries the texts,
buttons, lists and cards of its step, and what the step does besides showing them: the policies it
follows while it runs, and where it keeps what it captures.
-/
namespace ChatPlan

/-! ## Policies -/

/-- When nothing comes for some seconds, the step leaves through an output. -/
structure Timeout where
  seconds : Nat
  output : String

/-- How input is checked, and the output for input that fails. -/
structure Validation where
  kind : String
  pattern : Option String
  message : Option String
  output : String

/-- How often the step asks again. -/
structure Retry where
  maxAttempts : Nat
  message : Option String

/-- What is said when all else fails, and the output it leads to. -/
structure Fallback where
  message : Option String
  output : String

/-- One arm of an experiment. -/
structure Variant where
  name : String
  weight : Nat

/-- A named split of users over variants. -/
structure Experiment where
  name : String
  variants : List Variant

/-- The policies of a step; each of them may be missing. A delay is in milliseconds. -/
structure Behavior where
  timeout : Option Timeout
  validation : Option Validation
  retry : Option Retry
  fallback : Option Fallback
  delay : Option Nat
  experiment : Option Experiment

/-- No policy is set. -/
def Behavior.isEmpty (b : Behavior) : Bool :=
  b.timeout.isNone && b.validation.isNone && b.retry.isNone && b.fallback.isNone &&
    b.delay.isNone && b.experiment.isNone

/-- How long a captured value lives. -/
inductive Scope where
  | context
  | state
  | global
deriving DecidableEq

namespace Scope

def name : Scope → String
  | .context => "context"
  | .state => "state"
  | .global => "global"

/-- The scope with this name; `profile` is another name of `state`. -/
def ofName? (s : String) : Option Scope :=
  if s = "profile" then some .state
  else [Scope.context, .state, .global].find? (·.name == s)

end Scope

/-- How a captured value is cleaned. -/
inductive Sanitizer where
  | none
  | trim
  | lowercase
  | digits
  | email
deriving DecidableEq

namespace Sanitizer

def name : Sanitizer → String
  | .none => "none"
  | .trim => "trim"
  | .lowercase => "lowercase"
  | .digits => "digits"
  | .email => "email"

def ofName? (s : String) : Option Sanitizer :=
  [Sanitizer.none, .trim, .lowercase, .digits, .email].find? (·.name == s)

end Sanitizer

/-- Where a captured value is kept, and whether the profile declares that key. -/
structure Persistence where
  scope : Scope
  key : String
  sanitizer : Sanitizer
  required : Bool
  declared : Bool

/-! ## Views -/

/-- What a button does: answer, open a link, or call. -/
inductive ButtonKind where
  | reply
  | url
  | call
deriving DecidableEq

namespace ButtonKind

def name : ButtonKind → String
  | .reply => "reply"
  | .url => "url"
  | .call => "call"

def all : List ButtonKind := [.reply, .url, .call]

def ofName? (s : String) : Option ButtonKind := all.find? (·.name == s)

end ButtonKind

/-- A button; its payload is an answer, a link or a telephone number. -/
structure Button where
  label : TemplateText
  payload : String
  kind : ButtonKind
deriving DecidableEq

/-- A choice of a list. -/
structure ListItem where
  id : String
  title : TemplateText
  description : Option TemplateText

/-- A group of choices. -/
structure ListSection where
  title : Option TemplateText
  items : List ListItem

/-- A list behind an opening button. -/
structure Picker where
  buttonLabel : TemplateText
  sections : List ListSection

/-- A card of a carousel. -/
structure Card where
  title : TemplateText
  description : Option TemplateText
  imageUrl : Option String
  buttons : List Button

/-- A message that the channel has approved before, and what is filled in. -/
structure ApprovedTemplate where
  name : String
  language : Option String
  params : List TemplateText

/-- What a step shows. -/
structure View where
  kind : String
  text : Option TemplateText := none
  mediaUrl : Option String := none
  buttons : List Button := []
  header : Option TemplateText := none
  footer : Option TemplateText := none
  list : Option Picker := none
  cards : List Card := []
  template : Option ApprovedTemplate := none
  behavior : Option Behavior := none
  persistence : Option Persistence := none
  metadata : Props := []

/-- The number of choices in all sections. -/
def Picker.size (p : Picker) : Nat := total (·.items.length) p.sections

/-- Named texts of a view. -/
abbrev Fields := List (String × TemplateText)

/-- A text that may be missing, under its name. -/
def optionalField (name : String) (t : Option TemplateText) : Fields :=
  t.toList.map (name, ·)

/-- The labels of buttons that stand at this place. -/
def buttonFields (place : String) (buttons : List Button) : Fields :=
  buttons.mapIdx fun i b => (s!"{place}[{i}].label", b.label)

def ListItem.fields (place : String) (item : ListItem) : Fields :=
  (s!"{place}.title", item.title) :: optionalField s!"{place}.description" item.description

def ListSection.fields (place : String) (s : ListSection) : Fields :=
  optionalField s!"{place}.title" s.title ++
    (s.items.mapIdx fun i item => item.fields s!"{place}.items[{i}]").flatten

def Picker.fields (place : String) (p : Picker) : Fields :=
  (s!"{place}.button_label", p.buttonLabel) ::
    (p.sections.mapIdx fun i s => s.fields s!"{place}.sections[{i}]").flatten

def Card.fields (place : String) (c : Card) : Fields :=
  (s!"{place}.title", c.title) ::
    (optionalField s!"{place}.description" c.description ++
      buttonFields s!"{place}.buttons" c.buttons)

def ApprovedTemplate.fields (place : String) (t : ApprovedTemplate) : Fields :=
  t.params.mapIdx fun i p => (s!"{place}.params[{i}]", p)

/-- All texts of a view with their places. -/
def View.fields (v : View) : Fields :=
  optionalField "text" v.text ++ optionalField "header" v.header ++
    optionalField "footer" v.footer ++ buttonFields "buttons" v.buttons ++
    v.list.toList.flatMap (Picker.fields "list") ++
    (v.cards.mapIdx fun i c => c.fields s!"cards[{i}]").flatten ++
    v.template.toList.flatMap (ApprovedTemplate.fields "template")

end ChatPlan
