import ChatPlan.Design.Basic
import ChatPlan.Props.Basic
import ChatPlan.Step.Basic
import ChatPlan.Text.Basic

/-
Reading the content of a step from its properties, one reader for each kind of content. Its
interactive elements are the buttons, list items and choices that a user can pick, as the untyped
properties name them: an output of the step stands for an element if it is one of the element's
identifiers.
-/
namespace ChatPlan

/-! ## Interactive elements -/

/-- Something that a user can pick. -/
structure Element where
  id : Option String
  payload : Option String
  label : Option String
deriving DecidableEq

namespace Element

/-- The identifiers of the element that are not blank. -/
def identifiers (e : Element) : List String :=
  [e.id, e.payload, e.label].filterMap fun s => s.filter fun s => !Text.blank s

/-- The output stands for the element. -/
def isNamed (e : Element) (output : String) : Bool := e.identifiers.contains output

/-- The first identifier. -/
def displayName (e : Element) : String := e.identifiers.headD "<unnamed>"

end Element

namespace Props

/-- A property if it is a string. -/
def text? (p : Props) (key : String) : Option String := (Members.get? p key).bind Json.asString?

/-- The first property that is a string. -/
def textAmong? (p : Props) (keys : List String) : Option String := keys.findSome? (text? p)

/-- The items of a property if it is an array. -/
def list (p : Props) (key : String) : List Json :=
  ((Members.get? p key).bind Json.asArray?).getD []

/-- The items of a property that are objects. -/
def objects (p : Props) (key : String) : List Props := (list p key).filterMap Json.asObject?

/-- The type of a button; one without a readable type answers. -/
def buttonType (b : Props) : String :=
  (((Members.get? b "type").or (Members.get? b "kind")).bind Json.asString?).getD "reply"

/-- The button answers: it opens no link and makes no call. -/
def answers (b : Props) : Bool := !(["url", "call", "phone"].contains (buttonType b))

/-- A button as an element. -/
def buttonElement (b : Props) : Element :=
  ⟨text? b "id", text? b "payload", textAmong? b ["label", "text", "title"]⟩

/-- The answering buttons among the properties. -/
def buttonElements (p : Props) : List Element :=
  ((objects p "buttons").filter answers).map buttonElement

/-- A list item as an element. -/
def itemElement (i : Props) : Element := ⟨text? i "id", none, textAmong? i ["title", "label"]⟩

/-- The items of all sections. -/
def itemElements (p : Props) : List Element :=
  ((objects p "sections").flatMap fun s => objects s "items").map itemElement

/-- The answering buttons of all cards. -/
def cardElements (p : Props) : List Element := (objects p "cards").flatMap buttonElements

/-- The two answers of a confirmation. -/
def choiceElements (p : Props) : List Element :=
  [⟨some "yes", none, text? p "yes_label"⟩, ⟨some "no", none, text? p "no_label"⟩]

end Props

/-! ## Readers -/

open Props

def mediaTypes : List String := ["image", "video", "audio", "document", "sticker"]

def inputTypes : List String := ["text", "number", "email", "phone", "date", "url"]

/-- One of several options, with a default. -/
def readOption (p : Props) (key : String) (options : List String) (default : String) :
    Except PropError String := do
  let value := (← string? p key).getD default
  if options.contains value then return value else throw (.unknownOption key value options)

/-- An array that must be there and must not be empty, as objects. -/
def readObjects (p : Props) (key : String) : Except PropError (List Props) := do
  let raw ← require key (← array? p key)
  if raw.isEmpty then throw (.empty key)
  itemsOf key raw

/-- A button: its type says which property holds its payload. An answer is its own label if it says
nothing else. -/
def ButtonContent.read (b : Props) : Except PropError ButtonContent := do
  let label ← require "label" (← stringAmong? b ["label", "text", "title"])
  let kind := (← stringAmong? b ["type", "kind"]).getD "reply"
  if kind = "reply" then
    return ⟨label, (← stringAmong? b ["payload", "id"]).getD label, .reply⟩
  else if kind = "url" then return ⟨label, ← string b "url", .url⟩
  else if kind = "call" || kind = "phone" then return ⟨label, ← string b "phone", .call⟩
  else throw (.unknownButton kind)

/-- The buttons of an array. -/
def readButtons (raw : List Json) : Except PropError (List ButtonContent) := do
  eachItem (fun i b => within s!"buttons[{i}]" (ButtonContent.read b)) (← itemsOf "buttons" raw)

def readMessage (p : Props) : Except PropError Content :=
  return .message (← string p "text")

def readMedia (p : Props) : Except PropError Content := do
  let url ← string p "url"
  let mediaType ← readOption p "media_type" mediaTypes "image"
  return .media url mediaType (← string? p "caption")

def readButtonsContent (p : Props) : Except PropError Content := do
  let raw ← require "buttons" (← array? p "buttons")
  if raw.isEmpty then throw (.empty "buttons")
  let text ← string p "text"
  let header ← string? p "header"
  let footer ← string? p "footer"
  return .buttons text header footer (← readButtons raw)

def ItemContent.read (item : Props) : Except PropError ItemContent := do
  let id ← string item "id"
  let title ← require "title" (← stringAmong? item ["title", "label"])
  return ⟨id, title, ← string? item "description"⟩

/-- A list section. What is wrong with an item is said at the place of the item. -/
def SectionContent.read (index : Nat) (s : Props) : Except PropError SectionContent := do
  let place := s!"sections[{index}]"
  let raw ← within place do require "items" (← array? s "items")
  let members ← within place (itemsOf "items" raw)
  let content ← eachItem
    (fun i item => within s!"{place}.items[{i}]" (ItemContent.read item)) members
  return ⟨← within place (string? s "title"), content⟩

def readList (p : Props) : Except PropError Content := do
  let sections ← eachItem SectionContent.read (← readObjects p "sections")
  let text ← string p "text"
  let header ← string? p "header"
  let footer ← string? p "footer"
  return .list text header footer ((← string? p "button_label").getD "Options") sections

def CardContent.read (index : Nat) (c : Props) : Except PropError CardContent :=
  within s!"cards[{index}]" do
    let buttons ← match ← array? c "buttons" with
      | some raw => readButtons raw
      | none => pure []
    let title ← string c "title"
    let description ← string? c "description"
    return ⟨title, description, ← stringAmong? c ["image_url", "image"], buttons⟩

def readCarousel (p : Props) : Except PropError Content := do
  let cards ← eachItem CardContent.read (← readObjects p "cards")
  return .carousel (← string? p "text") cards

def readConfirm (p : Props) : Except PropError Content := do
  let text ← string p "text"
  let yesLabel := (← string? p "yes_label").getD "Yes"
  return .confirm text yesLabel ((← string? p "no_label").getD "No")

def readInput (p : Props) : Except PropError Content := do
  let inputType ← readOption p "input_type" inputTypes "text"
  return .input (← string p "text") inputType

/-- A pause needs a delay, which is read with the policies. -/
def readPause (p : Props) : Except PropError Content :=
  match Members.get? p "delay" with
  | none => .error (.missing "delay")
  | some .null => .error (.missing "delay")
  | some _ => .ok .pause

/-- What is filled into an approved template: a text, or a number as JSON writes it. -/
def readParam (index : Nat) : Json → Except PropError String
  | .str s => .ok s
  | .num n => .ok (String.ofList n.chars)
  | v => .error (.notParam index v.typeName)

def readApproved (p : Props) : Except PropError Content := do
  let t ← require "template" (← object? p "template")
  let name ← within "template" (string t "name")
  let params ← match ← within "template" (array? t "params") with
    | some raw => eachItem readParam raw
    | none => pure []
  return .approved name (← within "template" (string? t "language")) params

end ChatPlan
