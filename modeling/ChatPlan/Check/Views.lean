import ChatPlan.Check.Basic
import ChatPlan.Regex.Basic
import ChatPlan.Template.Width

/-
Checks of a view. Every filter in any of its texts has to be allowed. What is too long or too many
for the channel is a warning, since it is shown all the same; what the channel cannot express at all
is an error. A templated principal text is measured by an estimate while the design is checked; a
plain one is measured exactly in its view.
-/
namespace ChatPlan.Filters

/-! ## Filters -/

/-- The issues of the filters of a view. -/
def issues (c : ViewContext) (v : View) : List Issue :=
  v.fields.flatMap fun (place, text) =>
    (text.filters.filter fun filter => !c.options.allowsFilter filter).map fun filter =>
      .error "template.filter.disallowed" (c.at place) s!"Template filter '{filter}' is not allowed"

end ChatPlan.Filters

namespace ChatPlan.Fit

/-! ## Fit -/

open Regex

/-- Any character but these. -/
def noneOf (cs : List Char) : Regex := .chars (.compl (.unions (cs.map .single)))

/-- At least one of what the pattern matches. -/
def some1 (r : Regex) : Regex := .repeated r 1 none

/-- A text between two double marks, on one line. -/
def doubled (mark : Char) : Regex :=
  .concat [char mark, char mark, some1 (noneOf [mark, '\n']), char mark, char mark]

/-- A link: its text in brackets and its target in parentheses. -/
def link : Regex :=
  .concat [char '[', some1 (noneOf [']', '\n']), char ']', char '(',
    some1 (.chars (.compl (.union (.single ')') .space))), char ')']

/-- Emphasis, links and fences of code. -/
def richMarkup : Regex :=
  .oneOf [doubled '*', doubled '_', doubled '~', link, Regex.text "\x60\x60\x60"]

/-- A text is longer than its limit. -/
def lengthIssue (code path what : String) (limit : Option Nat) (t : TemplateText) : Option Issue :=
  match limit with
  | none => none
  | some max =>
    let size := t.certainSize
    if max < size then
      some (.warn code path s!"{what} is {size} characters; the channel limit is {max}")
    else none

/-- One button: its kind and its label. -/
def buttonIssues (c : ViewContext) (kind place : String) (b : Button) : List Issue :=
  let shown := b.kind.name
  (if c.capabilities.shows b.kind then [] else
    [.warn s!"adapter.{kind}.button_kind_unsupported" (c.at place)
      s!"Button kind '{shown}' is not supported by the channel and will be dropped"]) ++
  (lengthIssue s!"adapter.{kind}.button_label_too_long" (c.at (place ++ ".label")) "Button label"
    c.capabilities.maxButtonLen b.label).toList

/-- There are more of something than the channel takes. -/
def countIssue (code path what : String) (limit : Option Nat) (count : Nat) : Option Issue :=
  match limit with
  | none => none
  | some max =>
    if max < count then some (.warn code path s!"{count} {what} at most {max}") else none

/-- The buttons at one place. -/
def buttonsIssues (c : ViewContext) (kind place : String) (bs : List Button) : List Issue :=
  (countIssue s!"adapter.{kind}.too_many_buttons" (c.at place) "buttons; the channel shows"
    c.capabilities.maxButtons bs.length).toList ++
  (bs.mapIdx fun i b => buttonIssues c kind s!"{place}[{i}]" b).flatten

/-- The description of an item or a card. -/
def descriptionIssue (c : ViewContext) (kind place what : String) (d : Option TemplateText) :
    List Issue :=
  (d.bind (lengthIssue s!"adapter.{kind}.description_too_long" (c.at (place ++ ".description")) what
    c.capabilities.maxDescriptionLen)).toList

def listIssues (c : ViewContext) (kind : String) (p : Picker) : List Issue :=
  (if c.capabilities.listPicker then [] else
    [.error s!"adapter.{kind}.list_unsupported" (c.at "list") "The channel has no list picker"]) ++
  (countIssue s!"adapter.{kind}.too_many_sections" (c.at "list.sections")
    "sections; the channel allows" c.capabilities.maxListSections p.sections.length).toList ++
  (countIssue s!"adapter.{kind}.too_many_items" (c.at "list.sections")
    "items; the channel allows" c.capabilities.maxListItems p.size).toList ++
  (lengthIssue s!"adapter.{kind}.button_label_too_long" (c.at "list.button_label")
    "List button label" c.capabilities.maxButtonLen p.buttonLabel).toList ++
  (p.sections.mapIdx fun s sec => (sec.items.mapIdx fun i item =>
    descriptionIssue c kind s!"list.sections[{s}].items[{i}]" "Item description"
      item.description).flatten).flatten

def cardIssues (c : ViewContext) (kind : String) (index : Nat) (card : Card) : List Issue :=
  descriptionIssue c kind s!"cards[{index}]" "Card description" card.description ++
    buttonsIssues c kind s!"cards[{index}].buttons" card.buttons

def cardsIssues (c : ViewContext) (kind : String) (cards : List Card) : List Issue :=
  if cards.isEmpty then []
  else
    (if c.capabilities.carousel then [] else
      [.error s!"adapter.{kind}.carousel_unsupported" (c.at "cards")
        "The channel cannot display carousels"]) ++
    (cards.mapIdx (cardIssues c kind)).flatten

def templateIssues (c : ViewContext) (v : View) : List Issue :=
  let kind := v.kind
  if v.template.isSome && !c.capabilities.approvedTemplates then
    [.error s!"adapter.{kind}.hsm_unsupported" (c.at "template")
      "The channel does not support structured templates (HSM)"]
  else []

def markupIssues (c : ViewContext) (v : View) : List Issue :=
  let kind := v.kind
  if !c.capabilities.richText && v.text.any fun t => richMarkup.isMatch t.raw then
    [.warn s!"adapter.{kind}.rich_text_unsupported" (c.at "text")
      "Text uses rich formatting the channel will show verbatim"]
  else []

/-- The issues of a view on the channel. -/
def issues (c : ViewContext) (v : View) : List Issue :=
  let kind := v.kind
  (v.header.bind (lengthIssue s!"adapter.{kind}.header_too_long" (c.at "header") "Header"
    c.capabilities.maxHeaderLen)).toList ++
  (v.footer.bind (lengthIssue s!"adapter.{kind}.footer_too_long" (c.at "footer") "Footer"
    c.capabilities.maxFooterLen)).toList ++
  buttonsIssues c kind "buttons" v.buttons ++
  v.list.toList.flatMap (listIssues c kind) ++
  cardsIssues c kind v.cards ++ templateIssues c v ++ markupIssues c v

end ChatPlan.Fit

namespace ChatPlan.Length

/-! ## Lengths -/

/-- The length from which a text is close to the limit. -/
def nearLimit (max : Nat) (ratio : FiniteDouble) : Nat :=
  match Double.ofInt max with
  | .finite m => (Double.mul m ratio).toNatWithin FiniteDouble.floorNat Props.maxWord
  | _ => Props.maxWord

/-- What is wrong with the estimated length of the text of a node. -/
def estimateIssue (max near : Nat) (n : Node) (literal estimated : Nat) : Option Issue :=
  let path := nodePath n.id ++ ".props.text"
  if max < literal then
    some (.error "template.length.static_exceeded" path
      s!"Literal text alone is {literal} characters; the channel limit is {max}")
  else if max < estimated then
    some (.warn "template.length.estimated_exceeded" path
      s!"Estimated rendered length {estimated} exceeds the channel limit of {max}")
  else if near < estimated then
    some (.info "template.length.near_limit" path
      s!"Estimated rendered length {estimated} is close to the channel limit of {max}")
  else none

/-- What is wrong with the text of a node, if it is templated. -/
def nodeIssue (c : DesignContext) (max : Nat) (n : Node) : Option Issue :=
  match (Props.text? (c.props n) "text").bind Template.estimate? with
  | some (literal, estimated) =>
    estimateIssue max (nearLimit max c.options.nearLimitRatio) n literal estimated
  | none => none

/-- The issues of the estimated lengths of a design. -/
def designIssues (c : DesignContext) : List Issue :=
  match c.capabilities.maxTextLen with
  | none => []
  | some max => c.flow.nodes.filterMap (nodeIssue c max)

/-- The issues of the length of the text of a view. -/
def viewIssues (c : ViewContext) (v : View) : List Issue :=
  match v.text, c.capabilities.maxTextLen with
  | some text, some max =>
    if text.templated then
      [.info "text.length.deferred" (c.at "text")
        s!"Templated text checked against the {max}-character limit at runtime"]
    else
      let size := text.size
      if max < size then
        [.warn "text.length.exceeded" (c.at "text")
          s!"Text is {size} characters; the channel limit is {max}"]
      else []
  | _, _ => []

end ChatPlan.Length
