import ChatPlan.Issue
import ChatPlan.View.Reader
import ChatPlan.View.Writer

/-
Channels. What a channel can show is a list of limits and features: a limit that is missing is no
limit; a feature that is not named is not there, but every channel takes answers. A channel marks a
view with its name and drops the buttons that it cannot show; it never touches a text. A general
adapter may also fail.
-/
namespace ChatPlan

/-! ## Capabilities -/

open Json

/-- The limits and features of a channel. -/
structure Capabilities where
  maxTextLen : Option Nat := none
  maxButtons : Option Nat := none
  maxListItems : Option Nat := none
  maxListSections : Option Nat := none
  maxButtonLen : Option Nat := none
  maxDescriptionLen : Option Nat := none
  maxHeaderLen : Option Nat := none
  maxFooterLen : Option Nat := none
  approvedTemplates : Bool := false
  richText : Bool := false
  carousel : Bool := false
  listPicker : Bool := false
  buttonKinds : List ButtonKind := [.reply]

namespace Capabilities

/-- The channel shows buttons of this kind. -/
def shows (c : Capabilities) (k : ButtonKind) : Bool := c.buttonKinds.contains k

def whatsapp : Capabilities where
  maxTextLen := some 4096
  maxButtons := some 3
  maxListItems := some 10
  maxListSections := some 10
  maxButtonLen := some 20
  maxDescriptionLen := some 72
  maxHeaderLen := some 60
  maxFooterLen := some 60
  approvedTemplates := true
  listPicker := true
  buttonKinds := [.reply, .url, .call]

def webchat : Capabilities where
  maxTextLen := some 10000
  maxButtons := some 10
  maxListItems := some 50
  maxListSections := some 10
  maxButtonLen := some 64
  maxDescriptionLen := some 256
  maxHeaderLen := some 256
  maxFooterLen := some 256
  richText := true
  carousel := true
  listPicker := true
  buttonKinds := [.reply, .url]

/-- A limit that may be missing. -/
def ofLimit : Option Nat → Json
  | some n => ofNat n
  | none => .null

def toJson (c : Capabilities) : Json :=
  object [("max_text_len", ofLimit c.maxTextLen), ("max_buttons", ofLimit c.maxButtons),
    ("max_list_items", ofLimit c.maxListItems), ("max_list_sections", ofLimit c.maxListSections),
    ("max_button_len", ofLimit c.maxButtonLen),
    ("max_description_len", ofLimit c.maxDescriptionLen),
    ("max_header_len", ofLimit c.maxHeaderLen), ("max_footer_len", ofLimit c.maxFooterLen),
    ("supports_hsm", .bool c.approvedTemplates), ("supports_rich_text", .bool c.richText),
    ("supports_carousel", .bool c.carousel), ("supports_list_picker", .bool c.listPicker),
    ("button_kinds", strings (c.buttonKinds.map ButtonKind.name))]

/-- A set of kinds of buttons, each once and in a fixed order. -/
def kindsOfTree? (t : Tree) : Option (List ButtonKind) :=
  (t.asList? (namedChoice? ButtonKind.ofName?)).map fun ks => ButtonKind.all.filter ks.contains

def ofTree? (t : Tree) : Option Capabilities :=
  match t.slots [["max_text_len"], ["max_buttons"], ["max_list_items"], ["max_list_sections"],
      ["max_button_len"], ["max_description_len"], ["max_header_len"], ["max_footer_len"],
      ["supports_hsm"], ["supports_rich_text"], ["supports_carousel"], ["supports_list_picker"],
      ["button_kinds"]] with
  | some [text, buttons, items, sections, button, description, header, footer, approved, rich,
      carousel, picker, kinds] => do
    return {
      maxTextLen := ← text.optional Tree.asWord?
      maxButtons := ← buttons.optional Tree.asWord?
      maxListItems := ← items.optional Tree.asWord?
      maxListSections := ← sections.optional Tree.asWord?
      maxButtonLen := ← button.optional Tree.asWord?
      maxDescriptionLen := ← description.optional Tree.asWord?
      maxHeaderLen := ← header.optional Tree.asWord?
      maxFooterLen := ← footer.optional Tree.asWord?
      approvedTemplates := ← approved.orElse Tree.asBool? false
      richText := ← rich.orElse Tree.asBool? false
      carousel := ← carousel.orElse Tree.asBool? false
      listPicker := ← picker.orElse Tree.asBool? false
      buttonKinds := ← kinds.orElse kindsOfTree? [.reply] }
  | _ => none

def parse? (source : String) : Option Capabilities := (Tree.parse? source).bind ofTree?

end Capabilities

end ChatPlan

namespace ChatPlan

/-! ## Adapters -/

/-- A channel: its name and what it can show. -/
structure Channel where
  name : String
  capabilities : Capabilities

/-- What brings views into the form of a channel. -/
structure Adapter where
  name : String
  capabilities : Capabilities
  adapt : View → Except Failure View

namespace Channel

def whatsapp : Channel := ⟨"whatsapp", .whatsapp⟩

def webchat : Channel := ⟨"webchat", .webchat⟩

/-- The channel shows the button. -/
def keeps (c : Channel) (b : Button) : Bool := c.capabilities.shows b.kind

/-- The buttons of a view that the channel drops: those of the view first, then those of its
cards. -/
def dropped (c : Channel) (v : View) : List Button :=
  (v.buttons ++ v.cards.flatMap (·.buttons)).filter fun b => !c.keeps b

/-- The view as the channel shows it, with the kinds of the dropped buttons noted. -/
def adapt (c : Channel) (v : View) : View :=
  let marked := Members.insert "channel" (.str c.name) v.metadata
  { v with
    buttons := v.buttons.filter c.keeps
    cards := v.cards.map fun card => { card with buttons := card.buttons.filter c.keeps }
    metadata :=
      if (c.dropped v).isEmpty then marked
      else Members.insert "dropped_buttons" (.strings ((c.dropped v).map (·.kind.name))) marked }

/-- The channel as an adapter, which never fails. -/
def adapter (c : Channel) : Adapter := ⟨c.name, c.capabilities, fun v => .ok (c.adapt v)⟩

end Channel

end ChatPlan
