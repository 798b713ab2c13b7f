import ChatPlan.Template.Scan
import ChatPlan.Text.Case

/-
Texts of a view with their template blocks, and how long they become. What stands outside blocks is
measured exactly; every output block adds the width that the names of its variables suggest.
-/
namespace ChatPlan

/-! ## Texts -/

open Template

/-- A text with its template blocks; a plain text has none. -/
structure TemplateText where
  raw : String
  templated : Bool
  blocks : List Block
deriving DecidableEq

namespace TemplateText

/-- A text without blocks. -/
def plain (raw : String) : TemplateText := ⟨raw, false, []⟩

/-- The text with the blocks that a scan finds in it. -/
def ofRaw (raw : String) : Except ScanError TemplateText :=
  if worthScanning raw then (scan raw).map fun blocks => ⟨raw, !blocks.isEmpty, blocks⟩
  else .ok (plain raw)

/-- The number of characters. -/
def size (t : TemplateText) : Nat := t.raw.length

/-- The number of characters outside blocks. -/
def literalSize (t : TemplateText) : Nat := literalLength t.raw t.blocks

/-- The number of characters that are certain to be shown: of a templated text, those outside
blocks. -/
def certainSize (t : TemplateText) : Nat := if t.templated then t.literalSize else t.size

/-- The filters of all blocks. -/
def filters (t : TemplateText) : List String := t.blocks.flatMap (·.filters)

end TemplateText

end ChatPlan

namespace ChatPlan.Template

/-! ## Estimates -/

/-- The width that a word in a name suggests; an earlier word wins. -/
def widths : List (String × Nat) := [
  ("first_name", 15), ("last_name", 20), ("full_name", 40), ("name", 30), ("email", 40),
  ("phone", 15), ("cpf", 14), ("cnpj", 18), ("document", 20), ("address", 80), ("street", 50),
  ("city", 30), ("zip", 9), ("cep", 9), ("date", 10), ("time", 8), ("url", 60), ("link", 60),
  ("price", 12), ("amount", 12), ("total", 12), ("value", 12), ("protocol", 12), ("code", 10),
  ("id", 12), ("description", 120), ("message", 160), ("text", 160), ("body", 160)]

/-- The width of a variable whose name suggests none. -/
def defaultWidth : Nat := 20

/-- The width of the first entry whose word is accepted. -/
def widthWhere (p : String → Bool) : Option Nat := (widths.find? fun w => p w.1).map (·.2)

/-- The width of a variable, from the last part of its dotted name: the whole part is looked up, and
then its words. -/
def variableWidth (path : String) : Nat :=
  let part := Text.lower ((Text.segments path.toList).getLastD [])
  let words := (Text.pieces (· == '_') part).map String.ofList
  ((widthWhere (· == String.ofList part)).or (widthWhere words.contains)).getD defaultWidth

/-- The width of what a block writes. -/
def Block.width (b : Block) : Nat :=
  if b.kind = .output then
    if b.vars.isEmpty then defaultWidth else total variableWidth b.vars
  else 0

/-- The exact and the estimated length of a text with at least one output block. -/
def estimate? (text : String) : Option (Nat × Nat) :=
  if worthScanning text then
    match scan text with
    | .ok blocks =>
      if blocks.any (·.kind == .output) then
        let literal := literalLength text blocks
        some (literal, literal + total Block.width blocks)
      else none
    | .error _ => none
  else none

end ChatPlan.Template
