import ChatPlan.Json.Basic
import ChatPlan.Text.Basic

/-
Dotted paths into a bag of variables: `user.tags.0` walks through objects by key and through arrays
by index.
-/
namespace ChatPlan.Json

/-- A whole number of 64 bits: digits behind an optional plus. -/
def index? (cs : List Char) : Option Nat :=
  let ds := match cs with
    | '+' :: r => r
    | _ => cs
  if ds.isEmpty || !ds.all Char.isDigit then none
  else if ofDigits ds < Nat.pow 2 64 then some (ofDigits ds) else none

/-- One step of a path. -/
def step? (j : Json) (segment : List Char) : Option Json :=
  match j with
  | .obj ms => Members.get? ms (String.ofList segment)
  | .arr items => (index? segment).bind fun i => items[i]?
  | _ => none

/-- The value at a path of a bag of variables. -/
def at? (vars : Members Json) (path : String) : Option Json :=
  (Text.segments path.toList).foldlM step? (.obj vars)

/-- The text at a path: a string is its own text, `null` and nothing are the empty text. -/
def textAt (vars : Members Json) (path : String) : String :=
  match at? vars path with
  | none => ""
  | some .null => ""
  | some v => v.displayText

end ChatPlan.Json
