import ChatPlan.Channel.Basic
import ChatPlan.Flow.Rules
import ChatPlan.Step.Kind

/-
Checks beyond the graph. A design pass looks at the whole design, a view pass at one view and what
the channel can show.
-/
namespace ChatPlan

/-- What a design pass looks at. -/
structure DesignContext where
  flow : Flow
  registry : Registry
  capabilities : Capabilities
  options : Options

/-- A check of a whole design. -/
structure DesignPass where
  name : String
  apply : DesignContext → List Issue

/-- What a view pass looks at besides the view: where the view stands in issues. -/
structure ViewContext where
  capabilities : Capabilities
  options : Options
  path : String

/-- A check of one view. -/
structure ViewPass where
  name : String
  apply : ViewContext → View → List Issue

namespace DesignContext

def design (c : DesignContext) : Design := c.flow.design

/-- The properties that count for a node. -/
def props (c : DesignContext) (n : Node) : Props := c.design.resolvedProps n

end DesignContext

/-- The place of a part of a view. -/
def ViewContext.at (c : ViewContext) (part : String) : String := c.path ++ "." ++ part

/-- The names of kinds start with a small letter. -/
def isKindName (s : String) : Bool :=
  match s.toList with
  | [] => false
  | c :: cs =>
    c.isLower && cs.all fun c => c.isLower || c.isDigit || c == '_' || c == '.' || c == '-'

/-- The names of variables start with a letter or `_`. -/
def isIdentifier (s : String) : Bool :=
  match s.toList with
  | [] => false
  | c :: cs => (c.isAlpha || c == '_') && cs.all fun c => c.isAlphanum || c == '_'

end ChatPlan
