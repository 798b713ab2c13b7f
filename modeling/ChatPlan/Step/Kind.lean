import ChatPlan.Issue
import ChatPlan.Step.Basic
import ChatPlan.Step.ContentReader
import ChatPlan.Step.Policies
import ChatPlan.Text.Property

/-
Kinds of steps. A kind says which policies its steps may have, which outputs they may declare, and
how a step is built from properties. A registry holds kinds by name.
-/
namespace ChatPlan

/-- Outputs that stand for no element. -/
def standardOutputs : List String := ["timeout", "invalid", "fallback", "cancelled"]

/-- The outputs of a kind: a fixed set, or one for each element, which has a name in issues. -/
inductive OutputRule where
  | fixed (required optional : List String)
  | interactive (element : String) (elements : Props → List Element)

/-- A kind of steps. -/
structure Kind where
  name : String
  allowed : List Policy
  outputs : OutputRule
  build : Props → Except Failure Step

/-- The kinds that are known, by name. -/
abbrev Registry := Members Kind

namespace Registry

/-- The registry with one more kind, in place of an older one of the same name. -/
def register (r : Registry) (k : Kind) : Registry := Members.insert k.name k r

/-- The kind with this name. -/
def kind? (r : Registry) (name : String) : Option Kind := Members.get? r name

/-- The names of all kinds, sorted. -/
def names (r : Registry) : List String := r.map (·.1)

/-- Builds a step of the kind. -/
def build (r : Registry) (name : String) (p : Props) : Except Failure Step :=
  match kind? r name with
  | some k => k.build p
  | none => .error (.unknownKind name)

/-- The registry on one line. -/
def display (r : Registry) : String :=
  "Registry \x7b kinds: " ++ Text.quotedList (names r) ++ " \x7d"

end Registry

/-- Builds a step from its content, its policies and its notes. -/
def Step.read (kind : String) (content : Props → Except PropError Content) (p : Props) :
    Except PropError Step := do
  let shown ← content p
  let behavior ← Behavior.read p
  let persistence ← Persistence.read p
  let notes := (← Props.object? p "meta").getD []
  return { kind, content := shown, behavior, persistence, metadata := notes }

/-- A kind whose steps are built from their content. A step that cannot be built names no node. -/
def Kind.ofContent (name : String) (allowed : List Policy) (outputs : OutputRule)
    (content : Props → Except PropError Content) : Kind :=
  { name, allowed, outputs
    build := fun p => (Step.read name content p).mapError fun e => .factory name "" e.message }

/-- The only output is `next`. -/
def nextOnly : OutputRule := .fixed ["next"] []

/-- The policies of steps that wait for a choice. -/
def choicePolicies : List Policy := [.timeout, .retry, .fallback, .delay, .persistence]

/-- The kinds that are always there. -/
def builtinKinds : List Kind := [
  .ofContent "message" [.delay, .experiment] nextOnly readMessage,
  .ofContent "text" [.delay] nextOnly readMessage,
  .ofContent "media" [.delay] nextOnly readMedia,
  .ofContent "delay" [.delay] nextOnly readPause,
  .ofContent "buttons" choicePolicies (.interactive "button" Props.buttonElements)
    readButtonsContent,
  .ofContent "list" choicePolicies (.interactive "item" Props.itemElements) readList,
  .ofContent "carousel" choicePolicies (.interactive "button" Props.cardElements) readCarousel,
  .ofContent "confirm" choicePolicies (.interactive "choice" Props.choiceElements) readConfirm,
  .ofContent "input" [.timeout, .validation, .retry, .fallback, .delay, .persistence]
    (.fixed ["next"] ["timeout", "invalid", "fallback"]) readInput,
  .ofContent "hsm" [.timeout, .delay] (.fixed ["next"] ["timeout"]) readApproved]

/-- The registry of the kinds that are always there. -/
def Registry.builtin : Registry := builtinKinds.foldl Registry.register []

end ChatPlan
