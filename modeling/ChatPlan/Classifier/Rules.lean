import ChatPlan.Classifier.Normalizer
import ChatPlan.Guard.Parser
import ChatPlan.Json.Path
import ChatPlan.View.Reader

/-
Rules: each looks at the value of a field of a bag of variables and may compare it with another
value, and a set of rules asks for all of them or for one of them. Two values that both read as
numbers are compared as numbers, and two that have a text by their normalized texts.
-/
namespace ChatPlan

open Json

/-- What a rule asks about a value. -/
inductive RuleOp where
  | present
  | empty
  | eq
  | ne
  | gt
  | ge
  | lt
  | le
  | among
  | notAmong
  | contains
  | startsWith
  | endsWith
deriving DecidableEq

namespace RuleOp

def all : List RuleOp := [.present, .empty, .eq, .ne, .gt, .ge, .lt, .le, .among, .notAmong,
  .contains, .startsWith, .endsWith]

def name : RuleOp → String
  | .present => "exists"
  | .empty => "empty"
  | .eq => "=="
  | .ne => "!="
  | .gt => ">"
  | .ge => ">="
  | .lt => "<"
  | .le => "<="
  | .among => "in"
  | .notAmong => "not_in"
  | .contains => "contains"
  | .startsWith => "starts_with"
  | .endsWith => "ends_with"

def ofName? (s : String) : Option RuleOp := all.find? (·.name == s)

end RuleOp

/-- A question about the value of a field. -/
structure Rule where
  field : String
  op : RuleOp
  value : Option Json

/-- How the rules of a set are joined. -/
inductive RuleLogic where
  | and
  | or
deriving DecidableEq

/-- Rules of which all or one have to hold. -/
structure RuleSet where
  logic : RuleLogic
  rules : List Rule

/-- The number that a value is or that its text writes. -/
def Json.number? : Json → Option Double
  | .num n => some n.toDouble
  | .str s => Double.parse? (Text.trim s.toList)
  | _ => none

/-- The text of a string, a number or a truth value. -/
def Json.scalarText? : Json → Option String
  | .str s => some s
  | .num n => some (Json.num n).compact
  | .bool b => some (Json.bool b).compact
  | _ => none

/-- Nothing, `null`, a blank text, or an array or object without content. -/
def Json.isVoid : Option Json → Bool
  | none | some .null => true
  | some (.str s) => Text.blank s
  | some (.arr items) => items.isEmpty
  | some (.obj ms) => ms.isEmpty
  | some _ => false

namespace Rule

/-- The two values are equal for rules. -/
def equal (n : Normalizer) (a b : Json) : Bool :=
  match a.number?, b.number? with
  | some x, some y => x.same y
  | _, _ =>
    match a, b with
    | .bool p, .bool q => p == q
    | _, _ =>
      match a.scalarText?, b.scalarText? with
      | some s, some t => n.applied s == n.applied t
      | _, _ => a.same b

/-- How the two values are ordered for rules, if they are. -/
def order? (n : Normalizer) (a b : Json) : Option Ordering :=
  match a.number?, b.number? with
  | some x, some y => x.compare? y
  | _, _ => do return compare (n.applied (← a.scalarText?)) (n.applied (← b.scalarText?))

/-- The comparison accepts the order of the two values. -/
def ordered (n : Normalizer) (c : Comparison) (a b : Json) : Bool :=
  (order? n a b).any c.accepts

/-- The normalized texts of the two values stand in this relation. -/
def textsSatisfy (p : List Char → List Char → Bool) (n : Normalizer) (a b : Json) : Bool :=
  match a.scalarText?, b.scalarText? with
  | some s, some t => p (n.apply s.toList) (n.apply t.toList)
  | _, _ => false

/-- The value is one of the options, or equal to the only one. -/
def isAmong (n : Normalizer) (a : Json) : Json → Bool
  | .arr options => options.any (equal n a)
  | option => equal n a option

/-- The array has this item, or the text contains this text. -/
def holdsItem (n : Normalizer) (a b : Json) : Bool :=
  match a with
  | .arr items => items.any fun i => equal n i b
  | _ => textsSatisfy (fun s t => Text.occursIn t s) n a b

/-- The value of the field is compared with the value of the rule. -/
def compares (n : Normalizer) (op : RuleOp) (a b : Json) : Bool :=
  match op with
  | .present | .empty => false
  | .eq => equal n a b
  | .ne => !equal n a b
  | .gt => ordered n .gt a b
  | .ge => ordered n .ge a b
  | .lt => ordered n .lt a b
  | .le => ordered n .le a b
  | .among => isAmong n a b
  | .notAmong => !isAmong n a b
  | .contains => holdsItem n a b
  | .startsWith => textsSatisfy (fun s t => t.isPrefixOf s) n a b
  | .endsWith => textsSatisfy (fun s t => t.isSuffixOf s) n a b

/-- The rule holds of a bag of variables. A comparison needs the field and a value. -/
def holds (n : Normalizer) (vars : Members Json) (r : Rule) : Bool :=
  let actual := Json.at? vars r.field
  match r.op with
  | .present => actual.any fun v => !v.isNull
  | .empty => Json.isVoid actual
  | op =>
    match actual, r.value with
    | some a, some b => compares n op a b
    | _, _ => false

def toJson (r : Rule) : Json :=
  record [("field", some (.str r.field)), ("op", some (.str r.op.name)), ("value", r.value)]

def ofTree? (t : Tree) : Option Rule :=
  match t.closedSlots [["field"], ["op", "operator"], ["value"]] with
  | some [field, op, value] => do
    return {
      field := ← field.required Tree.asString?
      op := ← op.required (namedChoice? RuleOp.ofName?)
      value := ← value.optional Tree.value? }
  | _ => none

end Rule

namespace RuleLogic

def all : List RuleLogic := [.and, .or]

def name : RuleLogic → String
  | .and => "and"
  | .or => "or"

def ofName? (s : String) : Option RuleLogic := all.find? (·.name == s)

end RuleLogic

namespace RuleSet

/-- The set holds of a bag of variables; a set without rules always does. -/
def holds (n : Normalizer) (vars : Members Json) (s : RuleSet) : Bool :=
  s.rules.isEmpty ||
    match s.logic with
    | .and => s.rules.all (Rule.holds n vars)
    | .or => s.rules.any (Rule.holds n vars)

def toJson (s : RuleSet) : Json :=
  object [("logic", .str s.logic.name), ("conditions", .arr (s.rules.map Rule.toJson))]

def ofTree? (t : Tree) : Option RuleSet :=
  match t.closedSlots [["logic"], ["conditions"]] with
  | some [logic, rules] => do
    return {
      logic := ← logic.orElse (namedChoice? RuleLogic.ofName?) .and
      rules := ← rules.orElse (Tree.asList? Rule.ofTree?) [] }
  | _ => none

end RuleSet

end ChatPlan
