import ChatPlan.Issue
import ChatPlan.Number.Decimal
import ChatPlan.Text.Alphabetic
import ChatPlan.Text.Basic

/-
Guards of edges: a disjunction of conjunctions of clauses, each of which compares the text at a key
with a literal or asks whether that text is truthy. Two texts that both read as numbers are compared
as numbers, all others character by character. In the text of a guard `||` separates alternatives,
`&&` separates clauses, and a clause is a key, a key behind `!`, or a key, an operator and a
literal. Separators and operators inside quotes are text.
-/
namespace ChatPlan

/-! ## Guards -/

/-- The six comparisons. -/
inductive Comparison where
  | eq
  | ne
  | gt
  | ge
  | lt
  | le
deriving DecidableEq

/-- One condition of a guard. -/
inductive Clause where
  | compare (key : String) (op : Comparison) (value : String)
  | truthy (key : String) (negated : Bool)
deriving DecidableEq

/-- A guard; one without alternatives is always true. -/
structure Guard where
  anyOf : List (List Clause)
deriving DecidableEq

/-- The comparison accepts this outcome. -/
def Comparison.accepts : Comparison → Ordering → Bool
  | .eq, o => o == .eq
  | .ne, o => o != .eq
  | .gt, o => o == .gt
  | .ge, o => o != .lt
  | .lt, o => o == .lt
  | .le, o => o != .gt

/-- Two texts compared as numbers if both read as numbers, otherwise character by character. There
is no outcome where one of them reads as `nan`. -/
def compareTexts? (a b : String) : Option Ordering :=
  match Double.parse? (Text.trim a.toList), Double.parse? (Text.trim b.toList) with
  | some x, some y => x.compare? y
  | _, _ => some (compare a b)

/-- A text counts as true unless it is empty, `false`, `0` or `null`. -/
def isTruthy (s : String) : Bool := !(["", "false", "0", "null"].contains (Text.trimmed s))

/-- The clause holds where keys have these texts. -/
def Clause.holds (resolve : String → String) : Clause → Bool
  | .truthy key negated => isTruthy (resolve key) != negated
  | .compare key op value => (compareTexts? (resolve key) value).any op.accepts

/-- The guard holds where keys have these texts. -/
def Guard.holds (resolve : String → String) (g : Guard) : Bool :=
  g.anyOf.isEmpty || g.anyOf.any fun clauses => clauses.all (Clause.holds resolve)

/-! ## Reading -/

/-- Why a text is no guard. -/
inductive GuardError where
  | emptyClause
  | missingKey
  | missingKeyBeforeOperator
  | missingValue (clause : String)
  | invalidSegment (segment : String)
deriving DecidableEq

namespace GuardError

/-- The error in words. -/
def message : GuardError → String
  | .emptyClause => "empty clause"
  | .missingKey => "missing key"
  | .missingKeyBeforeOperator => "missing key before operator"
  | .missingValue clause => "missing value after operator in '" ++ clause ++ "'"
  | .invalidSegment segment => "invalid key segment: '" ++ segment ++ "'"

/-- The failure that stands for the error. -/
def toFailure (e : GuardError) : Failure := .guard ("parse error: " ++ e.message)

end GuardError

namespace Guard

def isQuote (c : Char) : Bool := c == '"' || c == '\x27'

/-- The quote that is open after one more character. -/
def quoteAfter (quote : Option Char) (c : Char) : Option Char :=
  match quote with
  | some q => if c = q then none else some q
  | none => if isQuote c then some c else none

/-- Cuts a text at every doubled `sep` that stands outside quotes. -/
def splitOutside (sep : Char) : Option Char → List Char → List (List Char)
  | _, [] => [[]]
  | _, [c] => [[c]]
  | quote, c :: d :: cs =>
    if quote.isNone && c = sep && d = sep then [] :: splitOutside sep none cs
    else Text.consPiece c (splitOutside sep (quoteAfter quote c) (d :: cs))

/-- The operator with which a text starts, and what follows it. -/
def operatorAt : List Char → Option (Comparison × List Char)
  | '!' :: '=' :: r => some (.ne, r)
  | '=' :: '=' :: r => some (.eq, r)
  | '=' :: r => some (.eq, r)
  | '>' :: '=' :: r => some (.ge, r)
  | '>' :: r => some (.gt, r)
  | '<' :: '=' :: r => some (.le, r)
  | '<' :: r => some (.lt, r)
  | _ => none

/-- Cuts a clause at its first operator outside quotes. -/
def cutOperator : Option Char → List Char → Option (List Char × Comparison × List Char)
  | _, [] => none
  | quote, c :: cs =>
    match if quote.isNone then operatorAt (c :: cs) else none with
    | some (op, r) => some ([], op, r)
    | none => (cutOperator (quoteAfter quote c) cs).map fun (key, op, r) => (c :: key, op, r)

/-- A character that may stand in a key. -/
def isKeyChar (c : Char) : Bool := Text.isAlphanumeric c || c == '_'

/-- Checks a dotted key. -/
def checkKey (key : List Char) : Except GuardError String :=
  if key.isEmpty then .error .missingKey
  else
    match (Text.segments key).find? fun s => s.isEmpty || !s.all isKeyChar with
    | some s => .error (.invalidSegment (String.ofList s))
    | none => .ok (String.ofList key)

/-- The text between two quotes of one kind; any other text is its own literal. -/
def unquote : List Char → List Char
  | [] => []
  | q :: r => if isQuote q && r.getLast? == some q then r.dropLast else q :: r

/-- Reads one clause, which has no blanks at its ends. -/
def parseClause (cs : List Char) : Except GuardError Clause :=
  if cs.isEmpty then .error .emptyClause
  else
    match cutOperator none cs with
    | none =>
      match cs with
      | '!' :: r => (checkKey (Text.trim r)).map (.truthy · true)
      | _ => (checkKey cs).map (.truthy · false)
    | some (before, op, after) => do
      let key := Text.trim before
      if key.isEmpty then throw .missingKeyBeforeOperator
      let key ← checkKey key
      let value := Text.trim after
      if value.isEmpty then throw (.missingValue (String.ofList cs))
      return .compare key op (String.ofList (unquote value))

/-- Reads the clauses of one alternative. -/
def parseConjunction (cs : List Char) : Except GuardError (List Clause) :=
  (splitOutside '&' none cs).mapM fun part => parseClause (Text.trim part)

/-- Reads a guard; a blank text is the guard that is always true. -/
def parse (input : String) : Except GuardError Guard :=
  let cs := Text.trim input.toList
  if cs.isEmpty then .ok ⟨[]⟩
  else (splitOutside '|' none cs).mapM parseConjunction |>.map Guard.mk

end Guard

end ChatPlan
