import ChatPlan.Design.Basic
import ChatPlan.Json.Basic
import ChatPlan.Regex.Syntax
import ChatPlan.Text.Basic

/-
Typed reading of untyped properties. A property that is missing or `null` is no error by itself; one
of the wrong type is.
-/
namespace ChatPlan

/-- Why properties cannot be read. -/
inductive PropError where
  | wrongType (key expected found : String)
  | wrongShape (expected found : String)
  | missing (key : String)
  | notWhole (key : String)
  | notSeconds (key : String)
  | empty (key : String)
  | unknownOption (key value : String) (options : List String)
  | unknownButton (kind : String)
  | notParam (index : Nat) (found : String)
  | secondsNotWhole
  | secondsNegative
  | missingDelay
  | missingPattern
  | invalidPattern (e : Regex.RegexError)
  | noAttempts
  | tooManyAttempts
  | weightTooLarge
  | noWeight
  | unknownScope (written : String)
  | unknownSanitizer (written : String)
  | emptyKey
  | within (place : String) (e : PropError)
deriving DecidableEq

/-- The error in words. -/
def PropError.message : PropError → String
  | .wrongType key expected found => s!"'{key}' must be {expected}, found {found}"
  | .wrongShape expected found => s!"must be {expected}, found {found}"
  | .missing key => s!"missing required '{key}'"
  | .notWhole key => s!"'{key}' must be a non-negative integer"
  | .notSeconds key => s!"'{key}' must be a non-negative number of seconds"
  | .empty key => s!"'{key}' must not be empty"
  | .unknownOption key value options =>
    s!"unknown {key} '{value}', expected one of " ++ Text.joined ", " options
  | .unknownButton kind => s!"unknown button type '{kind}'"
  | .notParam index found => s!"template.params[{index}] must be a string, found {found}"
  | .secondsNotWhole => "seconds must be a non-negative integer"
  | .secondsNegative => "seconds must be non-negative"
  | .missingDelay => "missing 'seconds' or 'ms'"
  | .missingPattern => "regex validation requires 'pattern'"
  | .invalidPattern e => "invalid pattern: " ++ e.message
  | .noAttempts => "max_attempts must be at least 1"
  | .tooManyAttempts => "max_attempts is too large"
  | .weightTooLarge => "weight is too large"
  | .noWeight => "at least one variant needs a positive weight"
  | .unknownScope written => s!"unknown scope {written}"
  | .unknownSanitizer written => s!"unknown sanitize rule {written}"
  | .emptyKey => "key must not be empty"
  | .within place e => s!"{place}: " ++ e.message

namespace Props

/-- What is read stands at this place. -/
def within {α : Type} (place : String) (r : Except PropError α) : Except PropError α :=
  r.mapError (.within place)

/-- A property that must be there. -/
def require {α : Type} (key : String) : Option α → Except PropError α
  | some a => .ok a
  | none => .error (.missing key)

/-- A property whose type is `expected`, if it is there. -/
def typed? {α : Type} (expected : String) (read : Json → Option α) (p : Props) (key : String) :
    Except PropError (Option α) :=
  match Members.get? p key with
  | none => .ok none
  | some .null => .ok none
  | some v =>
    match read v with
    | some a => .ok (some a)
    | none => .error (.wrongType key expected v.typeName)

def string? : Props → String → Except PropError (Option String) :=
  typed? "a string" Json.asString?

def bool? : Props → String → Except PropError (Option Bool) :=
  typed? "a boolean" Json.asBool?

def array? : Props → String → Except PropError (Option (List Json)) :=
  typed? "an array" Json.asArray?

def object? : Props → String → Except PropError (Option Props) :=
  typed? "an object" Json.asObject?

def number? : Props → String → Except PropError (Option JsonNumber) :=
  typed? "a number" fun
    | .num n => some n
    | _ => none

/-- A string that must be there. -/
def string (p : Props) (key : String) : Except PropError String := do
  require key (← string? p key)

/-- The first string among several properties. -/
def stringAmong? (p : Props) : List String → Except PropError (Option String)
  | [] => .ok none
  | key :: keys => do
    match ← string? p key with
    | some s => return some s
    | none => stringAmong? p keys

/-- A whole number of 64 bits without sign. -/
def whole? : JsonNumber → Option Nat
  | .int (.ofNat n) => some n
  | _ => none

/-- A whole number, if it is there. -/
def nat? (p : Props) (key : String) : Except PropError (Option Nat) := do
  match ← number? p key with
  | none => return none
  | some n =>
    match whole? n with
    | some n => return some n
    | none => throw (.notWhole key)

/-- The largest whole number of 64 bits. -/
def maxWord : Nat := Nat.pow 2 64 - 1

/-- Seconds as milliseconds, to the nearest; none for a negative number. -/
def millis? (n : JsonNumber) : Option Nat :=
  match n.toDouble, Double.ofInt 1000 with
  | .finite x, .finite k =>
    if x.value < 0 then none
    else some ((Double.mul x k).toNatWithin FiniteDouble.nearestNat maxWord)
  | _, _ => none

/-- Seconds as milliseconds, if they are there. -/
def seconds? (p : Props) (key : String) : Except PropError (Option Nat) := do
  match ← number? p key with
  | none => return none
  | some n =>
    match millis? n with
    | some ms => return some ms
    | none => throw (.notSeconds key)

/-- An item of an array that must be an object. -/
def asItem (key : String) (index : Nat) : Json → Except PropError Props
  | .obj ms => .ok ms
  | v => .error (.wrongType s!"{key}[{index}]" "an object" v.typeName)

/-- The items of an array, which must all be objects. -/
def itemsOf (key : String) (vs : List Json) : Except PropError (List Props) :=
  (vs.mapIdx fun i v => asItem key i v).mapM id

/-- Reads every item of a list together with its index. -/
def eachItem {α β : Type} (read : Nat → α → Except PropError β) (xs : List α) :
    Except PropError (List β) :=
  (xs.mapIdx read).mapM id

end Props

end ChatPlan
