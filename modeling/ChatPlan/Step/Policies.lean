import ChatPlan.Json.Record
import ChatPlan.Props.Basic
import ChatPlan.Regex.Compile
import ChatPlan.View.Basic

/-
Reading the policies of a step from its properties. Every policy has a key of its own and a short
form beside the full one; `null` leaves it out.
-/
namespace ChatPlan

/-- The policies that properties may set. -/
inductive Policy where
  | timeout
  | validation
  | retry
  | fallback
  | delay
  | experiment
  | persistence
deriving DecidableEq

namespace Policy

def all : List Policy :=
  [.timeout, .validation, .retry, .fallback, .delay, .experiment, .persistence]

def name : Policy → String
  | .timeout => "timeout"
  | .validation => "validation"
  | .retry => "retry"
  | .fallback => "fallback"
  | .delay => "delay"
  | .experiment => "experiment"
  | .persistence => "persistence"

/-- The property that sets the policy. -/
def key : Policy → String
  | .persistence => "persist"
  | p => p.name

def ofName? (s : String) : Option Policy := all.find? (·.name == s)

/-- The value that switches the policy on. `null` does not, nor does `false` for a fallback. -/
def value? (p : Props) (policy : Policy) : Option Json :=
  (Members.get? p policy.key).filter fun
    | .null => false
    | .bool false => policy != .fallback
    | _ => true

end Policy

/-- The policies that properties switch on. -/
def presentPolicies (p : Props) : List Policy :=
  Policy.all.filter fun policy => (policy.value? p).isSome

open Props

/-- A timeout: its seconds alone, or with an output. -/
def Timeout.read : Json → Except PropError Timeout
  | .num n =>
    match whole? n with
    | some seconds => .ok ⟨seconds, "timeout"⟩
    | none => .error .secondsNotWhole
  | .obj p => do
    let seconds ← require "seconds" (← nat? p "seconds")
    return ⟨seconds, (← string? p "output").getD "timeout"⟩
  | v => .error (.wrongShape "seconds or an object" v.typeName)

/-- A validation by a pattern needs one that can be read. -/
def Validation.check (v : Validation) : Except PropError Validation :=
  if v.kind = "regex" then
    match v.pattern with
    | none => .error .missingPattern
    | some p =>
      match Regex.compileWith .initial p with
      | .ok _ => .ok v
      | .error e => .error (.invalidPattern e)
  else .ok v

/-- A validation: the name of its kind alone, or with its details. -/
def Validation.read : Json → Except PropError Validation
  | .str kind => check ⟨kind, none, none, "invalid"⟩
  | .obj p => do
    let kind ← require "type" (← stringAmong? p ["type", "kind"])
    let pattern ← string? p "pattern"
    let message ← string? p "message"
    let output ← string? p "output"
    check ⟨kind, pattern, message, output.getD "invalid"⟩
  | v => .error (.wrongShape "a validator name or an object" v.typeName)

/-- How often a step asks again: at least once, and at most a 32-bit number of times. -/
def Retry.make (maxAttempts : Option Nat) (message : Option String) : Except PropError Retry :=
  match maxAttempts with
  | none => .error .noAttempts
  | some n =>
    if n = 0 then .error .noAttempts
    else if n < Nat.pow 2 32 then .ok ⟨n, message⟩
    else .error .tooManyAttempts

/-- A retry: its count alone, or with a message. -/
def Retry.read : Json → Except PropError Retry
  | .num n => make (whole? n) none
  | .obj p => do
    let n ← nat? p "max_attempts"
    make n (← string? p "message")
  | v => .error (.wrongShape "a count or an object" v.typeName)

/-- A fallback: `true`, its message alone, or with an output. -/
def Fallback.read : Json → Except PropError Fallback
  | .bool true => .ok ⟨none, "fallback"⟩
  | .str message => .ok ⟨some message, "fallback"⟩
  | .obj p => do
    let message ← string? p "message"
    return ⟨message, (← string? p "output").getD "fallback"⟩
  | v => .error (.wrongShape "a message or an object" v.typeName)

/-- A delay in milliseconds: seconds alone, or an object with `ms` or `seconds`. -/
def readDelay : Json → Except PropError Nat
  | .num n =>
    match millis? n with
    | some ms => .ok ms
    | none => .error .secondsNegative
  | .obj p => do
    match ← nat? p "ms" with
    | some ms => return ms
    | none =>
      match ← seconds? p "seconds" with
      | some ms => return ms
      | none => throw .missingDelay
  | v => .error (.wrongShape "seconds or an object" v.typeName)

/-- One arm of an experiment. -/
def Variant.read (index : Nat) (p : Props) : Except PropError Variant :=
  within s!"variants[{index}]" do
    let name ← string p "name"
    let weight := (← nat? p "weight").getD 1
    if weight < Nat.pow 2 32 then return ⟨name, weight⟩ else throw .weightTooLarge

/-- An experiment needs a variant that can be drawn. -/
def Experiment.read : Json → Except PropError Experiment
  | .obj p => do
    let name ← string p "name"
    let raw ← require "variants" (← array? p "variants")
    if raw.isEmpty then throw (.empty "variants")
    let variants ← eachItem Variant.read (← itemsOf "variants" raw)
    if variants.all (·.weight == 0) then throw .noWeight
    return ⟨name, variants⟩
  | v => .error (.wrongShape "an object" v.typeName)

/-- A fallback is left out by `null`, and by `false`. -/
def Fallback.isOff : Json → Bool
  | .null => true
  | .bool false => true
  | _ => false

/-- Reads a value at its place, if there is one and it is not one that leaves the policy out. -/
def readUnless {α : Type} (isOff : Json → Bool) (place : String)
    (read : Json → Except PropError α) : Option Json → Except PropError (Option α)
  | none => .ok none
  | some v => if isOff v then .ok none else (within place (read v)).map some

/-- Reads the behavior of a step; there is none if no policy is set. -/
def Behavior.read (p : Props) : Except PropError (Option Behavior) := do
  let timeout ← readUnless Json.isNull "timeout" Timeout.read (Policy.timeout.value? p)
  let validation ← readUnless Json.isNull "validation" Validation.read (Policy.validation.value? p)
  let retry ← readUnless Json.isNull "retry" Retry.read (Policy.retry.value? p)
  let fallback ← readUnless Fallback.isOff "fallback" Fallback.read (Policy.fallback.value? p)
  let delay ← readUnless Json.isNull "delay" readDelay (Policy.delay.value? p)
  let experiment ← readUnless Json.isNull "experiment" Experiment.read (Policy.experiment.value? p)
  let b : Behavior := ⟨timeout, validation, retry, fallback, delay, experiment⟩
  return if b.isEmpty then none else some b

/-- A name of a choice that must be known, if it is there. -/
def readChoice {α : Type} (p : Props) (key : String) (ofName? : String → Option α) (default : α)
    (unknown : String → PropError) : Except PropError α :=
  match Members.get? p key with
  | none => .ok default
  | some .null => .ok default
  | some v =>
    match v.tree.asChoice?.bind ofName? with
    | some a => .ok a
    | none => .error (unknown v.compact)

/-- Where a step keeps what it captures: a key alone, or with its details. -/
def Persistence.ofJson : Json → Except PropError Persistence
  | .str key => .ok ⟨.context, key, .none, false, false⟩
  | .obj p => do
    let scope ← readChoice p "scope" Scope.ofName? .context .unknownScope
    let sanitizer ← readChoice p "sanitize" Sanitizer.ofName? .none .unknownSanitizer
    let key ← string p "key"
    return ⟨scope, key, sanitizer, (← bool? p "required").getD false, false⟩
  | v => .error (.wrongShape "a key or an object" v.typeName)

/-- Where a step keeps what it captures; the key must not be blank. -/
def Persistence.ofValue (v : Json) : Except PropError Persistence := do
  let kept ← ofJson v
  if Text.blank kept.key then throw .emptyKey
  return kept

/-- Reads where a step keeps what it captures, whatever else its properties are. -/
def Persistence.read (p : Props) : Except PropError (Option Persistence) :=
  readUnless Json.isNull "persist" ofValue (Members.get? p "persist")

end ChatPlan
