import ChatPlan.Classifier.Phrases
import ChatPlan.Classifier.Rules

/-
Settings of a classifier: branches in order, each with an output and the tests that lead to it, and
the outputs for what no branch takes and for what takes too long.
-/
namespace ChatPlan

open Json

/-- The text of a field has to match a pattern. -/
structure PatternTest where
  field : String
  pattern : String
  flags : String

/-- A service that is asked for its judgement. -/
structure Hook where
  url : String
  method : String
  headers : Members String
  timeoutMillis : Option Nat
  cacheSeconds : Option Nat

/-- The tests of a branch; all of them have to pass. -/
structure BranchTests where
  patterns : List PatternTest := []
  phrases : List PhraseTest := []
  rules : Option RuleSet := none
  guard : Option String := none
  hook : Option Hook := none

/-- An output, and the tests that lead to it. -/
structure Branch where
  output : String
  tests : BranchTests

/-- What a classifier is made of. -/
structure Settings where
  enabled : Bool := true
  normalizer : Normalizer := {}
  branches : List Branch := []
  defaultOutput : String := "default"
  timeoutSeconds : Option FiniteDouble := none
  timeoutOutput : String := "timeout"

namespace PatternTest

def toJson (t : PatternTest) : Json :=
  record [("field", some (.str t.field)), ("pattern", some (.str t.pattern)),
    ("flags", if t.flags.isEmpty then none else some (.str t.flags))]

def ofTree? (t : Tree) : Option PatternTest :=
  match t.slots [["field"], ["pattern"], ["flags"]] with
  | some [field, pattern, flags] => do
    return {
      field := ← field.orElse Tree.asString? "value"
      pattern := ← pattern.required Tree.asString?
      flags := ← flags.orElse Tree.asString? "" }
  | _ => none

end PatternTest

namespace Hook

def toJson (h : Hook) : Json :=
  record [("url", some (.str h.url)), ("method", some (.str h.method)),
    ("headers", if h.headers.isEmpty then none
      else some (object (h.headers.map fun m => (m.1, .str m.2)))),
    ("timeout_ms", h.timeoutMillis.map ofNat), ("cache_ttl_seconds", h.cacheSeconds.map ofNat)]

def ofTree? (t : Tree) : Option Hook :=
  match t.slots [["url"], ["method"], ["headers"], ["timeout_ms"], ["cache_ttl_seconds"]] with
  | some [url, method, headers, timeout, cache] => do
    return {
      url := ← url.required Tree.asString?
      method := ← method.orElse Tree.asString? "POST"
      headers := ← headers.orElse (Tree.asMembers? Tree.asString?) []
      timeoutMillis := ← timeout.optional Tree.asWord?
      cacheSeconds := ← cache.optional Tree.asWord? }
  | _ => none

end Hook

namespace BranchTests

/-- There is no test, so that everything passes. -/
def isEmpty (t : BranchTests) : Bool :=
  t.patterns.isEmpty && t.phrases.isEmpty && t.rules.isNone && t.guard.isNone && t.hook.isNone

/-- A list that is left out when it is empty. -/
def ofSome {α : Type} (f : α → Json) (xs : List α) : Option Json :=
  if xs.isEmpty then none else some (.arr (xs.map f))

def toJson (t : BranchTests) : Json :=
  record [("regex", ofSome PatternTest.toJson t.patterns),
    ("tags", ofSome PhraseTest.toJson t.phrases), ("rules", t.rules.map RuleSet.toJson),
    ("expr", t.guard.map .str), ("hook", t.hook.map Hook.toJson)]

def ofTree? (t : Tree) : Option BranchTests :=
  match t.closedSlots [["regex"], ["tags"], ["rules"], ["expr"], ["hook"]] with
  | some [patterns, phrases, rules, guard, hook] => do
    return {
      patterns := ← patterns.orElse (Tree.asList? PatternTest.ofTree?) []
      phrases := ← phrases.orElse (Tree.asList? PhraseTest.ofTree?) []
      rules := ← rules.optional RuleSet.ofTree?
      guard := ← guard.optional Tree.asString?
      hook := ← hook.optional Hook.ofTree? }
  | _ => none

end BranchTests

namespace Branch

def toJson (b : Branch) : Json := object [("go", .str b.output), ("modes", b.tests.toJson)]

def ofTree? (t : Tree) : Option Branch :=
  match t.slots [["go"], ["modes"]] with
  | some [output, tests] => do
    return {
      output := ← output.required Tree.asString?
      tests := ← tests.orElse BranchTests.ofTree? {} }
  | _ => none

end Branch

/-- What is wrong with settings that can be read. -/
inductive SettingsFault where
  | nestedRules (branch rule : Nat)
  | blankOutput (branch : Nat)
  | noShare (branch test : Nat) (threshold : FiniteDouble)
  | blankUrl (branch : Nat)
  | noTime (seconds : FiniteDouble)
deriving DecidableEq

/-- The fault in words. -/
def SettingsFault.message : SettingsFault → String
  | .nestedRules branch rule =>
    s!"routes[{branch}].modes.rules.conditions[{rule}]: nested rule groups are not supported"
  | .blankOutput branch => s!"routes[{branch}].go is empty"
  | .noShare branch test threshold =>
    s!"routes[{branch}].modes.tags[{test}].threshold must be within 0..=1, got " ++ threshold.plain
  | .blankUrl branch => s!"routes[{branch}].modes.hook.url is empty"
  | .noTime seconds =>
    "timeout_seconds must be a positive, representable number of seconds, got " ++ seconds.plain

/-- The failure that stands for the fault. -/
def SettingsFault.toFailure (f : SettingsFault) : Failure := .invalidConfig f.message

/-- Why a text holds no settings. -/
inductive SettingsError where
  | noJson
  | noSettings
  | faulty (fault : SettingsFault)

/-- The first rule of a branch that is itself a group of rules. -/
def Branch.nestedRule? (branch : Json) : Option Nat := do
  let tests ← branch.get? "modes"
  let rules ← tests.get? "rules"
  let conditions ← (← rules.get? "conditions").asArray?
  conditions.findIdx? fun c => (c.get? "conditions").isSome || (c.get? "logic").isSome

/-- The first fault of a branch, at its place. -/
def Branch.fault? (index : Nat) (b : Branch) : Option SettingsFault :=
  if Text.blank b.output then some (.blankOutput index)
  else
    match (b.tests.phrases.zipIdx.find? fun t => !t.1.threshold.isShare) with
    | some (t, i) => some (.noShare index i t.threshold)
    | none => if b.tests.hook.any fun h => Text.blank h.url then some (.blankUrl index) else none

/-- The whole number of nanoseconds nearest to a time in seconds. -/
def FiniteDouble.nanos (x : FiniteDouble) : Nat := roundDiv (x.units * Nat.pow 10 9) unit

namespace Settings

/-- The first group of rules inside a group of rules. -/
def nestedFault? (j : Json) : Option SettingsFault := do
  let branches ← (← j.get? "routes").asArray?
  branches.zipIdx.findSome? fun b => (Branch.nestedRule? b.1).map (.nestedRules b.2 ·)

/-- The time for one text in nanoseconds, less than `2^64` seconds; a time that is set is more than
zero. -/
def timeoutNanos (s : Settings) : Except SettingsFault (Option Nat) :=
  match s.timeoutSeconds with
  | none => .ok none
  | some x =>
    if x.value ≤ 0 || Nat.pow 2 64 * Nat.pow 10 9 ≤ x.nanos then .error (.noTime x)
    else .ok (some x.nanos)

/-- Checks settings: the branches in order, then the time. -/
def check (s : Settings) : Except SettingsFault Unit :=
  match s.branches.zipIdx.findSome? fun b => Branch.fault? b.2 b.1 with
  | some fault => .error fault
  | none => s.timeoutNanos.map fun _ => ()

def toJson (s : Settings) : Json :=
  record [("enabled", some (.bool s.enabled)), ("normalize", some s.normalizer.toJson),
    ("routes", some (.arr (s.branches.map Branch.toJson))),
    ("default_output", some (.str s.defaultOutput)),
    ("timeout_seconds", s.timeoutSeconds.map ofFinite),
    ("timeout_output", some (.str s.timeoutOutput))]

def ofTree? (t : Tree) : Option Settings :=
  match t.slots [["enabled"], ["normalize"], ["routes"], ["default_output"], ["timeout_seconds"],
      ["timeout_output"]] with
  | some [enabled, normalizer, branches, defaultOutput, timeoutSeconds, timeoutOutput] => do
    return {
      enabled := ← enabled.orElse Tree.asBool? true
      normalizer := ← normalizer.orElse Normalizer.ofTree? {}
      branches := ← branches.orElse (Tree.asList? Branch.ofTree?) []
      defaultOutput := ← defaultOutput.orElse Tree.asString? "default"
      timeoutSeconds := ← timeoutSeconds.optional Tree.asFinite?
      timeoutOutput := ← timeoutOutput.orElse Tree.asString? "timeout" }
  | _ => none

/-- Reads and checks settings. Groups of rules inside groups are refused before anything else. -/
def ofJson (j : Json) : Except SettingsError Settings :=
  match nestedFault? j, ofTree? j.tree with
  | some fault, _ => .error (.faulty fault)
  | none, none => .error .noSettings
  | none, some s =>
    match s.check with
    | .ok _ => .ok s
    | .error fault => .error (.faulty fault)

/-- Reads and checks settings from their text. -/
def parse (source : String) : Except SettingsError Settings :=
  match Json.parse? source with
  | some j => ofJson j
  | none => .error .noJson

end Settings

end ChatPlan
