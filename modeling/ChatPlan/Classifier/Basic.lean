import ChatPlan.Classifier.Hooks
import ChatPlan.Guard.Parser
import ChatPlan.Regex.Compile

/-
Classifiers. The branches are tried in order, and the first one whose tests all pass gives the
output. Within a branch the cheap tests come first: phrases, rules, the guard, patterns, and last
the hook. A failure ends the whole classification and never counts as a test that does not pass.
-/
namespace ChatPlan

open Json

/-- A pattern test that is ready to be run. -/
structure Matcher where
  field : String
  pattern : String
  regex : Regex

/-- A branch that is ready to be run. -/
structure Lane where
  output : String
  matchers : List Matcher
  phrases : List PhraseTest
  rules : Option RuleSet
  guard : Option Guard
  hook : Option Hook

/-- A classifier: its settings made ready, the time for one text in nanoseconds, and the times in
milliseconds for a match and for a hook that sets none. -/
structure Classifier where
  settings : Settings
  lanes : List Lane
  timeout : Option Nat
  matchMillis : Nat := 2000
  hookMillis : Nat := 5000

/-- How a classification ends. -/
inductive Decision where
  | matched (branch : Nat) (output : String) (message : Option String)
  | exhausted (output : String)
  | timedOut (output : String)
  | disabled (output : String)
deriving DecidableEq

namespace Decision

def output : Decision → String
  | .matched _ output _ | .exhausted output | .timedOut output | .disabled output => output

def isMatch : Decision → Bool
  | .matched .. => true
  | _ => false

def toJson : Decision → Json
  | .matched branch output message =>
    record [("state", some (.str "matched")), ("route", some (.ofNat branch)),
      ("output", some (.str output)), ("message", message.map .str)]
  | .exhausted output => object [("state", .str "exhausted"), ("output", .str output)]
  | .timedOut output => object [("state", .str "timed_out"), ("output", .str output)]
  | .disabled output => object [("state", .str "disabled"), ("output", .str output)]

end Decision

def PatternTest.matcher (t : PatternTest) : Except Failure Matcher :=
  (Regex.compile t.pattern t.flags).map fun regex => ⟨t.field, t.pattern, regex⟩

/-- The guard of the branch at this place. -/
def Branch.readGuard (index : Nat) (text : String) : Except Failure Guard :=
  (Guard.parse text).mapError fun e =>
    .guard (s!"routes[{index}].modes.expr: " ++ e.toFailure.message)

/-- Makes the branch at this place ready: first its patterns, then its guard. -/
def Branch.lane (index : Nat) (b : Branch) : Except Failure Lane := do
  let matchers ← b.tests.patterns.mapM PatternTest.matcher
  let guard ← b.tests.guard.mapM (Branch.readGuard index)
  return {
    output := b.output, matchers, guard
    phrases := b.tests.phrases, rules := b.tests.rules, hook := b.tests.hook }

/-- Checks settings and makes them ready. -/
def Classifier.ofSettings (s : Settings) : Except Failure Classifier := do
  s.check.mapError SettingsFault.toFailure
  let timeout ← s.timeoutNanos.mapError SettingsFault.toFailure
  let lanes ← s.branches.zipIdx.mapM fun b => Branch.lane b.2 b.1
  return { settings := s, lanes, timeout }

/-- The text of a field, if its value has one. -/
def fieldText? (vars : Members Json) (field : String) : Option String :=
  (Json.at? vars field).bind Json.scalarText?

/-- The tests of a lane that need nothing from outside. -/
def Lane.passesInside (n : Normalizer) (vars : Members Json) (l : Lane) : Bool :=
  (l.phrases.all fun t => (fieldText? vars t.field).any (t.holds n)) &&
    l.rules.all (RuleSet.holds n vars) && l.guard.all (Guard.holds (Json.textAt vars))

namespace Classifier

/-- How long a classification may wait, in milliseconds: a part of one counts in full. -/
def patience (c : Classifier) : Option Nat := c.timeout.map fun nanos => (nanos + 999999) / 1000000

/-- Runs a matcher; a field without text does not match. -/
def runMatcher (o : Outside) (c : Classifier) (vars : Members Json) (m : Matcher) :
    Dialog Bool := do
  match fieldText? vars m.field with
  | none => return false
  | some text =>
    let work ← Dialog.nextWork o
    Dialog.wait c.patience (work.millisWithin c.matchMillis)
    Dialog.ofExcept (supervised m.pattern c.matchMillis work
      (m.regex.isMatch (c.settings.normalizer.applied text)))

/-- Runs matchers up to the first one that does not match. -/
def runMatchers (o : Outside) (c : Classifier) (vars : Members Json) :
    List Matcher → Dialog Bool
  | [] => return true
  | m :: ms => do
    if ← c.runMatcher o vars m then c.runMatchers o vars ms else return false

/-- The output and message of a lane whose hook has judged. -/
def judged (l : Lane) (a : HookAnswer) : Option (String × Option String) :=
  if a.valid then
    some ((a.output.filter fun s => !Text.blank s).getD l.output, a.message)
  else none

/-- Asks the hook of a lane, if there is one. -/
def runHook (o : Outside) (c : Classifier) (vars : Members Json) (l : Lane) :
    Dialog (Option (String × Option String)) := do
  match l.hook with
  | none => return some (l.output, none)
  | some h => return judged l (← h.call o c.patience c.hookMillis vars)

/-- The output and message of a lane, if all its tests pass. -/
def runLane (o : Outside) (c : Classifier) (vars : Members Json) (l : Lane) :
    Dialog (Option (String × Option String)) := do
  if !l.passesInside c.settings.normalizer vars then return none
  if ← c.runMatchers o vars l.matchers then c.runHook o vars l else return none

/-- Runs lanes up to the first one that matches; the lanes are numbered from `index`. -/
def runLanes (o : Outside) (c : Classifier) (vars : Members Json) (index : Nat) :
    List Lane → Dialog (Option Decision)
  | [] => return none
  | l :: ls => do
    match ← c.runLane o vars l with
    | some (output, message) => return some (.matched index output message)
    | none => c.runLanes o vars (index + 1) ls

/-- Classifies a bag of variables, and gives the session afterwards. -/
def classify (o : Outside) (c : Classifier) (vars : Members Json) (s : Session) :
    Except Failure Decision × Session :=
  if !c.settings.enabled then (.ok (.disabled c.settings.defaultOutput), s)
  else
    match (c.runLanes o vars 0 c.lanes).run.run { s with spent := 0 } with
    | (.ok (some d), s) => (.ok d, s)
    | (.ok none, s) => (.ok (.exhausted c.settings.defaultOutput), s)
    | (.error (.failed f), s) => (.error f, s)
    | (.error .outOfTime, s) => (.ok (.timedOut c.settings.timeoutOutput), s)

/-- The bag of variables that holds one captured text. -/
def captured (text : String) : Members Json := [("value", .str text)]

theorem classify_of_disabled (o : Outside) (c : Classifier) (vars : Members Json) (s : Session)
    (h : c.settings.enabled = false) :
    c.classify o vars s = (.ok (.disabled c.settings.defaultOutput), s) := by
  simp [classify, h]

end Classifier

end ChatPlan
