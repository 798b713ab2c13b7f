import ChatPlan.Json.Record
import ChatPlan.Text.Basic

/-
What goes wrong. A failure stops a compile or an evaluation. An issue is a single finding of a
check, with a stable code, a severity, the place in the document and a message; it is no failure.
-/
namespace ChatPlan

/-! ## Failures -/

/-- What stops a compile or an evaluation. -/
inductive Failure where
  | unknownKind (kind : String)
  | factory (kind node message : String)
  | spec (node message : String)
  | templateScan (offset : Nat) (message : String)
  | adapter (adapter node message : String)
  | invalidConfig (message : String)
  | regexCompile (pattern message : String)
  | regexTimeout (pattern : String) (millis : Nat)
  | hook (url : String) (status : Nat) (message : String)
  | hookTimeout (url : String) (millis : Nat)
  | guard (message : String)
  | other (message : String)
deriving DecidableEq

namespace Failure

/-- The failure in words. -/
def message : Failure → String
  | .unknownKind kind => s!"No factory registered for component kind '{kind}'"
  | .factory kind node message => s!"Factory '{kind}' failed on node '{node}': {message}"
  | .spec node message => s!"Spec generation failed on node '{node}': {message}"
  | .templateScan offset message => s!"Template scan error at offset {offset}: {message}"
  | .adapter name node message =>
    s!"Adapter '{name}' failed to transform node '{node}': {message}"
  | .invalidConfig message => s!"Invalid validator configuration: {message}"
  | .regexCompile pattern message => s!"Invalid regex '{pattern}': {message}"
  | .regexTimeout pattern millis => s!"Regex '{pattern}' exceeded {millis}ms (possible ReDoS)"
  | .hook url status message => s!"Hook {url} returned HTTP {status}: {message}"
  | .hookTimeout url millis => s!"Hook {url} timed out after {millis}ms"
  | .guard message => s!"Guard expression error: {message}"
  | .other message => message

/-- The failure makes a design impossible to compile. -/
def isStructural : Failure → Bool
  | .unknownKind .. | .factory .. | .spec .. | .templateScan .. | .adapter .. => true
  | _ => false

/-- The failure comes from outside at run time, and says nothing about a match. -/
def isInfrastructure : Failure → Bool
  | .regexTimeout .. | .hook .. | .hookTimeout .. => true
  | _ => false

end Failure

/-! ## Issues -/

open Json

/-- How much an issue matters. -/
inductive Severity where
  | info
  | warn
  | error
deriving DecidableEq

namespace Severity

def name : Severity → String
  | .info => "info"
  | .warn => "warn"
  | .error => "error"

def all : List Severity := [.info, .warn, .error]

/-- The place of the severity in ascending order. -/
def rank : Severity → Nat
  | .info => 0
  | .warn => 1
  | .error => 2

def ofName? (s : String) : Option Severity := all.find? (·.name == s)

end Severity

/-- A finding. -/
structure Issue where
  severity : Severity
  code : String
  path : String
  message : String
deriving DecidableEq

namespace Issue

def error (code path message : String) : Issue := ⟨.error, code, path, message⟩

def warn (code path message : String) : Issue := ⟨.warn, code, path, message⟩

def info (code path message : String) : Issue := ⟨.info, code, path, message⟩

def isError (i : Issue) : Bool := i.severity == .error

/-- The issue on one line. -/
def display (i : Issue) : String := s!"[{i.severity.name}] {i.code} at {i.path}: {i.message}"

def toJson (i : Issue) : Json :=
  object [("code", .str i.code), ("severity", .str i.severity.name), ("path", .str i.path),
    ("msg", .str i.message)]

def ofTree? (t : Tree) : Option Issue :=
  match t.slots [["code"], ["severity"], ["path"], ["msg"]] with
  | some [code, severity, path, message] => do
    return {
      code := ← code.required Tree.asString?
      severity := ← severity.required fun t => t.asChoice?.bind Severity.ofName?
      path := ← path.required Tree.asString?
      message := ← message.required Tree.asString? }
  | _ => none

end Issue

/-- Some issue is an error. -/
def hasErrors (issues : List Issue) : Bool := issues.any Issue.isError

/-- How many issues have the severity. -/
def countSeverity (issues : List Issue) (s : Severity) : Nat :=
  issues.countP (·.severity == s)

end ChatPlan
