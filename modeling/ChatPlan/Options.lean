import ChatPlan.Design.Writer
import ChatPlan.Issue
import ChatPlan.Json.Record

/-
Settings of a compile. Every setting has a default, so that any part of them may be written.
-/
namespace ChatPlan

open Json

/-- Names, sorted and each once. -/
def sortedNames (ss : List String) : List String :=
  (Members.ofList (ss.map fun s => (s, ()))).map (·.1)

/-- The settings of a compile. -/
structure Options where
  schema : String
  basePath : String
  allowedFilters : List String
  safeLoopLabels : List String
  nearLimitRatio : FiniteDouble

namespace Options

/-- The double nearest to `0.8`. -/
def fourFifths : FiniteDouble :=
  ⟨false, 7205759403792794, 1021, by decide, .inr (by decide), by decide⟩

def default : Options where
  schema := "flowcert.plan/v1"
  basePath := "plan"
  allowedFilters := ["capitalize", "currency", "date", "default", "escape", "first", "float", "int",
    "join", "last", "length", "lower", "replace", "round", "title", "trim", "upper"]
  safeLoopLabels := ["error", "fallback", "retry", "timeout", "validation"]
  nearLimitRatio := fourFifths

def allowsFilter (o : Options) (name : String) : Bool := o.allowedFilters.contains name

def isSafeLoop (o : Options) (label : String) : Bool := o.safeLoopLabels.contains label

def withFilter (o : Options) (name : String) : Options :=
  { o with allowedFilters := sortedNames (name :: o.allowedFilters) }

def toJson (o : Options) : Json :=
  object [("schema", .str o.schema), ("base_path", .str o.basePath),
    ("allowed_filters", strings o.allowedFilters), ("safe_loop_labels", strings o.safeLoopLabels),
    ("near_limit_ratio", ofFinite o.nearLimitRatio)]

/-- A set of names. -/
def namesOfTree? (t : Tree) : Option (List String) := t.asStrings?.map sortedNames

def ofTree? (t : Tree) : Option Options :=
  match t.slots [["schema"], ["base_path"], ["allowed_filters"], ["safe_loop_labels"],
      ["near_limit_ratio"]] with
  | some [schema, basePath, allowedFilters, safeLoopLabels, nearLimitRatio] => do
    return {
      schema := ← schema.orElse Tree.asString? default.schema
      basePath := ← basePath.orElse Tree.asString? default.basePath
      allowedFilters := ← allowedFilters.orElse namesOfTree? default.allowedFilters
      safeLoopLabels := ← safeLoopLabels.orElse namesOfTree? default.safeLoopLabels
      nearLimitRatio := ← nearLimitRatio.orElse Tree.asFinite? default.nearLimitRatio }
  | _ => none

end Options

/-- The double lies between zero and one. -/
def FiniteDouble.isShare (x : FiniteDouble) : Bool := 0 ≤ x.value && x.value ≤ unit

/-- Why a text holds no settings. -/
inductive OptionsError where
  | malformed
  | noShare (ratio : FiniteDouble)

/-- The failure that stands for a ratio that is no share. -/
def Options.ratioFailure (ratio : FiniteDouble) : Failure :=
  .other ("near_limit_ratio must be within 0..=1, got " ++ ratio.plain)

/-- Checks settings that have been read. -/
def Options.checked (o : Options) : Except OptionsError Options :=
  if o.nearLimitRatio.isShare then .ok o else .error (.noShare o.nearLimitRatio)

/-- Reads settings from their text. -/
def Options.parse (source : String) : Except OptionsError Options :=
  match (Tree.parse? source).bind ofTree? with
  | some o => o.checked
  | none => .error .malformed

end ChatPlan
