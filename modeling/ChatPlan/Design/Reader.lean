import ChatPlan.Json.Record
import ChatPlan.Design.Basic

/-
Reading a design document. What is missing takes its default; unknown members are ignored, and a
member that is there must have its type.
-/
namespace ChatPlan

open Json

def Bot.ofTree? (t : Tree) : Option Bot :=
  match t.slots [["id"], ["channels"]] with
  | some [id, channels] => do
    return { id := ← id.required Tree.asString?, channels := ← channels.orElse Tree.asStrings? [] }
  | _ => none

def VersionStatus.ofTree? (t : Tree) : Option VersionStatus := t.asChoice?.map ofName

def Version.ofTree? (t : Tree) : Option Version :=
  match t.slots [["id"], ["status"]] with
  | some [id, status] => do
    return {
      id := ← id.required Tree.asString?
      status := ← status.orElse VersionStatus.ofTree? .development }
  | _ => none

def EntryKind.ofTree? (t : Tree) : Option EntryKind := t.asChoice?.map ofName

def Entry.ofTree? (t : Tree) : Option Entry :=
  match t.slots [["kind"], ["channel_id"], ["target"]] with
  | some [kind, channelId, target] => do
    return {
      kind := ← kind.required EntryKind.ofTree?
      channelId := ← channelId.optional Tree.asString?
      target := ← target.required Tree.asString? }
  | _ => none

def Position.ofTree? (t : Tree) : Option Position :=
  match t.slots [["x"], ["y"]] with
  | some [x, y] => do
    return { x := ← x.required Tree.asFinite?, y := ← y.required Tree.asFinite? }
  | _ => none

def Size.ofTree? (t : Tree) : Option Size :=
  match t.slots [["width"], ["height"]] with
  | some [width, height] => do
    return {
      width := ← width.required Tree.asFinite?
      height := ← height.required Tree.asFinite? }
  | _ => none

/-- The kind of a node is written `kind` or `type`. -/
def Node.ofTree? (t : Tree) : Option Node :=
  match t.slots [["id"], ["kind", "type"], ["props"], ["props_ref"], ["outputs"], ["final"],
      ["position"], ["size"]] with
  | some [id, kind, props, propsRef, outputs, isFinal, position, size] => do
    return {
      id := ← id.required Tree.asString?
      kind := ← kind.required Tree.asString?
      props := ← props.orElse Tree.asObject? []
      propsRef := ← propsRef.optional Tree.asString?
      outputs := ← outputs.orElse Tree.asStrings? []
      isFinal := ← isFinal.orElse Tree.asBool? false
      position := ← position.optional Position.ofTree?
      size := ← size.optional Size.ofTree? }
  | _ => none

def EdgeMetadata.ofTree? (t : Tree) : Option EdgeMetadata :=
  match t.slots [["set"], ["description"]] with
  | some [assignments, description] => do
    return {
      assignments := ← assignments.orElse Tree.asObject? []
      description := ← description.optional Tree.asString? }
  | _ => none

def Edge.ofTree? (t : Tree) : Option Edge :=
  match t.slots [["from"], ["to"], ["label"], ["priority"], ["guard"], ["metadata"]] with
  | some [source, target, label, priority, guard, metadata] => do
    return {
      source := ← source.required Tree.asString?
      target := ← target.required Tree.asString?
      label := ← label.orElse Tree.asString? ""
      priority := ← priority.orElse Tree.asSigned? 0
      guard := ← guard.optional Tree.asString?
      metadata := ← metadata.optional EdgeMetadata.ofTree? }
  | _ => none

def Graph.ofTree? (t : Tree) : Option Graph :=
  match t.slots [["nodes"], ["edges"]] with
  | some [nodes, edges] => do
    return {
      nodes := ← nodes.orElse (Tree.asList? Node.ofTree?) []
      edges := ← edges.orElse (Tree.asList? Edge.ofTree?) [] }
  | _ => none

def ContextVar.ofTree? (t : Tree) : Option ContextVar :=
  match t.slots [["type"], ["default"], ["persist"], ["required"]] with
  | some [type, default, persist, required] => do
    return {
      type := ← type.orElse Tree.asString? ""
      default := ← default.optional Tree.value?
      persist := ← persist.orElse Tree.asBool? false
      required := ← required.orElse Tree.asBool? false }
  | _ => none

def Profile.ofTree? (t : Tree) : Option Profile :=
  match t.slots [["context"], ["variables"]] with
  | some [context, supplied] => do
    return {
      context := ← context.orElse (Tree.asMembers? ContextVar.ofTree?) []
      supplied := ← supplied.orElse Tree.asObject? [] }
  | _ => none

def Design.ofTree? (t : Tree) : Option Design :=
  match t.slots [["schema"], ["bot"], ["version"], ["entries"], ["graph"], ["profile"],
      ["props"]] with
  | some [schema, bot, version, entries, graph, profile, props] => do
    return {
      schema := ← schema.orElse Tree.asString? ""
      bot := ← bot.required Bot.ofTree?
      version := ← version.required Version.ofTree?
      entries := ← entries.orElse (Tree.asList? Entry.ofTree?) []
      graph := ← graph.orElse Graph.ofTree? ⟨[], []⟩
      profile := ← profile.optional Profile.ofTree?
      props := ← props.orElse (Tree.asMembers? Tree.asObject?) [] }
  | _ => none

/-- Reads a design document from its text. -/
def Design.parse? (source : String) : Option Design := (Tree.parse? source).bind ofTree?

/-- Why a stored document cannot be loaded. -/
inductive LoadError where
  | unreadable
  | malformed
deriving DecidableEq

/-- Reads a design document from the bytes of a file, or from no file at all. -/
def Design.load (bytes : Option ByteArray) : Except LoadError Design :=
  match bytes.bind String.fromUTF8? with
  | none => .error .unreadable
  | some source =>
    match parse? source with
    | none => .error .malformed
    | some d => .ok d

end ChatPlan
