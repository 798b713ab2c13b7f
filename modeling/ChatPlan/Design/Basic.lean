import ChatPlan.Json.Basic
import ChatPlan.Text.Basic

/-
The design of a conversation: a graph of nodes and labelled edges, the entries through which a
conversation starts, bags of properties that nodes may share, and the profile of variables that the
conversation may read. While it runs, a declared variable is persistent or temporary as it says, and
one that is only supplied is temporary; a supplied value wins over a declared default.
-/
namespace ChatPlan

/-! ## Designs -/

/-- An untyped bag of properties. -/
abbrev Props := Members Json

/-- The bot to which the design belongs, and the channels it serves. -/
structure Bot where
  id : String
  channels : List String

/-- How far a version has come. -/
inductive VersionStatus where
  | development
  | production
  | unknown
deriving DecidableEq

/-- A version of the design. -/
structure Version where
  id : String
  status : VersionStatus

/-- How a conversation gets in. -/
inductive EntryKind where
  | globalStart
  | channelStart
  | forced
  | unknown
deriving DecidableEq

/-- An entry and the node at which it starts. -/
structure Entry where
  kind : EntryKind
  channelId : Option String
  target : String

/-- The place of a node on the canvas. -/
structure Position where
  x : FiniteDouble
  y : FiniteDouble

/-- The size of a node on the canvas. -/
structure Size where
  width : FiniteDouble
  height : FiniteDouble

/-- A step of the conversation. -/
structure Node where
  id : String
  kind : String
  props : Props
  propsRef : Option String
  outputs : List String
  isFinal : Bool
  position : Option Position
  size : Option Size

/-- What taking an edge does besides moving on. -/
structure EdgeMetadata where
  assignments : Members Json
  description : Option String

/-- A labelled transition between two nodes. Priority zero means none. -/
structure Edge where
  source : String
  target : String
  label : String
  priority : Int
  guard : Option String
  metadata : Option EdgeMetadata

/-- The nodes and edges, in the order in which they are declared. -/
structure Graph where
  nodes : List Node
  edges : List Edge

/-- A variable that the profile declares. -/
structure ContextVar where
  type : String
  default : Option Json
  persist : Bool
  required : Bool

/-- The variables of a conversation: those declared, and those supplied with a value. -/
structure Profile where
  context : Members ContextVar
  supplied : Members Json

/-- A design document. -/
structure Design where
  schema : String
  bot : Bot
  version : Version
  entries : List Entry
  graph : Graph
  profile : Option Profile
  props : Members Props

namespace EntryKind

def name : EntryKind → String
  | .globalStart => "global_start"
  | .channelStart => "channel_start"
  | .forced => "forced"
  | .unknown => "unknown"

/-- The kind with this name; any other name is an unknown kind. -/
def ofName (s : String) : EntryKind :=
  if s = "global_start" then .globalStart
  else if s = "channel_start" then .channelStart
  else if s = "forced" then .forced
  else .unknown

end EntryKind

namespace VersionStatus

def name : VersionStatus → String
  | .development => "development"
  | .production => "production"
  | .unknown => "unknown"

/-- The status with this name; any other name is an unknown status. -/
def ofName (s : String) : VersionStatus :=
  if s = "development" then .development
  else if s = "production" then .production
  else .unknown

end VersionStatus

/-- A guard counts only if it is not blank. -/
def Edge.hasGuard (e : Edge) : Bool := e.guard.any fun g => !Text.blank g

/-- The guard text, where it counts. -/
def Edge.guardText? (e : Edge) : Option String := e.guard.filter fun g => !Text.blank g

namespace Design

/-- The first node with this id. -/
def node? (d : Design) (id : String) : Option Node := d.graph.nodes.find? (·.id == id)

/-- The properties that count for a node: the shared bag it refers to, overlaid with its own. -/
def resolvedProps (d : Design) (n : Node) : Props :=
  Members.insertAll ((n.propsRef.bind (Members.get? d.props)).getD []) n.props

end Design

/-! ## Values of a profile -/

/-- The variables of a conversation with their values. -/
structure Values where
  temporary : Members Json
  persistent : Members Json

namespace Values

def empty : Values := ⟨[], []⟩

/-- Puts a declared variable to its place. -/
def declare (supplied : Members Json) (v : Values) (name : String) (var : ContextVar) : Values :=
  let value := ((Members.get? supplied name).or var.default).getD .null
  if var.persist then
    ⟨Members.erase v.temporary name, Members.insert name value v.persistent⟩
  else ⟨Members.insert name value v.temporary, v.persistent⟩

/-- The values of a profile. -/
def ofProfile (p : Profile) : Values :=
  p.context.foldl (fun v m => v.declare p.supplied m.1 m.2) ⟨p.supplied, []⟩

/-- The values of a design's profile, if it has one. -/
def ofProfile? (p : Option Profile) : Values := p.elim empty ofProfile

def isPersistent (v : Values) (key : String) : Bool := Members.has v.persistent key

/-- The variable is known. -/
def has (v : Values) (key : String) : Bool :=
  Members.has v.persistent key || Members.has v.temporary key

/-- The value of a variable; a persistent one comes first. -/
def get? (v : Values) (key : String) : Option Json :=
  (Members.get? v.persistent key).or (Members.get? v.temporary key)

end Values

end ChatPlan
