import ChatPlan.Design.Basic

/-
Writing a design document as a JSON value. Optional members are left out where they are empty.
-/
namespace ChatPlan

open Json

/-- A string that may be missing. -/
def optionalString (s : Option String) : Option Json := s.map .str

/-- Members of one type, as an object. -/
def objectOfMembers {α : Type} (write : α → Json) (ms : Members α) : Json :=
  .obj (ms.map fun m => (m.1, write m.2))

/-- A list that is left out where it is empty. -/
def nonEmptyArray (items : List Json) : Option Json :=
  if items.isEmpty then none else some (.arr items)

/-- Members that are left out where there are none. -/
def nonEmptyObject {α : Type} (write : α → Json) (ms : Members α) : Option Json :=
  if ms.isEmpty then none else some (objectOfMembers write ms)

def ofFinite (x : FiniteDouble) : Json := .num (.float x)

def Bot.toJson (b : Bot) : Json :=
  object [("id", .str b.id), ("channels", strings b.channels)]

def Version.toJson (v : Version) : Json :=
  object [("id", .str v.id), ("status", .str v.status.name)]

def Entry.toJson (e : Entry) : Json :=
  record [("kind", some (.str e.kind.name)), ("channel_id", optionalString e.channelId),
    ("target", some (.str e.target))]

def Position.toJson (p : Position) : Json :=
  object [("x", ofFinite p.x), ("y", ofFinite p.y)]

def Size.toJson (s : Size) : Json :=
  object [("width", ofFinite s.width), ("height", ofFinite s.height)]

def Node.toJson (n : Node) : Json :=
  record [("id", some (.str n.id)), ("kind", some (.str n.kind)), ("props", some (.obj n.props)),
    ("props_ref", optionalString n.propsRef), ("outputs", some (strings n.outputs)),
    ("final", some (.bool n.isFinal)), ("position", n.position.map Position.toJson),
    ("size", n.size.map Size.toJson)]

def EdgeMetadata.toJson (m : EdgeMetadata) : Json :=
  record [("set", nonEmptyObject id m.assignments), ("description", optionalString m.description)]

def Edge.toJson (e : Edge) : Json :=
  record [("from", some (.str e.source)), ("to", some (.str e.target)),
    ("label", some (.str e.label)), ("priority", some (.num (.int e.priority))),
    ("guard", optionalString e.guard), ("metadata", e.metadata.map EdgeMetadata.toJson)]

def Graph.toJson (g : Graph) : Json :=
  object [("nodes", .arr (g.nodes.map Node.toJson)), ("edges", .arr (g.edges.map Edge.toJson))]

def ContextVar.toJson (v : ContextVar) : Json :=
  record [("type", some (.str v.type)), ("default", v.default),
    ("persist", some (.bool v.persist)), ("required", some (.bool v.required))]

def Profile.toJson (p : Profile) : Json :=
  object [("context", objectOfMembers ContextVar.toJson p.context),
    ("variables", .obj p.supplied)]

def Design.toJson (d : Design) : Json :=
  record [("schema", some (.str d.schema)), ("bot", some d.bot.toJson),
    ("version", some d.version.toJson), ("entries", some (.arr (d.entries.map Entry.toJson))),
    ("graph", some d.graph.toJson), ("profile", d.profile.map Profile.toJson),
    ("props", nonEmptyObject .obj d.props)]

end ChatPlan
