import ChatPlan.Design.Reader
import ChatPlan.Plan.Basic
import ChatPlan.Proofs.Json.Rereading

/-
A design that was read from a text is read again from the text that is written for it
(`Design.read_back`). Reader and writer agree record by record, and in each record field by field.
The room that a record asks for is what its defaults take when they are written out; a text leaves
room for far more.
-/
namespace ChatPlan

open Json

theorem EntryKind.ofName_name (k : EntryKind) : ofName k.name = k := by
  cases k <;> decide

theorem VersionStatus.ofName_name (s : VersionStatus) : ofName s.name = s := by
  cases s <;> decide

theorem EntryKind.rereads : Rereads 0 EntryKind.ofTree? fun k => .str k.name :=
  rereads_choice ofName_name

theorem VersionStatus.rereads : Rereads 0 VersionStatus.ofTree? fun s => .str s.name :=
  rereads_choice ofName_name

theorem Bot.rereads : Rereads 2 Bot.ofTree? Bot.toJson := by
  intro depth t b hroom ht h
  rw [Bot.ofTree?] at h
  split at h
  · rename_i id channels hslots
    obtain ⟨depth, rfl, hin⟩ := Tree.within_slots ht hslots
    have hroom : 1 ≤ depth := Nat.le_of_succ_le_succ hroom
    simp only [List.forall_mem_cons] at hin
    simp only [bind_eq_some_iff, pure_eq_some_iff] at h
    obtain ⟨inId, inChannels, -⟩ := hin
    obtain ⟨id', hid, channels', hchannels, rfl⟩ := h
    -- what is written for a field leaves room, and the field is read from it again
    have keptId := kept_name inId hid
    have keptChannels := kept_strings hroom inChannels hchannels
    rw [Bot.toJson, object_eq_record]
    refine record_again [["id"], ["channels"]] (by decide) rfl ?_ fun t ht => ?_
    · simp only [List.map, List.forall_mem_cons]
      exact ⟨keptId.within, keptChannels.within, List.forall_mem_nil _⟩
    · rw [Bot.ofTree?, ht]
      simp only [List.map, keptId.read_eq, keptChannels.read_eq]
      rfl
  · cases h

theorem VersionStatus.kept {depth : Nat} {s : Slot} (hs : s.Within depth) {a : VersionStatus}
    (ha : s.orElse VersionStatus.ofTree? .development = some a) :
    Kept depth (·.orElse VersionStatus.ofTree? .development) (some (.str a.name)) a :=
  VersionStatus.rereads.orElse (Nat.zero_le _) hs ha ⟨.str "development", .str _, rfl⟩

theorem Version.rereads : Rereads 1 Version.ofTree? Version.toJson := by
  intro depth t v hroom ht h
  rw [Version.ofTree?] at h
  split at h
  · rename_i id status hslots
    obtain ⟨depth, rfl, hin⟩ := Tree.within_slots ht hslots
    simp only [List.forall_mem_cons] at hin
    simp only [bind_eq_some_iff, pure_eq_some_iff] at h
    obtain ⟨inId, inStatus, -⟩ := hin
    obtain ⟨id', hid, status', hstatus, rfl⟩ := h
    have keptId := kept_name inId hid
    have keptStatus := VersionStatus.kept inStatus hstatus
    rw [Version.toJson, object_eq_record]
    refine record_again [["id"], ["status"]] (by decide) rfl ?_ fun t ht => ?_
    · simp only [List.map, List.forall_mem_cons]
      exact ⟨keptId.within, keptStatus.within, List.forall_mem_nil _⟩
    · rw [Version.ofTree?, ht]
      simp only [List.map, keptId.read_eq, keptStatus.read_eq]
      rfl
  · cases h

theorem Entry.rereads : Rereads 1 Entry.ofTree? Entry.toJson := by
  intro depth t e hroom ht h
  rw [Entry.ofTree?] at h
  split at h
  · rename_i kind channelId target hslots
    obtain ⟨depth, rfl, hin⟩ := Tree.within_slots ht hslots
    simp only [List.forall_mem_cons] at hin
    simp only [bind_eq_some_iff, pure_eq_some_iff] at h
    obtain ⟨inKind, inChannelId, inTarget, -⟩ := hin
    obtain ⟨kind', hkind, channelId', hchannelId, target', htarget, rfl⟩ := h
    have keptKind := EntryKind.rereads.required (Nat.zero_le _) inKind hkind
    have keptChannelId := kept_string inChannelId hchannelId
    have keptTarget := kept_name inTarget htarget
    rw [Entry.toJson]
    refine record_again [["kind"], ["channel_id"], ["target"]] (by decide) rfl ?_ fun t ht => ?_
    · simp only [List.forall_mem_cons]
      exact ⟨keptKind.within, keptChannelId.within, keptTarget.within, List.forall_mem_nil _⟩
    · rw [Entry.ofTree?, ht]
      simp only [List.map, keptKind.read_eq, keptChannelId.read_eq, keptTarget.read_eq]
      rfl
  · cases h

theorem Position.rereads : Rereads 1 Position.ofTree? Position.toJson := by
  intro depth t p hroom ht h
  rw [Position.ofTree?] at h
  split at h
  · rename_i x y hslots
    obtain ⟨depth, rfl, hin⟩ := Tree.within_slots ht hslots
    simp only [List.forall_mem_cons] at hin
    simp only [bind_eq_some_iff, pure_eq_some_iff] at h
    obtain ⟨inX, inY, -⟩ := hin
    obtain ⟨x', hx, y', hy, rfl⟩ := h
    have keptX := rereads_finite.required (Nat.zero_le _) inX hx
    have keptY := rereads_finite.required (Nat.zero_le _) inY hy
    rw [Position.toJson, object_eq_record]
    refine record_again [["x"], ["y"]] (by decide) rfl ?_ fun t ht => ?_
    · simp only [List.map, List.forall_mem_cons]
      exact ⟨keptX.within, keptY.within, List.forall_mem_nil _⟩
    · rw [Position.ofTree?, ht]
      simp only [List.map, keptX.read_eq, keptY.read_eq]
      rfl
  · cases h

theorem Size.rereads : Rereads 1 Size.ofTree? Size.toJson := by
  intro depth t s hroom ht h
  rw [Size.ofTree?] at h
  split at h
  · rename_i width height hslots
    obtain ⟨depth, rfl, hin⟩ := Tree.within_slots ht hslots
    simp only [List.forall_mem_cons] at hin
    simp only [bind_eq_some_iff, pure_eq_some_iff] at h
    obtain ⟨inWidth, inHeight, -⟩ := hin
    obtain ⟨width', hwidth, height', hheight, rfl⟩ := h
    have keptWidth := rereads_finite.required (Nat.zero_le _) inWidth hwidth
    have keptHeight := rereads_finite.required (Nat.zero_le _) inHeight hheight
    rw [Size.toJson, object_eq_record]
    refine record_again [["width"], ["height"]] (by decide) rfl ?_ fun t ht => ?_
    · simp only [List.map, List.forall_mem_cons]
      exact ⟨keptWidth.within, keptHeight.within, List.forall_mem_nil _⟩
    · rw [Size.ofTree?, ht]
      simp only [List.map, keptWidth.read_eq, keptHeight.read_eq]
      rfl
  · cases h

/-- An alias of the kind becomes its name. -/
theorem Node.rereads : Rereads 2 Node.ofTree? Node.toJson := by
  intro depth t n hroom ht h
  rw [Node.ofTree?] at h
  split at h
  · rename_i id kind props propsRef outputs isFinal position size hslots
    obtain ⟨depth, rfl, hin⟩ := Tree.within_slots ht hslots
    have hroom : 1 ≤ depth := Nat.le_of_succ_le_succ hroom
    simp only [List.forall_mem_cons] at hin
    simp only [bind_eq_some_iff, pure_eq_some_iff] at h
    obtain ⟨inId, inKind, inProps, inPropsRef, inOutputs, inIsFinal, inPosition, inSize, -⟩ := hin
    obtain ⟨id', hid, kind', hkind, props', hprops, propsRef', hpropsRef, outputs', houtputs,
      isFinal', hisFinal, position', hposition, size', hsize, rfl⟩ := h
    have keptId := kept_name inId hid
    have keptKind := kept_name inKind hkind
    have keptProps := kept_object hroom inProps hprops
    have keptPropsRef := kept_string inPropsRef hpropsRef
    have keptOutputs := kept_strings hroom inOutputs houtputs
    have keptIsFinal := kept_flag inIsFinal hisFinal
    have keptPosition := Position.rereads.optional (by omega) (fun _ _ _ _ => nofun)
      inPosition hposition
    have keptSize := Size.rereads.optional (by omega) (fun _ _ _ _ => nofun) inSize hsize
    rw [Node.toJson]
    refine record_again [["id"], ["kind", "type"], ["props"], ["props_ref"], ["outputs"], ["final"],
      ["position"], ["size"]] (by decide) rfl ?_ fun t ht => ?_
    · simp only [List.forall_mem_cons]
      exact ⟨keptId.within, keptKind.within, keptProps.within, keptPropsRef.within,
        keptOutputs.within, keptIsFinal.within, keptPosition.within, keptSize.within,
        List.forall_mem_nil _⟩
    · rw [Node.ofTree?, ht]
      simp only [List.map, keptId.read_eq, keptKind.read_eq, keptProps.read_eq,
        keptPropsRef.read_eq, keptOutputs.read_eq, keptIsFinal.read_eq, keptPosition.read_eq,
        keptSize.read_eq]
      rfl
  · cases h

/-- Metadata that say nothing are written as an object without members, and stay metadata. -/
theorem EdgeMetadata.rereads : Rereads 2 EdgeMetadata.ofTree? EdgeMetadata.toJson := by
  intro depth t m hroom ht h
  rw [EdgeMetadata.ofTree?] at h
  split at h
  · rename_i assignments description hslots
    obtain ⟨depth, rfl, hin⟩ := Tree.within_slots ht hslots
    have hroom : 1 ≤ depth := Nat.le_of_succ_le_succ hroom
    simp only [List.forall_mem_cons] at hin
    simp only [bind_eq_some_iff, pure_eq_some_iff] at h
    obtain ⟨inAssignments, inDescription, -⟩ := hin
    obtain ⟨assignments', hassignments, description', hdescription, rfl⟩ := h
    have keptAssignments := kept_values hroom inAssignments hassignments
    have keptDescription := kept_string inDescription hdescription
    rw [EdgeMetadata.toJson]
    refine record_again [["set"], ["description"]] (by decide) rfl ?_ fun t ht => ?_
    · simp only [List.forall_mem_cons]
      exact ⟨keptAssignments.within, keptDescription.within, List.forall_mem_nil _⟩
    · rw [EdgeMetadata.ofTree?, ht]
      simp only [List.map, keptAssignments.read_eq, keptDescription.read_eq]
      rfl
  · cases h

theorem Edge.kept_priority {depth : Nat} {s : Slot} (hs : s.Within depth) {a : Int}
    (ha : s.orElse Tree.asSigned? 0 = some a) :
    Kept depth (·.orElse Tree.asSigned? 0) (some (.num (.int a))) a :=
  rereads_signed.orElse (Nat.zero_le _) hs ha ⟨.num (.int 0), .int (by decide), rfl⟩

theorem Edge.rereads : Rereads 3 Edge.ofTree? Edge.toJson := by
  intro depth t e hroom ht h
  rw [Edge.ofTree?] at h
  split at h
  · rename_i source target label priority guard metadata hslots
    obtain ⟨depth, rfl, hin⟩ := Tree.within_slots ht hslots
    have hroom : 2 ≤ depth := Nat.le_of_succ_le_succ hroom
    simp only [List.forall_mem_cons] at hin
    simp only [bind_eq_some_iff, pure_eq_some_iff] at h
    obtain ⟨inSource, inTarget, inLabel, inPriority, inGuard, inMetadata, -⟩ := hin
    obtain ⟨source', hsource, target', htarget, label', hlabel, priority', hpriority, guard',
      hguard, metadata', hmetadata, rfl⟩ := h
    have keptSource := kept_name inSource hsource
    have keptTarget := kept_name inTarget htarget
    have keptLabel := kept_text inLabel hlabel
    have keptPriority := Edge.kept_priority inPriority hpriority
    have keptGuard := kept_string inGuard hguard
    have keptMetadata := EdgeMetadata.rereads.optional (by omega) (fun _ _ _ _ => nofun)
      inMetadata hmetadata
    rw [Edge.toJson]
    refine record_again [["from"], ["to"], ["label"], ["priority"], ["guard"], ["metadata"]]
      (by decide) rfl ?_ fun t ht => ?_
    · simp only [List.forall_mem_cons]
      exact ⟨keptSource.within, keptTarget.within, keptLabel.within, keptPriority.within,
        keptGuard.within, keptMetadata.within, List.forall_mem_nil _⟩
    · rw [Edge.ofTree?, ht]
      simp only [List.map, keptSource.read_eq, keptTarget.read_eq, keptLabel.read_eq,
        keptPriority.read_eq, keptGuard.read_eq, keptMetadata.read_eq]
      rfl
  · cases h

theorem Graph.rereads : Rereads 5 Graph.ofTree? Graph.toJson := by
  intro depth t g hroom ht h
  rw [Graph.ofTree?] at h
  split at h
  · rename_i nodes edges hslots
    obtain ⟨depth, rfl, hin⟩ := Tree.within_slots ht hslots
    have hroom : 4 ≤ depth := Nat.le_of_succ_le_succ hroom
    simp only [List.forall_mem_cons] at hin
    simp only [bind_eq_some_iff, pure_eq_some_iff] at h
    obtain ⟨inNodes, inEdges, -⟩ := hin
    obtain ⟨nodes', hnodes, edges', hedges, rfl⟩ := h
    have keptNodes := Node.rereads.orNil (by omega) inNodes hnodes
    have keptEdges := Edge.rereads.orNil (by omega) inEdges hedges
    rw [Graph.toJson, object_eq_record]
    refine record_again [["nodes"], ["edges"]] (by decide) rfl ?_ fun t ht => ?_
    · simp only [List.map, List.forall_mem_cons]
      exact ⟨keptNodes.within, keptEdges.within, List.forall_mem_nil _⟩
    · rw [Graph.ofTree?, ht]
      simp only [List.map, keptNodes.read_eq, keptEdges.read_eq]
      rfl
  · cases h

/-- A default of `null` is none, so the default that is written is not `null`. -/
theorem ContextVar.rereads : Rereads 1 ContextVar.ofTree? ContextVar.toJson := by
  intro depth t v hroom ht h
  rw [ContextVar.ofTree?] at h
  split at h
  · rename_i type default persist required hslots
    obtain ⟨depth, rfl, hin⟩ := Tree.within_slots ht hslots
    simp only [List.forall_mem_cons] at hin
    simp only [bind_eq_some_iff, pure_eq_some_iff] at h
    obtain ⟨inType, inDefault, inPersist, inRequired, -⟩ := hin
    obtain ⟨type', htype, default', hdefault, persist', hpersist, required', hrequired, rfl⟩ := h
    have keptType := kept_text inType htype
    have keptDefault := kept_value inDefault hdefault
    have keptPersist := kept_flag inPersist hpersist
    have keptRequired := kept_flag inRequired hrequired
    rw [ContextVar.toJson]
    refine record_again [["type"], ["default"], ["persist"], ["required"]]
      (by decide) rfl ?_ fun t ht => ?_
    · simp only [List.forall_mem_cons]
      exact ⟨keptType.within, keptDefault.within, keptPersist.within, keptRequired.within,
        List.forall_mem_nil _⟩
    · rw [ContextVar.ofTree?, ht]
      simp only [List.map, keptType.read_eq, keptDefault.read_eq, keptPersist.read_eq,
        keptRequired.read_eq]
      rfl
  · cases h

theorem Profile.rereads : Rereads 3 Profile.ofTree? Profile.toJson := by
  intro depth t p hroom ht h
  rw [Profile.ofTree?] at h
  split at h
  · rename_i context supplied hslots
    obtain ⟨depth, rfl, hin⟩ := Tree.within_slots ht hslots
    have hroom : 2 ≤ depth := Nat.le_of_succ_le_succ hroom
    simp only [List.forall_mem_cons] at hin
    simp only [bind_eq_some_iff, pure_eq_some_iff] at h
    obtain ⟨inContext, inSupplied, -⟩ := hin
    obtain ⟨context', hcontext, supplied', hsupplied, rfl⟩ := h
    have keptContext := ContextVar.rereads.orEmpty hroom inContext hcontext
    have keptSupplied := kept_object (by omega) inSupplied hsupplied
    rw [Profile.toJson, object_eq_record]
    refine record_again [["context"], ["variables"]] (by decide) rfl ?_ fun t ht => ?_
    · simp only [List.map, List.forall_mem_cons]
      exact ⟨keptContext.within, keptSupplied.within, List.forall_mem_nil _⟩
    · rw [Profile.ofTree?, ht]
      simp only [List.map, keptContext.read_eq, keptSupplied.read_eq]
      rfl
  · cases h

/-- A graph that is missing has no nodes and no edges, as one without members. -/
theorem Graph.kept {depth : Nat} {s : Slot} (hroom : 5 ≤ depth) (hs : s.Within depth) {a : Graph}
    (ha : s.orElse Graph.ofTree? ⟨[], []⟩ = some a) :
    Kept depth (·.orElse Graph.ofTree? ⟨[], []⟩) (some a.toJson) a :=
  Graph.rereads.orElse hroom hs ha ⟨.obj [], Tree.within_obj_nil (by omega), rfl⟩

theorem Design.rereads : Rereads 6 Design.ofTree? Design.toJson := by
  intro depth t d hroom ht h
  rw [Design.ofTree?] at h
  split at h
  · rename_i schema bot version entries graph profile props hslots
    obtain ⟨depth, rfl, hin⟩ := Tree.within_slots ht hslots
    have hroom : 5 ≤ depth := Nat.le_of_succ_le_succ hroom
    simp only [List.forall_mem_cons] at hin
    simp only [bind_eq_some_iff, pure_eq_some_iff] at h
    obtain ⟨inSchema, inBot, inVersion, inEntries, inGraph, inProfile, inProps, -⟩ := hin
    obtain ⟨schema', hschema, bot', hbot, version', hversion, entries', hentries, graph', hgraph,
      profile', hprofile, props', hprops, rfl⟩ := h
    have keptSchema := kept_text inSchema hschema
    have keptBot := Bot.rereads.required (by omega) inBot hbot
    have keptVersion := Version.rereads.required (by omega) inVersion hversion
    have keptEntries := Entry.rereads.orNil (by omega) inEntries hentries
    have keptGraph := Graph.kept hroom inGraph hgraph
    have keptProfile := Profile.rereads.optional (by omega) (fun _ _ _ _ => nofun)
      inProfile hprofile
    have keptProps := rereads_object.orNone (by omega) inProps hprops
    rw [Design.toJson]
    refine record_again [["schema"], ["bot"], ["version"], ["entries"], ["graph"], ["profile"],
      ["props"]] (by decide) rfl ?_ fun t ht => ?_
    · simp only [List.forall_mem_cons]
      exact ⟨keptSchema.within, keptBot.within, keptVersion.within, keptEntries.within,
        keptGraph.within, keptProfile.within, keptProps.within, List.forall_mem_nil _⟩
    · rw [Design.ofTree?, ht]
      simp only [List.map, keptSchema.read_eq, keptBot.read_eq, keptVersion.read_eq,
        keptEntries.read_eq, keptGraph.read_eq, keptProfile.read_eq, keptProps.read_eq]
      rfl
  · cases h

/-- Writing a design that was read from a text loses nothing of it, nor is anything refused that was
accepted: the value that is written says the design, its text is read as the design again, and so
has the checksum of the design. -/
theorem Design.read_back {source : String} {d : Design} (h : Design.parse? source = some d) :
    Design.ofTree? d.toJson.tree = some d ∧ Design.parse? d.toJson.compact = some d ∧
      (Design.parse? d.toJson.compact).map Design.checksum = some d.checksum := by
  obtain ⟨t, ht, hd⟩ := Option.bind_eq_some_iff.1 h
  obtain ⟨hwithin, hread⟩ :=
    Design.rereads maxDepth t d (by decide) (Tree.within_of_parse? ht) hd
  have hparse : Design.parse? d.toJson.compact = some d := by
    rw [Design.parse?, Tree.parse?_compact hwithin, Option.bind_some, hread]
  exact ⟨hread, hparse, by rw [hparse, Option.map_some]⟩

/-- A design whose records are written as arrays, apart from a node, whose kind is written `type`.
The status and an entry are of no known kind, and the rest is left to its defaults. -/
def terse : String :=
  "[\"\", [\"bot\"], [\"v1\", \"retired\"], [[\"surprise\", null, \"a\"]], [[" ++
    "\x7b\"id\": \"a\", \"type\": \"message\", " ++
    "\"props\": \x7b\"text\": \"Hi\", \"n\": [1, -0]\x7d\x7d]]]"

/-- It is read, and read again from what is written for it. -/
theorem terse_read_back : ∃ d, Design.parse? terse = some d ∧
    d.entries.map (·.kind) = [.unknown] ∧ d.graph.nodes.map (·.kind) = ["message"] ∧
      Design.parse? d.toJson.compact = some d := by
  have hread : (Design.parse? terse).map
      (fun d => (d.entries.map (·.kind), d.graph.nodes.map (·.kind))) =
        some ([.unknown], ["message"]) := by
    decide +kernel
  obtain ⟨d, hd, hkinds⟩ := Option.map_eq_some_iff.1 hread
  obtain ⟨hentries, hnodes⟩ := Prod.mk.inj hkinds
  exact ⟨d, hd, hentries, hnodes, (Design.read_back hd).2.1⟩

end ChatPlan
