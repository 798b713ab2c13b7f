import ChatPlan.Design.Writer
import ChatPlan.Proofs.Json.Record

/-
Writing a design loses nothing. Each record is written with distinct keys, and what is left out of
it can be told from all that is written in its place, so that different records make different
values.
-/
namespace ChatPlan

open Json Function

/-! ## Parts of records -/

theorem optionalString_injective : Injective optionalString :=
  Option.map_injective fun _ _ h => Json.str.inj h

theorem strings_injective : Injective strings := fun _ _ h =>
  List.map_injective_iff.2 (fun _ _ h => Json.str.inj h) (Json.arr.inj h)

theorem ofFinite_injective : Injective ofFinite := fun _ _ h =>
  JsonNumber.float.inj (Json.num.inj h)

theorem arrayOf_injective {α : Type} {write : α → Json} (hw : Injective write) :
    Injective fun items : List α => Json.arr (items.map write) := fun _ _ h =>
  List.map_injective_iff.2 hw (Json.arr.inj h)

theorem objectOfMembers_injective {α : Type} {write : α → Json} (hw : Injective write) :
    Injective (objectOfMembers write) := by
  have hpair : Injective fun m : String × α => (m.1, write m.2) := by
    intro m n h
    obtain ⟨hk, hv⟩ := Prod.mk.inj h
    exact Prod.ext hk (hw hv)
  exact fun _ _ h => List.map_injective_iff.2 hpair (Json.obj.inj h)

theorem nonEmptyObject_injective {α : Type} {write : α → Json} (hw : Injective write) :
    Injective (nonEmptyObject write) := by
  intro ms ns h
  cases ms with
  | nil =>
    cases ns with
    | nil => rfl
    | cons n ns => cases h
  | cons m ms =>
    cases ns with
    | nil => cases h
    | cons n ns => exact objectOfMembers_injective hw (Option.some.inj h)

theorem EntryKind.name_injective : Injective EntryKind.name := by
  intro a b h
  cases a <;> cases b <;> first | rfl | exact absurd h (by decide)

theorem VersionStatus.name_injective : Injective VersionStatus.name := by
  intro a b h
  cases a <;> cases b <;> first | rfl | exact absurd h (by decide)

/-! ## Records -/

theorem Bot.toJson_injective : Injective Bot.toJson := by
  intro a b h
  obtain ⟨id, channels⟩ := a
  obtain ⟨id', channels'⟩ := b
  rw [Bot.toJson, Bot.toJson] at h
  have hfields := object_inj h rfl (by simp)
  simp only [List.cons.injEq, Prod.mk.injEq, true_and, and_true, Json.str.injEq] at hfields
  rw [hfields.1, strings_injective hfields.2]

theorem Version.toJson_injective : Injective Version.toJson := by
  intro a b h
  obtain ⟨id, status⟩ := a
  obtain ⟨id', status'⟩ := b
  rw [Version.toJson, Version.toJson] at h
  have hfields := object_inj h rfl (by simp)
  simp only [List.cons.injEq, Prod.mk.injEq, true_and, and_true, Json.str.injEq] at hfields
  rw [hfields.1, VersionStatus.name_injective hfields.2]

theorem Entry.toJson_injective : Injective Entry.toJson := by
  intro a b h
  obtain ⟨kind, channel, target⟩ := a
  obtain ⟨kind', channel', target'⟩ := b
  rw [Entry.toJson, Entry.toJson] at h
  have hfields := record_inj h rfl (by simp)
  simp only [List.cons.injEq, Prod.mk.injEq, true_and, and_true, Option.some.injEq,
    Json.str.injEq] at hfields
  obtain ⟨hkind, hchannel, htarget⟩ := hfields
  rw [EntryKind.name_injective hkind, optionalString_injective hchannel, htarget]

theorem Position.toJson_injective : Injective Position.toJson := by
  intro a b h
  obtain ⟨x, y⟩ := a
  obtain ⟨x', y'⟩ := b
  rw [Position.toJson, Position.toJson] at h
  have hfields := object_inj h rfl (by simp)
  simp only [List.cons.injEq, Prod.mk.injEq, true_and, and_true] at hfields
  rw [ofFinite_injective hfields.1, ofFinite_injective hfields.2]

theorem Size.toJson_injective : Injective Size.toJson := by
  intro a b h
  obtain ⟨width, height⟩ := a
  obtain ⟨width', height'⟩ := b
  rw [Size.toJson, Size.toJson] at h
  have hfields := object_inj h rfl (by simp)
  simp only [List.cons.injEq, Prod.mk.injEq, true_and, and_true] at hfields
  rw [ofFinite_injective hfields.1, ofFinite_injective hfields.2]

theorem Node.toJson_injective : Injective Node.toJson := by
  intro a b h
  obtain ⟨id, kind, props, ref, outputs, final, position, size⟩ := a
  obtain ⟨id', kind', props', ref', outputs', final', position', size'⟩ := b
  rw [Node.toJson, Node.toJson] at h
  have hfields := record_inj h rfl (by simp)
  simp only [List.cons.injEq, Prod.mk.injEq, true_and, and_true, Option.some.injEq,
    Json.str.injEq, Json.obj.injEq, Json.bool.injEq] at hfields
  obtain ⟨hid, hkind, hprops, href, houtputs, hfinal, hposition, hsize⟩ := hfields
  rw [hid, hkind, hprops, optionalString_injective href, strings_injective houtputs, hfinal,
    Option.map_injective Position.toJson_injective hposition,
    Option.map_injective Size.toJson_injective hsize]

theorem EdgeMetadata.toJson_injective : Injective EdgeMetadata.toJson := by
  intro a b h
  obtain ⟨assignments, description⟩ := a
  obtain ⟨assignments', description'⟩ := b
  rw [EdgeMetadata.toJson, EdgeMetadata.toJson] at h
  have hfields := record_inj h rfl (by simp)
  simp only [List.cons.injEq, Prod.mk.injEq, true_and, and_true] at hfields
  rw [nonEmptyObject_injective injective_id hfields.1, optionalString_injective hfields.2]

theorem Edge.toJson_injective : Injective Edge.toJson := by
  intro a b h
  obtain ⟨source, target, label, priority, guard, metadata⟩ := a
  obtain ⟨source', target', label', priority', guard', metadata'⟩ := b
  rw [Edge.toJson, Edge.toJson] at h
  have hfields := record_inj h rfl (by simp)
  simp only [List.cons.injEq, Prod.mk.injEq, true_and, and_true, Option.some.injEq,
    Json.str.injEq, Json.num.injEq, JsonNumber.int.injEq] at hfields
  obtain ⟨hsource, htarget, hlabel, hpriority, hguard, hmetadata⟩ := hfields
  rw [hsource, htarget, hlabel, hpriority, optionalString_injective hguard,
    Option.map_injective EdgeMetadata.toJson_injective hmetadata]

theorem Graph.toJson_injective : Injective Graph.toJson := by
  intro a b h
  obtain ⟨nodes, edges⟩ := a
  obtain ⟨nodes', edges'⟩ := b
  rw [Graph.toJson, Graph.toJson] at h
  have hfields := object_inj h rfl (by simp)
  simp only [List.cons.injEq, Prod.mk.injEq, true_and, and_true] at hfields
  rw [arrayOf_injective Node.toJson_injective hfields.1,
    arrayOf_injective Edge.toJson_injective hfields.2]

theorem ContextVar.toJson_injective : Injective ContextVar.toJson := by
  intro a b h
  obtain ⟨type, default, persist, required⟩ := a
  obtain ⟨type', default', persist', required'⟩ := b
  rw [ContextVar.toJson, ContextVar.toJson] at h
  have hfields := record_inj h rfl (by simp)
  simp only [List.cons.injEq, Prod.mk.injEq, true_and, and_true, Option.some.injEq,
    Json.str.injEq, Json.bool.injEq] at hfields
  obtain ⟨htype, hdefault, hpersist, hrequired⟩ := hfields
  rw [htype, hdefault, hpersist, hrequired]

theorem Profile.toJson_injective : Injective Profile.toJson := by
  intro a b h
  obtain ⟨context, supplied⟩ := a
  obtain ⟨context', supplied'⟩ := b
  rw [Profile.toJson, Profile.toJson] at h
  have hfields := object_inj h rfl (by simp)
  simp only [List.cons.injEq, Prod.mk.injEq, true_and, and_true, Json.obj.injEq] at hfields
  rw [objectOfMembers_injective ContextVar.toJson_injective hfields.1, hfields.2]

/-- Different designs make different values. -/
theorem Design.toJson_injective : Injective Design.toJson := by
  intro a b h
  obtain ⟨schema, bot, version, entries, graph, profile, props⟩ := a
  obtain ⟨schema', bot', version', entries', graph', profile', props'⟩ := b
  rw [Design.toJson, Design.toJson] at h
  have hfields := record_inj h rfl (by simp)
  simp only [List.cons.injEq, Prod.mk.injEq, true_and, and_true, Option.some.injEq,
    Json.str.injEq] at hfields
  obtain ⟨hschema, hbot, hversion, hentries, hgraph, hprofile, hprops⟩ := hfields
  rw [hschema, Bot.toJson_injective hbot, Version.toJson_injective hversion,
    arrayOf_injective Entry.toJson_injective hentries, Graph.toJson_injective hgraph,
    Option.map_injective Profile.toJson_injective hprofile,
    nonEmptyObject_injective (fun _ _ h => Json.obj.inj h) hprops]

end ChatPlan
