import ChatPlan.Design.Writer
import ChatPlan.Json.Record
import ChatPlan.Proofs.Json.Reading
import ChatPlan.Proofs.Json.Record

/-
Typed readers and their writers. A reader and a writer agree (`Rereads`) if whatever the one reads
from a tree is written by the other as a value that is read as the same again, and that is nested no
deeper than the tree. They may well differ from the tree: a default is written out, an alias becomes
the name, an array of fields becomes an object. Agreement passes from the parts of a value to the
whole of it: to lists, to members, and field by field to records.
-/
namespace ChatPlan.Json

/-- What is written for the value is nested no deeper than the depth, and is read as the value. -/
def Restored {α : Type} (depth : Nat) (read : Tree → Option α) (write : α → Json) (a : α) : Prop :=
  (write a).tree.Within depth ∧ read (write a).tree = some a

/-- What is read, where there is at least so much room for nesting, is read again from what is then
written, and there is room for that. -/
def Rereads {α : Type} (room : Nat) (read : Tree → Option α) (write : α → Json) : Prop :=
  ∀ (depth : Nat) (t : Tree) (a : α), room ≤ depth → t.Within depth → read t = some a →
    (write a).tree.Within depth ∧ read (write a).tree = some a

theorem Tree.within_arr_nil {depth : Nat} (h : 1 ≤ depth) : (Tree.arr []).Within depth := by
  obtain ⟨d, rfl⟩ := Nat.exists_eq_add_of_le' h
  exact .arr (by simp)

theorem Tree.within_obj_nil {depth : Nat} (h : 1 ≤ depth) : (Tree.obj []).Within depth := by
  obtain ⟨d, rfl⟩ := Nat.exists_eq_add_of_le' h
  exact .obj (by simp)

/-! ## Values without parts -/

theorem rereads_string : Rereads 0 Tree.asString? .str := by
  intro depth t s _ _ h
  exact ⟨.str s, rfl⟩

theorem rereads_bool : Rereads 0 Tree.asBool? .bool := by
  intro depth t b _ _ h
  exact ⟨.bool b, rfl⟩

theorem rereads_finite : Rereads 0 Tree.asFinite? ofFinite := by
  intro depth t x _ _ h
  exact ⟨.float x, rfl⟩

theorem rereads_signed : Rereads 0 Tree.asSigned? fun i => .num (.int i) := by
  intro depth t i _ ht h
  cases ht with
  | @int depth j hword =>
    rw [Tree.asSigned?] at h
    split at h
    · cases h
      exact ⟨.int hword, if_pos ‹_›⟩
    · cases h
  | _ => cases h

theorem rereads_choice {α : Type} {name : α → String} {ofName : String → α}
    (h : ∀ a, ofName (name a) = a) :
    Rereads 0 (fun t => t.asChoice?.map ofName) fun a => .str (name a) := by
  intro depth t a _ _ _
  exact ⟨.str _, congrArg some (h a)⟩

/-! ## Lists and members -/

theorem treesOf_eq_map (vs : List Json) : treesOf vs = vs.map tree := by
  induction vs with
  | nil => rfl
  | cons v vs ih => rw [treesOf, ih, List.map_cons]

theorem treeMembers_eq_map (ms : List (String × Json)) :
    treeMembers ms = ms.map fun m => (m.1, m.2.tree) := by
  induction ms with
  | nil => rfl
  | cons m ms ih => rw [treeMembers, ih, List.map_cons]

theorem valuesOf_eq_mapM (ts : List Tree) : valuesOf ts = ts.mapM Tree.value? := by
  induction ts with
  | nil => rfl
  | cons t ts ih =>
    rw [valuesOf, ih, List.mapM_cons]
    cases t.value? <;> cases ts.mapM Tree.value? <;> rfl

/-- Reads the value of a member. -/
def memberOf {α : Type} (read : Tree → Option α) (m : String × Tree) : Option (String × α) :=
  (read m.2).map (m.1, ·)

theorem membersOf_eq_mapM (ms : List (String × Tree)) :
    membersOf ms = ms.mapM (memberOf Tree.value?) := by
  induction ms with
  | nil => rfl
  | cons m ms ih =>
    obtain ⟨k, t⟩ := m
    rw [membersOf, ih, List.mapM_cons, memberOf]
    cases t.value? <;> cases ms.mapM (memberOf Tree.value?) <;> rfl

section Parts

variable {α : Type} {read : Tree → Option α} (write : α → Json) {depth room : Nat}

/-- Items that are written are nested within the depth and read as the same again. -/
theorem restored_items {as : List α} (h : ∀ a ∈ as, Restored depth read write a) :
    (Json.arr (as.map write)).tree.Within (depth + 1) ∧
      (treesOf (as.map write)).mapM read = some as := by
  rw [tree, treesOf_eq_map, List.map_map]
  constructor
  · refine .arr fun t ht => ?_
    obtain ⟨a, ha, rfl⟩ := List.mem_map.1 ht
    exact (h a ha).1
  · rw [mapM_eq_some_iff, List.forall₂_map_left_iff, List.forall₂_same]
    exact fun a ha => (h a ha).2

theorem restored_members {ms : Members α} (h : ∀ m ∈ ms, Restored depth read write m.2) :
    (objectOfMembers write ms).tree.Within (depth + 1) ∧
      (treeMembers (ms.map fun m => (m.1, write m.2))).mapM (memberOf read) = some ms := by
  rw [objectOfMembers, tree, treeMembers_eq_map, List.map_map]
  constructor
  · refine .obj fun m hm => ?_
    obtain ⟨a, ha, rfl⟩ := List.mem_map.1 hm
    exact (h a ha).1
  · rw [mapM_eq_some_iff, List.forall₂_map_left_iff, List.forall₂_same]
    intro m hm
    exact Option.map_eq_some_iff.2 ⟨m.2, (h m hm).2, rfl⟩

theorem rereads_items {items : List Tree} {as : List α} (h : items.mapM read = some as)
    (hitem : ∀ t ∈ items, ∀ a, read t = some a → Restored depth read write a) :
    (Json.arr (as.map write)).tree.Within (depth + 1) ∧
      (treesOf (as.map write)).mapM read = some as := by
  refine restored_items write fun a ha => ?_
  obtain ⟨t, ht, hread⟩ := exists_mem_of_forall₂ (mapM_eq_some_iff.1 h) ha
  exact hitem t ht a hread

/-- Members whose values are read again are themselves read again: in the order of their keys, where
they stay. -/
theorem rereads_members {ms : List (String × Tree)} {as : List (String × α)}
    (h : ms.mapM (memberOf read) = some as)
    (hitem : ∀ m ∈ ms, ∀ a, read m.2 = some a → Restored depth read write a) :
    (objectOfMembers write (Members.ofList as)).tree.Within (depth + 1) ∧
      (treeMembers ((Members.ofList as).map fun m => (m.1, write m.2))).mapM (memberOf read) =
        some (Members.ofList as) := by
  refine restored_members write fun m hm => ?_
  obtain ⟨p, hp, hread⟩ := exists_mem_of_forall₂ (mapM_eq_some_iff.1 h) (Members.mem_ofList hm)
  obtain ⟨a, ha, rfl⟩ := Option.map_eq_some_iff.1 hread
  exact hitem p hp a ha

theorem rereads_value : Rereads 0 Tree.value? id := by
  intro depth t v _ ht h
  induction ht generalizing v with
  | null =>
    cases h
    exact ⟨.null, rfl⟩
  | bool b =>
    cases h
    exact ⟨.bool b, rfl⟩
  | int hword =>
    cases h
    exact ⟨.int hword, rfl⟩
  | float x =>
    cases h
    exact ⟨.float x, rfl⟩
  | str s =>
    cases h
    exact ⟨.str s, rfl⟩
  | arr _ ih =>
    rw [Tree.value?, valuesOf_eq_mapM] at h
    obtain ⟨vs, hvs, rfl⟩ := Option.map_eq_some_iff.1 h
    obtain ⟨hwithin, hread⟩ := rereads_items id hvs fun t ht v => ih t ht v (Nat.zero_le _)
    rw [List.map_id] at hwithin hread
    refine ⟨hwithin, ?_⟩
    rw [id, tree, Tree.value?, valuesOf_eq_mapM, hread]
    rfl
  | obj _ ih =>
    rw [Tree.value?, membersOf_eq_mapM] at h
    obtain ⟨vs, hvs, rfl⟩ := Option.map_eq_some_iff.1 h
    obtain ⟨hwithin, hread⟩ := rereads_members id hvs fun m hm v => ih m hm v (Nat.zero_le _)
    rw [objectOfMembers] at hwithin
    simp only [id, Prod.mk.eta, List.map_id'] at hwithin hread
    refine ⟨hwithin, ?_⟩
    rw [id, object, tree, Tree.value?, membersOf_eq_mapM, hread, Option.map_some, object,
      Members.ofList_of_sorted (Members.sorted_ofList vs)]
  | unusable => cases h

theorem value_ne_null {t : Tree} {v : Json} (ht : t ≠ .null) (h : t.value? = some v) :
    v ≠ .null := by
  rintro rfl
  cases t with
  | null => exact ht rfl
  | arr items => cases hv : valuesOf items <;> simp [Tree.value?, hv] at h
  | obj ms => cases hv : membersOf ms <;> simp [Tree.value?, hv, object] at h
  | _ => cases h

variable {write}

theorem Rereads.list (h : Rereads room read write) :
    Rereads (room + 1) (Tree.asList? read) fun as => .arr (as.map write) := by
  intro depth t as hroom ht has
  cases ht with
  | arr hitems =>
    exact rereads_items write has fun t ht a =>
      h _ t a (Nat.le_of_succ_le_succ hroom) (hitems t ht)
  | _ => cases has

theorem Rereads.members (h : Rereads room read write) :
    Rereads (room + 1) (Tree.asMembers? read) (objectOfMembers write) := by
  intro depth t as hroom ht has
  cases ht with
  | obj hmembers =>
    obtain ⟨vs, hvs, rfl⟩ := Option.map_eq_some_iff.1 has
    obtain ⟨hwithin, hread⟩ := rereads_members write hvs fun m hm a =>
      h _ m.2 a (Nat.le_of_succ_le_succ hroom) (hmembers m hm)
    refine ⟨hwithin, ?_⟩
    rw [objectOfMembers, tree, Tree.asMembers?]
    change (List.mapM (memberOf read) _).map _ = _
    rw [hread, Option.map_some, Members.ofList_of_sorted (Members.sorted_ofList vs)]
  | _ => cases has

theorem rereads_object : Rereads 1 Tree.asObject? .obj := by
  have hobj : Json.obj = objectOfMembers id := by
    funext ms
    simp [objectOfMembers]
  rw [hobj]
  exact Rereads.members rereads_value

end Parts

/-! ## Fields -/

namespace Slot

/-- There is room for what was found. -/
def Within (depth : Nat) (s : Slot) : Prop := ∀ t, s = .found t → t.Within depth

/-- What is said about a field that is written, or left out. -/
def ofField : Option Json → Slot
  | some v => .found v.tree
  | none => .absent

end Slot

/-- Reading a field again, after it was written or left out. -/
structure Kept {α : Type} (depth : Nat) (read : Slot → Option α) (field : Option Json) (a : α) :
    Prop where
  within : ∀ v, field = some v → v.tree.Within depth
  read_eq : read (.ofField field) = some a

section Fields

variable {α : Type} {read : Tree → Option α} {write : α → Json} {depth room : Nat} {s : Slot}

theorem Restored.kept {a : α} (h : Restored depth read write a) {reads : Slot → Option α}
    (hfound : ∀ t, reads (.found t) = read t) : Kept depth reads (some (write a)) a where
  within := by
    intro v hv
    cases hv
    exact h.1
  read_eq := by
    rw [Slot.ofField, hfound]
    exact h.2

theorem Rereads.kept (h : Rereads room read write) {reads : Slot → Option α}
    (hfound : ∀ t, reads (.found t) = read t) (hroom : room ≤ depth) {t : Tree}
    (ht : t.Within depth) {a : α} (ha : read t = some a) : Kept depth reads (some (write a)) a :=
  Restored.kept (h _ _ _ hroom ht ha) hfound

theorem Rereads.required (h : Rereads room read write) (hroom : room ≤ depth)
    (hs : s.Within depth) {a : α} (ha : s.required read = some a) :
    Kept depth (·.required read) (some (write a)) a := by
  cases s with
  | found t => exact h.kept (fun _ => rfl) hroom (hs t rfl) ha
  | absent => cases ha
  | cut => cases ha

/-- A field whose default is written out: the default is itself what some tree says. -/
theorem Rereads.orElse (h : Rereads room read write) (hroom : room ≤ depth) (hs : s.Within depth)
    {a d : α} (ha : s.orElse read d = some a) (hd : ∃ t, t.Within depth ∧ read t = some d) :
    Kept depth (·.orElse read d) (some (write a)) a := by
  obtain ⟨t, ht, hread⟩ : ∃ t, t.Within depth ∧ read t = some a := by
    cases s with
    | found t => exact ⟨t, hs t rfl, ha⟩
    | absent => exact Option.some.inj ha ▸ hd
    | cut => exact Option.some.inj ha ▸ hd
  exact h.kept (fun _ => rfl) hroom ht hread

theorem Rereads.orNone (h : Rereads room read write) (hroom : room + 1 ≤ depth)
    (hs : s.Within depth) {ms : Members α} (hms : s.orElse (Tree.asMembers? read) [] = some ms) :
    Kept depth (·.orElse (Tree.asMembers? read) []) (nonEmptyObject write ms) ms := by
  cases ms with
  | nil => exact ⟨fun v hv => (nomatch hv), rfl⟩
  | cons m ms =>
    cases s with
    | found t => exact (Rereads.members h).kept (fun _ => rfl) hroom (hs t rfl) hms
    | absent => cases hms
    | cut => cases hms

theorem Tree.asOption?_of_ne {t : Tree} (h : t ≠ .null) : t.asOption? read = (read t).map some := by
  cases t with
  | null => exact absurd rfl h
  | _ => rfl

theorem tree_ne_null {v : Json} (h : v ≠ .null) : v.tree ≠ .null := by
  cases v with
  | null => exact absurd rfl h
  | _ => exact nofun

/-- A field that is left out where there is no value, and whose values are not `null`. -/
theorem Restored.optional {o : Option α} (h : ∀ a, o = some a → Restored depth read write a)
    (hnull : ∀ a, o = some a → write a ≠ .null) :
    Kept depth (·.optional read) (o.map write) o := by
  cases o with
  | none => exact ⟨fun v hv => (nomatch hv), rfl⟩
  | some a =>
    obtain ⟨hwithin, hread⟩ := h a rfl
    refine ⟨fun v hv => Option.some.inj hv ▸ hwithin, ?_⟩
    change (write a).tree.asOption? read = _
    rw [Tree.asOption?_of_ne (tree_ne_null (hnull a rfl)), hread]
    rfl

/-- A field that may be missing or `null`, and is then left out. -/
theorem Rereads.optional (h : Rereads room read write) (hroom : room ≤ depth)
    (hnull : ∀ t a, t ≠ .null → read t = some a → write a ≠ .null) (hs : s.Within depth)
    {a : Option α} (ha : s.optional read = some a) :
    Kept depth (·.optional read) (a.map write) a := by
  have hsome : ∀ b, a = some b → ∃ t, t ≠ .null ∧ t.Within depth ∧ read t = some b := by
    rintro b rfl
    cases s with
    | found t =>
      have ht : t ≠ .null := by
        rintro rfl
        cases ha
      change t.asOption? read = some (some b) at ha
      rw [Tree.asOption?_of_ne ht] at ha
      obtain ⟨c, hc, hcb⟩ := Option.map_eq_some_iff.1 ha
      exact ⟨t, ht, hs t rfl, Option.some.inj hcb ▸ hc⟩
    | absent => cases ha
    | cut => cases ha
  refine Restored.optional (fun b hb => ?_) fun b hb => ?_
  · obtain ⟨t, -, ht, hread⟩ := hsome b hb
    exact h _ _ _ hroom ht hread
  · obtain ⟨t, hne, -, hread⟩ := hsome b hb
    exact hnull t b hne hread

theorem Rereads.orNil (h : Rereads room read write) (hroom : room + 1 ≤ depth)
    (hs : s.Within depth) {as : List α} (ha : s.orElse (Tree.asList? read) [] = some as) :
    Kept depth (·.orElse (Tree.asList? read) []) (some (.arr (as.map write))) as :=
  Rereads.orElse (Rereads.list h) hroom hs ha ⟨.arr [], Tree.within_arr_nil (by omega), rfl⟩

theorem Rereads.orEmpty (h : Rereads room read write) (hroom : room + 1 ≤ depth)
    (hs : s.Within depth) {ms : Members α} (hms : s.orElse (Tree.asMembers? read) [] = some ms) :
    Kept depth (·.orElse (Tree.asMembers? read) []) (some (objectOfMembers write ms)) ms :=
  Rereads.orElse (Rereads.members h) hroom hs hms ⟨.obj [], Tree.within_obj_nil (by omega), rfl⟩

theorem kept_name (hs : s.Within depth) {a : String} (ha : s.required Tree.asString? = some a) :
    Kept depth (·.required Tree.asString?) (some (.str a)) a :=
  rereads_string.required (Nat.zero_le _) hs ha

theorem kept_text (hs : s.Within depth) {a : String} (ha : s.orElse Tree.asString? "" = some a) :
    Kept depth (·.orElse Tree.asString? "") (some (.str a)) a :=
  rereads_string.orElse (Nat.zero_le _) hs ha ⟨.str "", .str "", rfl⟩

theorem kept_flag (hs : s.Within depth) {a : Bool} (ha : s.orElse Tree.asBool? false = some a) :
    Kept depth (·.orElse Tree.asBool? false) (some (.bool a)) a :=
  rereads_bool.orElse (Nat.zero_le _) hs ha ⟨.bool false, .bool false, rfl⟩

theorem kept_string (hs : s.Within depth) {a : Option String}
    (ha : s.optional Tree.asString? = some a) :
    Kept depth (·.optional Tree.asString?) (optionalString a) a :=
  rereads_string.optional (Nat.zero_le _) (fun _ _ _ _ => nofun) hs ha

theorem kept_value (hs : s.Within depth) {a : Option Json}
    (ha : s.optional Tree.value? = some a) : Kept depth (·.optional Tree.value?) a a := by
  have h := rereads_value.optional (Nat.zero_le _) (fun _ _ => value_ne_null) hs ha
  rwa [Option.map_id] at h

theorem kept_strings (hroom : 1 ≤ depth) (hs : s.Within depth) {a : List String}
    (ha : s.orElse Tree.asStrings? [] = some a) :
    Kept depth (·.orElse Tree.asStrings? []) (some (strings a)) a :=
  rereads_string.orNil hroom hs ha

theorem kept_object (hroom : 1 ≤ depth) (hs : s.Within depth) {ms : Members Json}
    (hms : s.orElse Tree.asObject? [] = some ms) :
    Kept depth (·.orElse Tree.asObject? []) (some (.obj ms)) ms :=
  rereads_object.orElse hroom hs hms ⟨.obj [], Tree.within_obj_nil hroom, rfl⟩

/-- Untyped values that are left out where there are none. -/
theorem kept_values (hroom : 1 ≤ depth) (hs : s.Within depth) {ms : Members Json}
    (hms : s.orElse Tree.asObject? [] = some ms) :
    Kept depth (·.orElse Tree.asObject? []) (nonEmptyObject id ms) ms :=
  rereads_value.orNone hroom hs hms

end Fields

/-! ## Records -/

/-- What a record says about its fields leaves room for what was found. -/
theorem Tree.within_slots {depth : Nat} {t : Tree} (ht : t.Within depth)
    {fields : List (List String)} {ss : List Slot} (h : t.slots fields = some ss) :
    ∃ d, depth = d + 1 ∧ ∀ s ∈ ss, s.Within d := by
  cases ht with
  | @arr d items hitems =>
    refine ⟨d, rfl, fun s hs t ht => ?_⟩
    rw [Tree.slots] at h
    split at h
    · cases h
      subst ht
      rcases List.mem_append.1 hs with hs | hs
      · obtain ⟨u, hu, heq⟩ := List.mem_map.1 hs
        exact Slot.found.inj heq ▸ hitems u hu
      · cases (List.mem_replicate.1 hs).2
    · cases h
  | @obj d ms hms =>
    refine ⟨d, rfl, fun s hs t ht => ?_⟩
    obtain ⟨names, -, hnames⟩ := exists_mem_of_forall₂ (mapM_eq_some_iff.1 h) hs
    subst ht
    rw [Tree.slotOf] at hnames
    split at hnames
    · cases hnames
    · rename_i m hm
      cases hnames
      have hmem : m ∈ ms.filter fun m => names.contains m.1 := hm ▸ List.mem_singleton_self m
      exact hms m (List.mem_filter.1 hmem).1
    · cases hnames
  | _ => cases h

theorem filter_present (ms : List (String × Option Json)) (p : String → Bool) :
    (ms.filterMap fun m => m.2.map (m.1, ·)).filter (fun m => p m.1) =
      (ms.filter fun m => p m.1).filterMap fun m => m.2.map (m.1, ·) := by
  rw [List.filter_filterMap, List.filterMap_filter]
  refine List.filterMap_congr fun m _ => ?_
  cases m.2 <;> simp [Option.filter]

section Record

variable {ms : List (String × Option Json)} (hkeys : (ms.map (·.1)).Nodup)

include hkeys

/-- A field that some names pick among the keys of a record is found under them. -/
theorem slotOf_record {names : List String} {m : String × Option Json} (hm : m ∈ ms)
    (hnames : (ms.map (·.1)).filter names.contains = [m.1]) :
    Tree.slotOf (treeMembers (Members.ofList (ms.filterMap fun m => m.2.map (m.1, ·)))) names =
      some (.ofField m.2) := by
  have honly : ms.filter (fun m => names.contains m.1) = [m] := by
    rw [List.filter_map] at hnames
    obtain ⟨m', hm', hkey⟩ := List.map_eq_singleton_iff.1 hnames
    have hmem : m' ∈ ms := (List.mem_filter.1 (hm' ▸ List.mem_singleton_self m')).1
    rw [← List.inj_on_of_nodup_map hkeys hmem hm hkey]
    exact hm'
  have hpresent : (ms.filterMap fun m => m.2.map (m.1, ·)).filter (fun m => names.contains m.1) =
      (m.2.map (m.1, ·)).toList := by
    rw [filter_present, honly, List.filterMap_cons, List.filterMap_nil]
    cases m.2 <;> rfl
  have hperm := (Members.ofList_perm ((keys_present_sublist ms).nodup hkeys)).filter
    fun m => names.contains m.1
  rw [hpresent] at hperm
  have hfound : (treeMembers (Members.ofList (ms.filterMap fun m => m.2.map (m.1, ·)))).filter
      (fun m => names.contains m.1) = (m.2.map fun v => (m.1, v.tree)).toList := by
    rw [treeMembers_eq_map, List.filter_map]
    cases hv : m.2 with
    | none =>
      rw [hv] at hperm
      exact congrArg _ hperm.eq_nil
    | some v =>
      rw [hv] at hperm
      exact congrArg _ (List.perm_singleton.1 hperm)
  rw [Tree.slotOf, hfound]
  cases m.2 <;> rfl

end Record

/-- No name occurs twice among the names of the fields, and every field has one. -/
def Named (fields : List (List String)) : Prop :=
  fields.flatten.Nodup ∧ ∀ names ∈ fields, names ≠ []

instance (fields : List (List String)) : Decidable (Named fields) :=
  inferInstanceAs (Decidable (_ ∧ _))

/-- The name under which a field is written. -/
def mainName (names : List String) : String := names.headD ""

section Named

variable {fields : List (List String)} (h : Named fields)

include h

theorem mainName_mem {names : List String} (hnames : names ∈ fields) : mainName names ∈ names := by
  obtain ⟨name, rest, rfl⟩ := List.exists_cons_of_ne_nil (h.2 names hnames)
  exact List.mem_cons_self

theorem nodup_mainNames : (fields.map mainName).Nodup := by
  obtain ⟨-, hdisjoint⟩ := List.nodup_flatten.1 h.1
  rw [List.nodup_iff_pairwise_ne, List.pairwise_map]
  refine hdisjoint.imp_of_mem fun hl hm hlm heq => ?_
  exact hlm (mainName_mem h hl) (heq ▸ mainName_mem h hm)

theorem filter_mainNames {names : List String} (hnames : names ∈ fields) :
    (fields.map mainName).filter names.contains = [mainName names] := by
  obtain ⟨before, after, rfl⟩ := List.append_of_mem hnames
  obtain ⟨-, hdisjoint⟩ := List.nodup_flatten.1 h.1
  obtain ⟨-, hafter, hbefore⟩ := List.pairwise_append.1 hdisjoint
  have hnone (others : List (List String)) (hsub : others ⊆ before ++ names :: after)
      (hothers : ∀ l ∈ others, ∀ name ∈ l, name ∉ names) :
      (others.map mainName).filter names.contains = [] := by
    rw [List.filter_eq_nil_iff]
    intro name hname
    obtain ⟨l, hl, rfl⟩ := List.mem_map.1 hname
    simpa using hothers l hl _ (mainName_mem h (hsub hl))
  rw [List.map_append, List.map_cons, List.filter_append,
    List.filter_cons_of_pos (by simpa using mainName_mem h hnames), hnone before, hnone after]
  · rfl
  · exact fun l hl => List.mem_append_right _ (List.mem_cons_of_mem _ hl)
  · exact fun l hl name hname hmem => List.rel_of_pairwise_cons hafter hl hmem hname
  · exact List.subset_append_left _ _
  · exact fun l hl name hname hmem => hbefore l hl names List.mem_cons_self hname hmem

end Named

theorem within_record {depth : Nat} {ms : List (String × Option Json)}
    (hms : ∀ m ∈ ms, ∀ v, m.2 = some v → v.tree.Within depth) :
    (record ms).tree.Within (depth + 1) := by
  rw [record, object, tree, treeMembers_eq_map]
  refine .obj fun m hm => ?_
  obtain ⟨p, hp, rfl⟩ := List.mem_map.1 hm
  obtain ⟨q, hq, hqp⟩ := List.mem_filterMap.1 (Members.mem_ofList hp)
  obtain ⟨v, hv, rfl⟩ := Option.map_eq_some_iff.1 hqp
  exact hms q hq v hv

/-- A record whose fields are written under their main names says of each field what was written for
it. -/
theorem slots_record {fields : List (List String)} (hfields : Named fields)
    {ms : List (String × Option Json)} (hkeys : ms.map (·.1) = fields.map mainName) :
    (record ms).tree.slots fields = some (ms.map fun m => .ofField m.2) := by
  have hnodup : (ms.map (·.1)).Nodup := hkeys ▸ nodup_mainNames hfields
  have hmain : List.Forall₂ (fun names m => mainName names = m.1) fields ms := by
    have heq := (congrFun (congrFun List.forall₂_eq_eq_eq _) _).mpr hkeys.symm
    rwa [List.forall₂_map_left_iff, List.forall₂_map_right_iff] at heq
  rw [record, object, tree, Tree.slots, mapM_eq_some_iff, List.forall₂_map_right_iff,
    List.forall₂_iff_zip]
  rw [List.forall₂_iff_zip] at hmain
  refine ⟨hmain.1, fun hp => slotOf_record hnodup (List.of_mem_zip hp).2 ?_⟩
  rw [hkeys, filter_mainNames hfields (List.of_mem_zip hp).1, hmain.2 hp]

/-- A record whose fields are written under their main names: it is as deep as its fields, and what
is read from what it says of them is read from it. -/
theorem record_again {α : Type} (fields : List (List String)) (hfields : Named fields) {depth : Nat}
    {ms : List (String × Option Json)} (hkeys : ms.map (·.1) = fields.map mainName)
    (hms : ∀ m ∈ ms, ∀ v, m.2 = some v → v.tree.Within depth) {read : Tree → Option α} {a : α}
    (hread : ∀ t, t.slots fields = some (ms.map fun m => .ofField m.2) → read t = some a) :
    (record ms).tree.Within (depth + 1) ∧ read (record ms).tree = some a :=
  ⟨within_record hms, hread _ (slots_record hfields hkeys)⟩

end ChatPlan.Json
