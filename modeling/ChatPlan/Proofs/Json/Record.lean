import ChatPlan.Json.Basic
import Mathlib.Data.List.Nodup
import Mathlib.Data.String.Basic

/-
Members and records. Whatever is put in one after the other comes out sorted, each key once; members
that are sorted already stay as they are, and members with distinct keys are only moved. Members
that are put into an object can be looked up again, so two records with the same distinct keys are
equal only if they have the same fields, present and missing.
-/
namespace ChatPlan.Members

/-! ## Members -/

variable {α : Type}

/-- The keys stand in order, each once. -/
def Sorted (ms : Members α) : Prop := ms.Pairwise fun a b => a.1 < b.1

theorem mem_insert {k : String} {v : α} {ms : Members α} {m : String × α}
    (h : m ∈ insert k v ms) : m = (k, v) ∨ m ∈ ms := by
  fun_induction insert k v ms <;> grind

theorem Sorted.insert {ms : Members α} (h : Sorted ms) (k : String) (v : α) :
    Sorted (insert k v ms) := by
  induction ms with
  | nil => exact List.pairwise_singleton _ _
  | cons m ms ih =>
    obtain ⟨hm, hms⟩ := List.pairwise_cons.1 h
    rw [Members.insert]
    split
    · rename_i hlt
      refine List.pairwise_cons.2 ⟨fun b hb => ?_, h⟩
      rcases List.mem_cons.1 hb with rfl | hb
      · exact hlt
      · exact lt_trans hlt (hm b hb)
    · split
      · rename_i heq
        exact List.pairwise_cons.2 ⟨fun b hb => heq ▸ hm b hb, hms⟩
      · rename_i hge hne
        refine List.pairwise_cons.2 ⟨fun b hb => ?_, ih hms⟩
        rcases mem_insert hb with rfl | hb
        · exact lt_of_le_of_ne (not_lt.1 hge) (Ne.symm hne)
        · exact hm b hb

theorem insert_last {k : String} {ms : Members α} (h : ∀ m ∈ ms, m.1 < k) (v : α) :
    insert k v ms = ms ++ [(k, v)] := by
  induction ms with
  | nil => rfl
  | cons m ms ih =>
    obtain ⟨hm, hms⟩ := List.forall_mem_cons.1 h
    rw [insert, if_neg (lt_asymm hm), if_neg (ne_of_gt hm), ih hms]
    rfl

theorem insert_perm {k : String} {ms : Members α} (h : k ∉ ms.map (·.1)) (v : α) :
    (insert k v ms).Perm ((k, v) :: ms) := by
  induction ms with
  | nil => exact .refl _
  | cons m ms ih =>
    simp only [List.map_cons, List.mem_cons, not_or] at h
    rw [insert]
    split
    · exact .refl _
    · rw [if_neg h.1]
      exact ((ih h.2).cons m).trans (.swap _ _ _)

theorem insert_insert (k : String) (v : α) (ms : Members α) :
    insert k v (insert k v ms) = insert k v ms := by
  induction ms with
  | nil => simp [insert]
  | cons m ms ih =>
    rw [insert]
    split
    · simp [insert]
    · split
      · simp [insert]
      · rename_i hlt hne
        rw [insert, if_neg hlt, if_neg hne, ih]

theorem insert_comm {k l : String} (h : k ≠ l) (v w : α) (ms : Members α) :
    insert k v (insert l w ms) = insert l w (insert k v ms) := by
  wlog hlt : k < l generalizing k l v w
  · exact (this h.symm w v (lt_of_le_of_ne (not_lt.1 hlt) h.symm)).symm
  have hback : ¬ l < k := lt_asymm hlt
  induction ms with
  | nil => simp [insert, hlt, hback, h.symm]
  | cons m ms ih =>
    obtain ⟨n, u⟩ := m
    rcases lt_trichotomy k n with hk | rfl | hk
    · rcases lt_trichotomy l n with hl | rfl | hl
      · simp [insert, hk, hl, hlt, hback, h.symm]
      · simp [insert, hlt, hback, h.symm]
      · simp [insert, hk, lt_asymm hl, hl.ne', hback, h.symm]
    · simp [insert, hback, h.symm]
    · have hl : n < l := hk.trans hlt
      simp [insert, lt_asymm hk, hk.ne', lt_asymm hl, hl.ne', ih]
theorem sorted_insertAll {ms : Members α} (h : Sorted ms) (new : List (String × α)) :
    Sorted (insertAll ms new) := by
  induction new generalizing ms with
  | nil => exact h
  | cons m new ih => exact ih (h.insert m.1 m.2)

theorem mem_insertAll {ms : Members α} {new : List (String × α)} {m : String × α}
    (h : m ∈ insertAll ms new) : m ∈ ms ∨ m ∈ new := by
  induction new generalizing ms with
  | nil => exact .inl h
  | cons n new ih =>
    rcases ih h with hm | hm
    · rcases mem_insert hm with rfl | hm
      · exact .inr List.mem_cons_self
      · exact .inl hm
    · exact .inr (List.mem_cons_of_mem n hm)

theorem insertAll_of_sorted {ms : Members α} {new : List (String × α)}
    (h : Sorted (ms ++ new)) : insertAll ms new = ms ++ new := by
  induction new generalizing ms with
  | nil => rw [List.append_nil]; rfl
  | cons n new ih =>
    have hlast : insert n.1 n.2 ms = ms ++ [n] :=
      insert_last (fun m hm => (List.pairwise_append.1 h).2.2 m hm n List.mem_cons_self) n.2
    have hsplit : ms ++ n :: new = (ms ++ [n]) ++ new := by rw [List.append_assoc]; rfl
    rw [hsplit] at h ⊢
    rw [← ih h, ← hlast]
    rfl

theorem insertAll_perm {ms : Members α} {new : List (String × α)}
    (h : ((ms ++ new).map (·.1)).Nodup) : (insertAll ms new).Perm (ms ++ new) := by
  induction new generalizing ms with
  | nil => rw [List.append_nil]; exact .refl _
  | cons n new ih =>
    have hmove : (ms ++ n :: new).Perm ((n :: ms) ++ new) := List.perm_middle
    have hnodup : (((n :: ms) ++ new).map (·.1)).Nodup := (hmove.map _).nodup_iff.1 h
    have hnew : n.1 ∉ ms.map (·.1) := by
      rw [List.cons_append, List.map_cons, List.nodup_cons, List.map_append] at hnodup
      exact fun hmem => hnodup.1 (List.mem_append_left _ hmem)
    have hfirst : (insert n.1 n.2 ms ++ new).Perm ((n :: ms) ++ new) :=
      (insert_perm hnew n.2).append_right new
    exact (ih ((hfirst.map _).nodup_iff.2 hnodup)).trans (hfirst.trans hmove.symm)

theorem sorted_ofList (ms : List (String × α)) : Sorted (ofList ms) :=
  sorted_insertAll List.Pairwise.nil ms

theorem mem_ofList {ms : List (String × α)} {m : String × α} (h : m ∈ ofList ms) : m ∈ ms :=
  (mem_insertAll h).resolve_left List.not_mem_nil

theorem ofList_of_sorted {ms : Members α} (h : Sorted ms) : ofList ms = ms := insertAll_of_sorted h

/-- Members with distinct keys are only moved. -/
theorem ofList_perm {ms : List (String × α)} (h : (ms.map (·.1)).Nodup) : (ofList ms).Perm ms :=
  insertAll_perm h

end ChatPlan.Members

namespace ChatPlan

/-! ## Records -/

namespace Members

variable {α : Type}

@[simp] theorem get?_nil (l : String) : get? ([] : Members α) l = none := rfl

theorem get?_cons (k : String) (v : α) (ms : Members α) (l : String) :
    get? ((k, v) :: ms) l = if l = k then some v else get? ms l := by
  by_cases hl : l = k
  · simp [get?, hl]
  · simp [get?, hl, Ne.symm hl]

/-- What was put in is found, and hides nothing else. -/
theorem get?_insert (k : String) (v : α) (ms : Members α) (l : String) :
    get? (insert k v ms) l = if l = k then some v else get? ms l := by
  induction ms with
  | nil => rw [insert, get?_cons]
  | cons m ms ih =>
    obtain ⟨k', v'⟩ := m
    rw [insert]
    split
    · rw [get?_cons]
    · split
      · subst k'
        rw [get?_cons, get?_cons]
        split <;> rfl
      · rename_i hne
        rw [get?_cons, get?_cons, ih]
        split
        · subst l
          rw [if_neg (Ne.symm hne)]
        · rfl

theorem get?_insertAll_of_notMem {ms : Members α} {new : List (String × α)} {k : String}
    (h : k ∉ new.map (·.1)) : get? (insertAll ms new) k = get? ms k := by
  induction new generalizing ms with
  | nil => rfl
  | cons m new ih =>
    simp only [List.map_cons, List.mem_cons, not_or] at h
    rw [insertAll, List.foldl_cons, ← insertAll, ih h.2, get?_insert, if_neg h.1]

theorem get?_insertAll {ms : Members α} {new : List (String × α)} (hnew : (new.map (·.1)).Nodup)
    {k : String} {v : α} (h : (k, v) ∈ new) : get? (insertAll ms new) k = some v := by
  induction new generalizing ms with
  | nil => cases h
  | cons m new ih =>
    rw [List.map_cons, List.nodup_cons] at hnew
    rw [insertAll, List.foldl_cons, ← insertAll]
    rcases List.mem_cons.1 h with rfl | h
    · rw [get?_insertAll_of_notMem hnew.1, get?_insert, if_pos rfl]
    · exact ih hnew.2 h

end Members

namespace Json

theorem keys_present_sublist (ms : List (String × Option Json)) :
    ((ms.filterMap fun m => m.2.map (m.1, ·)).map (·.1)).Sublist (ms.map (·.1)) := by
  induction ms with
  | nil => exact .slnil
  | cons m ms ih =>
    obtain ⟨k, _ | v⟩ := m
    · exact ih.cons _
    · exact ih.cons_cons _

/-- The fields of a record are those that were given, where their keys are distinct. -/
theorem get?_record {ms : List (String × Option Json)} (hms : (ms.map (·.1)).Nodup) {k : String}
    {v : Option Json} (h : (k, v) ∈ ms) : (record ms).get? k = v := by
  change Members.get? (Members.insertAll [] _) k = v
  cases v with
  | some v =>
    refine Members.get?_insertAll ((keys_present_sublist ms).nodup hms) ?_
    exact List.mem_filterMap.2 ⟨(k, some v), h, rfl⟩
  | none =>
    rw [Members.get?_insertAll_of_notMem, Members.get?_nil]
    intro hk
    obtain ⟨m, hm, hmk⟩ := List.mem_map.1 hk
    obtain ⟨⟨l, w⟩, hw, hwm⟩ := List.mem_filterMap.1 hm
    cases w with
    | none => cases hwm
    | some w =>
      cases hwm
      have hsame := List.inj_on_of_nodup_map hms hw h hmk
      cases (Prod.mk.inj hsame).2

/-- Records with the same keys are equal only if they have the same fields. -/
theorem record_inj {ms ns : List (String × Option Json)} (h : record ms = record ns)
    (hkeys : ms.map (·.1) = ns.map (·.1)) (hms : (ms.map (·.1)).Nodup) : ms = ns := by
  have hfields (ls : List (String × Option Json)) (hls : (ls.map (·.1)).Nodup) :
      ls = (ls.map (·.1)).map fun k => (k, (record ls).get? k) := by
    rw [List.map_map]
    conv_lhs => rw [← List.map_id ls]
    refine List.map_congr_left fun m hm => ?_
    rw [Function.comp, get?_record hls hm]
    rfl
  -- both are the lookups of the same keys in the same record
  rw [hfields ms hms, hfields ns (hkeys ▸ hms), hkeys, h]

theorem object_eq_record (ms : List (String × Json)) :
    object ms = record (ms.map fun m => (m.1, some m.2)) := by
  simp [record]

theorem object_inj {ms ns : List (String × Json)} (h : object ms = object ns)
    (hkeys : ms.map (·.1) = ns.map (·.1)) (hms : (ms.map (·.1)).Nodup) : ms = ns := by
  have hsome : Function.Injective fun m : String × Json => (m.1, some m.2) := by
    intro m n heq
    obtain ⟨hkey, hvalue⟩ := Prod.mk.inj heq
    exact Prod.ext hkey (Option.some.inj hvalue)
  have hkey (ls : List (String × Json)) :
      (ls.map fun m => (m.1, some m.2)).map (·.1) = ls.map (·.1) := by rw [List.map_map]; rfl
  rw [object_eq_record, object_eq_record] at h
  refine List.map_injective_iff.2 hsome (record_inj h ?_ ?_)
  · rwa [hkey, hkey]
  · rwa [hkey]

end Json

end ChatPlan
