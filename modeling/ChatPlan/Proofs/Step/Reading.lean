import ChatPlan.Proofs.Results
import ChatPlan.Step.ContentReader

/-
The two ways in which properties are read. Steps are built by readers that refuse a property of the
wrong type; elements are collected by looks that take such a property for missing. Wherever a reader
succeeds, the look finds what it read.
-/
namespace ChatPlan.Props

variable {p : Props} {key place : String} {α β : Type}

theorem within_eq_ok_iff {r : Except PropError α} {a : α} : within place r = .ok a ↔ r = .ok a :=
  mapError_eq_ok_iff

theorem require_eq_ok_iff {v : Option α} {a : α} : require key v = .ok a ↔ v = some a := by
  cases v with
  | none => simp [require]
  | some b => simp [require]

/-- A typed property is what a look of that type finds, if the look does not take `null`. -/
theorem typed?_eq_ok {expected : String} {read : Json → Option α} (hnull : read .null = none)
    {v : Option α} (h : typed? expected read p key = .ok v) :
    (Members.get? p key).bind read = v := by
  unfold typed? at h
  split at h
  · rename_i hget
    cases h
    rw [hget, Option.bind_none]
  · rename_i hget
    cases h
    rw [hget, Option.bind_some, hnull]
  · rename_i w _ hget
    rw [hget, Option.bind_some]
    split at h
    · rename_i a hread
      cases h
      exact hread
    · cases h

theorem get?_of_typed? {expected : String} {read : Json → Option α}
    (h : typed? expected read p key = .ok none) :
    Members.get? p key = none ∨ Members.get? p key = some .null := by
  unfold typed? at h
  split at h
  · exact .inl ‹_›
  · exact .inr ‹_›
  · split at h
    · cases h
    · cases h

theorem string?_eq_ok {v : Option String} (h : string? p key = .ok v) : text? p key = v :=
  typed?_eq_ok rfl h

theorem string_eq_ok {s : String} (h : string p key = .ok s) : text? p key = some s := by
  obtain ⟨v, hv, hs⟩ := bind_eq_ok_iff.1 h
  rw [string?_eq_ok hv, require_eq_ok_iff.1 hs]

theorem textAmong?_nil : textAmong? p [] = none := rfl

theorem textAmong?_cons {keys : List String} :
    textAmong? p (key :: keys) = (text? p key).or (textAmong? p keys) := by
  rw [textAmong?, List.findSome?_cons]
  cases text? p key <;> rfl

/-- The reader stops at the first string that is there; properties behind it may have any type. -/
theorem stringAmong?_eq_ok {keys : List String} {v : Option String}
    (h : stringAmong? p keys = .ok v) : textAmong? p keys = v := by
  induction keys with
  | nil =>
    cases h
    rfl
  | cons key keys ih =>
    obtain ⟨w, hw, hrest⟩ := bind_eq_ok_iff.1 h
    rw [textAmong?_cons, string?_eq_ok hw]
    cases w with
    | none => exact ih hrest
    | some s =>
      cases hrest
      rfl

theorem array?_eq_ok {v : Option (List Json)} (h : array? p key = .ok v) :
    list p key = v.getD [] := by
  rw [list, typed?_eq_ok rfl h]

theorem eachItem_eq_ok {read : Nat → α → Except PropError β} {xs : List α} {ys : List β}
    (h : eachItem read xs = .ok ys) : List.Forall₂ (fun x y => ∃ i, read i x = .ok y) xs ys := by
  rw [eachItem, mapM_eq_ok_iff, List.mapIdx_eq_zipIdx_map, List.forall₂_map_left_iff] at h
  rw [← List.zipIdx_map_fst 0 xs, List.forall₂_map_left_iff]
  exact h.imp fun x y hxy => ⟨x.2, hxy⟩

theorem asItem_eq_ok {i : Nat} {v : Json} {m : Props} (h : asItem key i v = .ok m) :
    v = .obj m := by
  cases v <;> cases h
  rfl

theorem itemsOf_eq_ok {vs : List Json} {ms : List Props} (h : itemsOf key vs = .ok ms) :
    vs.filterMap Json.asObject? = ms := by
  have hitems : List.Forall₂ (fun v m => ∃ i, asItem key i v = .ok m) vs ms := eachItem_eq_ok h
  clear h
  induction hitems with
  | nil => rfl
  | cons hitem _ ih =>
    obtain ⟨i, hi⟩ := hitem
    rw [asItem_eq_ok hi, List.filterMap_cons, ih]
    rfl

/-- The objects of an array are what a reader of objects makes of it. -/
theorem objects_of_array? {v : Option (List Json)} (h : array? p key = .ok v) {ms : List Props}
    {name : String} (hms : itemsOf name (v.getD []) = .ok ms) : objects p key = ms := by
  rw [objects, array?_eq_ok h, itemsOf_eq_ok hms]

/-- A link or a call that the look takes for an answer: its type is `null`, which the reader passes
over for the kind, and the look does not. -/
def isMistaken (b : Props) : Bool :=
  (Members.get? b "type").any Json.isNull && (text? b "kind").any ["url", "call", "phone"].contains

/-- The look agrees with the reader on what answers, up to what it mistakes for an answer. -/
theorem answers_iff_of_stringAmong? {v : Option String}
    (h : stringAmong? p ["type", "kind"] = .ok v) : answers p = true ∧ isMistaken p = false ↔
      ["url", "call", "phone"].contains (v.getD "reply") = false := by
  suffices hopens : ["url", "call", "phone"].contains (v.getD "reply") =
      (!answers p || isMistaken p) by
    rw [hopens, Bool.or_eq_false_iff, Bool.not_eq_false']
  obtain ⟨t, ht, hrest⟩ := bind_eq_ok_iff.1 h
  cases t with
  | some s =>
    cases hrest
    obtain ⟨w, hw, hs⟩ := Option.bind_eq_some_iff.1 (string?_eq_ok ht)
    have hnull : w.isNull = false := by cases w <;> first | rfl | cases hs
    simp [answers, buttonType, isMistaken, hw, hs, hnull]
  | none =>
    have hkind : text? p "kind" = v := by simpa [textAmong?] using stringAmong?_eq_ok hrest
    rcases get?_of_typed? ht with hget | hget
    · simp [answers, buttonType, isMistaken, hget, ← hkind, text?]
    · -- the look stops at the `null`, and the button answers
      have hanswers : answers p = true := by
        rw [answers, buttonType, hget]
        rfl
      rw [hanswers, isMistaken, hget, hkind]
      cases v with
      | none => decide
      | some kind => rfl

end ChatPlan.Props
