import ChatPlan.Issue
import ChatPlan.Proofs.Lists
import Mathlib.Data.List.Perm.Basic

/-
Verdicts: the severity and the code of an issue, without its place and its message. Two lists of
issues have the same verdicts if these agree as multisets. Checks that go through a list and look at
one member at a time report the same verdicts in whatever order the list stands, even where the
place of a member gets into its issues.
-/
namespace ChatPlan

/-- What an issue says, wherever it says it. -/
def Issue.verdict (i : Issue) : Severity × String := (i.severity, i.code)

@[simp] theorem Issue.verdict_error (code path message : String) :
    (Issue.error code path message).verdict = (.error, code) := rfl

@[simp] theorem Issue.verdict_warn (code path message : String) :
    (Issue.warn code path message).verdict = (.warn, code) := rfl

@[simp] theorem Issue.verdict_info (code path message : String) :
    (Issue.info code path message).verdict = (.info, code) := rfl

/-- The issues say the same, up to order. -/
def SameVerdicts (is js : List Issue) : Prop := (is.map Issue.verdict).Perm (js.map Issue.verdict)

namespace SameVerdicts

variable {α : Type}

theorem of_map_eq {is js : List Issue} (h : is.map Issue.verdict = js.map Issue.verdict) :
    SameVerdicts is js := List.Perm.of_eq h

theorem refl (is : List Issue) : SameVerdicts is is := List.Perm.refl _

theorem symm {is js : List Issue} (h : SameVerdicts is js) : SameVerdicts js is := List.Perm.symm h

theorem trans {is js ks : List Issue} (h : SameVerdicts is js) (h' : SameVerdicts js ks) :
    SameVerdicts is ks := List.Perm.trans h h'

theorem append {is is' js js' : List Issue} (h : SameVerdicts is js) (h' : SameVerdicts is' js') :
    SameVerdicts (is ++ is') (js ++ js') := by
  rw [SameVerdicts, List.map_append, List.map_append]
  exact List.Perm.append h h'

theorem toList {i j : Option Issue} (h : i.map Issue.verdict = j.map Issue.verdict) :
    SameVerdicts i.toList j.toList :=
  of_map_eq (by rw [← Option.toList_map, ← Option.toList_map, h])

theorem flatMap {l l' : List α} {f g : α → List Issue} (hl : l.Perm l')
    (h : ∀ a ∈ l, SameVerdicts (f a) (g a)) : SameVerdicts (l.flatMap f) (l'.flatMap g) := by
  rw [SameVerdicts, List.map_flatMap, List.map_flatMap]
  exact hl.flatMap h

/-- One report for each member, which knows the place of the member: it is enough that a member
gives the same verdicts at its two places. -/
theorem flatMap_places {l l' : List α} {f g : α × Nat → List Issue} (hl : l.Perm l')
    (h : ∀ p ∈ l.zipIdx, ∀ q ∈ l'.zipIdx, p.1 = q.1 → SameVerdicts (f p) (g q)) :
    SameVerdicts (l.zipIdx.flatMap f) (l'.zipIdx.flatMap g) := by
  classical
  -- both sides agree with the report that sees every member at some place in the second list
  let r (a : α) : List Issue := if ha : ∃ i, (a, i) ∈ l'.zipIdx then g (a, ha.choose) else []
  have hr {a : α} (ha : a ∈ l') : r a = g (a, (exists_mem_zipIdx ha).choose) :=
    dif_pos (exists_mem_zipIdx ha)
  have forget (m : List α) : m.flatMap r = m.zipIdx.flatMap fun p => r p.1 := by
    conv_lhs => rw [← List.zipIdx_map_fst 0 m, List.flatMap_map]
  have hleft : SameVerdicts (l.zipIdx.flatMap f) (l.flatMap r) := by
    rw [forget]
    refine flatMap (.refl _) fun p hp => ?_
    have hmem : p.1 ∈ l' := hl.mem_iff.1 (List.fst_mem_of_mem_zipIdx hp)
    rw [hr hmem]
    exact h p hp _ (exists_mem_zipIdx hmem).choose_spec rfl
  have hright : SameVerdicts (l'.flatMap r) (l'.zipIdx.flatMap g) := by
    rw [forget]
    refine flatMap (.refl _) fun q hq => ?_
    have hmem : q.1 ∈ l' := List.fst_mem_of_mem_zipIdx hq
    obtain ⟨i, hi⟩ := exists_mem_zipIdx (hl.mem_iff.2 hmem)
    rw [hr hmem]
    exact (h _ hi _ (exists_mem_zipIdx hmem).choose_spec rfl).symm.trans (h _ hi q hq rfl)
  exact (hleft.trans (flatMap hl fun _ _ => refl _)).trans hright

theorem flatMap_zipIdx {l l' : List α} {f g : α × Nat → List Issue} (hl : l.Perm l')
    (h : ∀ a ∈ l, ∀ i j, SameVerdicts (f (a, i)) (g (a, j))) :
    SameVerdicts (l.zipIdx.flatMap f) (l'.zipIdx.flatMap g) := by
  apply flatMap_places hl
  intro p hp q _ hpq
  have hq : q = (p.1, q.2) := Prod.ext hpq.symm rfl
  rw [hq]
  exact h p.1 (List.fst_mem_of_mem_zipIdx hp) p.2 q.2

theorem filterMap {l l' : List α} {f g : α → Option Issue} (hl : l.Perm l')
    (h : ∀ a ∈ l, (f a).map Issue.verdict = (g a).map Issue.verdict) :
    SameVerdicts (l.filterMap f) (l'.filterMap g) := by
  rw [SameVerdicts, List.map_filterMap, List.map_filterMap,
    List.filterMap_congr (g := fun a => (g a).map Issue.verdict) (fun a ha => h a ha)]
  exact hl.filterMap _

theorem filterMap_zipIdx {l l' : List α} {f g : α × Nat → Option Issue} (hl : l.Perm l')
    (h : ∀ a ∈ l, ∀ i j, (f (a, i)).map Issue.verdict = (g (a, j)).map Issue.verdict) :
    SameVerdicts (l.zipIdx.filterMap f) (l'.zipIdx.filterMap g) := by
  rw [List.filterMap_eq_flatMap_toList, List.filterMap_eq_flatMap_toList]
  exact flatMap_zipIdx hl fun a ha i j => toList (h a ha i j)

theorem map_filter {l l' : List α} {p q : α → Bool} {f g : α → Issue} (hl : l.Perm l')
    (hp : ∀ a ∈ l, p a = q a) (h : ∀ a, (f a).verdict = (g a).verdict) :
    SameVerdicts ((l.filter p).map f) ((l'.filter q).map g) := by
  rw [SameVerdicts, List.map_map, List.map_map, List.filter_congr hp,
    show Issue.verdict ∘ f = Issue.verdict ∘ g from funext h]
  exact (hl.filter q).map _

theorem flatten_mapIdx {l l' : List α} {f g : Nat → α → List Issue} (hl : l.Perm l')
    (h : ∀ a ∈ l, ∀ i j, SameVerdicts (f i a) (g j a)) :
    SameVerdicts (l.mapIdx f).flatten (l'.mapIdx g).flatten := by
  rw [List.mapIdx_eq_zipIdx_map, List.mapIdx_eq_zipIdx_map]
  exact flatMap_zipIdx hl h

theorem hasErrors_eq {is js : List Issue} (h : SameVerdicts is js) : hasErrors is = hasErrors js := by
  have hany (ks : List Issue) : hasErrors ks = (ks.map Issue.verdict).any (·.1 == .error) := by
    rw [List.any_map]
    rfl
  rw [hany, hany, Bool.eq_iff_iff, List.any_eq_true, List.any_eq_true]
  simp only [List.Perm.mem_iff h]

theorem filter_code {is js : List Issue} (h : SameVerdicts is js) (code : String) :
    SameVerdicts (is.filter (·.code != code)) (js.filter (·.code != code)) := by
  have hmap (ks : List Issue) : (ks.filter (·.code != code)).map Issue.verdict =
      (ks.map Issue.verdict).filter (·.2 != code) := by
    rw [List.filter_map]
    rfl
  rw [SameVerdicts, hmap, hmap]
  exact List.Perm.filter _ h

end SameVerdicts

end ChatPlan
