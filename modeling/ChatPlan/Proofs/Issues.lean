import ChatPlan.Flow.Rules
import ChatPlan.Issue
import ChatPlan.Proofs.Lists
import Mathlib.Logic.Function.Basic

/-
Lists of issues, read off the way a check builds them: what all of them satisfy, and which of them
hold an error. Their places tell what they are places of: an index or an id can be read off.
-/
namespace ChatPlan

/-! ## Reports -/

/-- All issues satisfy `P`. -/
def Reports (P : Issue → Prop) (is : List Issue) : Prop := ∀ i ∈ is, P i

namespace Reports

variable {P : Issue → Prop} {is js : List Issue} {α : Type}

theorem nil : Reports P [] := nofun

theorem single {i : Issue} (h : P i) : Reports P [i] := fun _ hj => by rwa [List.mem_singleton.1 hj]

theorem append (h : Reports P is) (h' : Reports P js) : Reports P (is ++ js) := by
  intro i hi
  rcases List.mem_append.1 hi with hi | hi
  · exact h i hi
  · exact h' i hi

theorem ite {c : Prop} [Decidable c] (h : Reports P is) (h' : Reports P js) :
    Reports P (if c then is else js) := by
  split
  · exact h
  · exact h'

theorem map {l : List α} {f : α → Issue} (h : ∀ a, P (f a)) : Reports P (l.map f) := by
  intro i hi
  obtain ⟨a, -, rfl⟩ := List.mem_map.1 hi
  exact h a

theorem toList {o : Option Issue} (h : ∀ i, o = some i → P i) : Reports P o.toList :=
  fun i hi => h i (Option.mem_toList.1 hi)

theorem bind {o : Option α} {f : α → Option Issue} (h : ∀ a, Reports P (f a).toList) :
    Reports P (o.bind f).toList := by
  cases o with
  | none => exact nil
  | some a => exact h a

theorem filterMap {l : List α} {f : α → Option Issue} (h : ∀ a i, f a = some i → P i) :
    Reports P (l.filterMap f) := by
  intro i hi
  obtain ⟨a, -, ha⟩ := List.mem_filterMap.1 hi
  exact h a i ha

theorem flatMap {l : List α} {f : α → List Issue} (h : ∀ a, Reports P (f a)) :
    Reports P (l.flatMap f) := by
  intro i hi
  obtain ⟨a, -, ha⟩ := List.mem_flatMap.1 hi
  exact h a i ha

theorem flatten_mapIdx {l : List α} {f : Nat → α → List Issue} (h : ∀ n a, Reports P (f n a)) :
    Reports P (l.mapIdx f).flatten := by
  rw [List.mapIdx_eq_zipIdx_map]
  exact flatMap fun p => h p.2 p.1

end Reports

@[simp] theorem hasErrors_nil : hasErrors [] = false := rfl

@[simp] theorem hasErrors_append (is js : List Issue) :
    hasErrors (is ++ js) = (hasErrors is || hasErrors js) := by
  simp only [hasErrors, List.any_append]

@[simp] theorem hasErrors_cons_error (code path message : String) (is : List Issue) :
    hasErrors (.error code path message :: is) = true := by
  simp [hasErrors, Issue.error, Issue.isError]

@[simp] theorem hasErrors_cons_warn (code path message : String) (is : List Issue) :
    hasErrors (.warn code path message :: is) = hasErrors is := by
  simp [hasErrors, Issue.warn, Issue.isError]

theorem hasErrors_flatMap {α : Type} {f : α → List Issue} {l : List α} :
    hasErrors (l.flatMap f) = false ↔ ∀ a ∈ l, hasErrors (f a) = false := by
  simp only [hasErrors, List.any_flatMap, List.any_eq_false, Bool.not_eq_true]

theorem hasErrors_map {α : Type} {f : α → Issue} (hf : ∀ a, (f a).isError = true) {l : List α} :
    hasErrors (l.map f) = false ↔ l = [] := by
  cases l with
  | nil => simp
  | cons a l => simp [hasErrors, hf]

theorem hasErrors_misfits {α : Type} {f : α × Nat → Issue} (hf : ∀ p, (f p).isError = true)
    {fits : α → Bool} {l : List α} :
    hasErrors ((l.zipIdx.filter fun p => !fits p.1).map f) = false ↔ ∀ a ∈ l, fits a = true := by
  rw [hasErrors_map hf, List.filter_eq_nil_iff]
  simp only [Bool.not_eq_true', Bool.not_eq_false]
  exact forall_zipIdx_iff (P := fun a => fits a = true)

theorem hasErrors_filterMap {α : Type} {f : α → Option Issue}
    (hf : ∀ a i, f a = some i → i.isError = true) {l : List α} :
    hasErrors (l.filterMap f) = false ↔ ∀ a ∈ l, f a = none := by
  simp only [hasErrors, List.any_eq_false, List.mem_filterMap, forall_exists_index, and_imp]
  constructor
  · intro h a ha
    cases hfa : f a with
    | none => rfl
    | some i => exact absurd (hf a i hfa) (h i a ha hfa)
  · intro h i a ha hfa
    rw [h a ha] at hfa
    cases hfa

/-! ## Places -/

theorem repr_injective : Function.Injective Nat.repr := by
  intro i j h
  have hdigits : Nat.toDigits 10 i = Nat.toDigits 10 j := String.ofList_injective h
  rw [← Nat.ofDigitChars_toDigits (b := 10) (by decide) (by decide) (n := i), hdigits,
    Nat.ofDigitChars_toDigits (by decide) (by decide)]

/-- What is written in front of the first `]` can be read off. -/
theorem repr_closed_inj {i j : Nat} {s t : String}
    (h : i.repr ++ ("]" ++ s) = j.repr ++ ("]" ++ t)) : i = j ∧ s = t := by
  have hfront (n : Nat) (u : String) :
      (n.repr ++ ("]" ++ u)).toList.takeWhile (· != ']') = n.repr.toList := by
    have hopen : ∀ c ∈ n.repr.toList, (c != ']') = true := by
      intro c hc
      rw [Nat.repr, String.toList_ofList] at hc
      rw [bne_iff_ne]
      rintro rfl
      exact absurd (Nat.isDigit_of_mem_toDigits (by decide) (by decide) hc) (by decide)
    rw [String.toList_append, List.takeWhile_append_of_pos hopen, String.toList_append]
    exact List.append_nil _
  have hij : i.repr = j.repr := String.toList_injective (by rw [← hfront i s, h, hfront j t])
  exact ⟨repr_injective hij, by simpa [hij] using h⟩

theorem edgePath_injective : Function.Injective edgePath := by
  intro i j h
  exact repr_injective (by simpa [edgePath] using h)

theorem nodePath_injective : Function.Injective nodePath := by
  intro id id' h
  simpa [nodePath, toString] using h

theorem routePath_injective (base : String) :
    Function.Injective fun i : Nat => base ++ s!".routes[{i}]" := by
  intro i j h
  exact repr_injective (by simpa using h)

end ChatPlan
