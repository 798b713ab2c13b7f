import ChatPlan.Flow.Cycles
import ChatPlan.Flow.Graph
import Mathlib.Data.List.Nodup
import Mathlib.Logic.Relation

/-
What the search level by level finds: exactly what a path of edges leads to (`mem_reachable`). Every
round that goes on takes a node off those that are not known, so the rounds last until nothing new
can come.
-/
namespace ChatPlan.Flow

/-- An edge leads from here to a declared node. -/
def Leads (f : Flow) (a b : String) : Prop := b ∈ f.targets a

/-- A path of edges leads from here to there; it may be empty. -/
def Reaches (f : Flow) : String → String → Prop := Relation.ReflTransGen f.Leads

/-! ## Adding names -/

theorem addNew_cons (known : List String) (s : String) (new : List String) :
    addNew known (s :: new) = addNew (if known.contains s then known else known ++ [s]) new := rfl

@[simp] theorem mem_addNew {known new : List String} {s : String} :
    s ∈ addNew known new ↔ s ∈ known ∨ s ∈ new := by
  induction new generalizing known with
  | nil => simp [addNew]
  | cons t new ih =>
    rw [addNew_cons, ih]
    split
    · rename_i h
      have ht : t ∈ known := by simpa using h
      grind
    · grind

theorem nodup_addNew {known : List String} (h : known.Nodup) (new : List String) :
    (addNew known new).Nodup := by
  induction new generalizing known with
  | nil => exact h
  | cons t new ih =>
    rw [addNew_cons]
    split
    · exact ih h
    · rename_i ht
      have ht : t ∉ known := by simpa using ht
      exact ih (List.nodup_append'.2 ⟨h, List.nodup_singleton t, by simpa using ht⟩)

theorem length_le_addNew (known new : List String) : known.length ≤ (addNew known new).length := by
  induction new generalizing known with
  | nil => exact Nat.le_refl _
  | cons t new ih =>
    rw [addNew_cons]
    split
    · exact ih known
    · have := ih (known ++ [t])
      rw [List.length_append] at this
      omega

theorem addNew_eq_self {known new : List String} (h : ∀ s ∈ new, s ∈ known) :
    addNew known new = known := by
  induction new with
  | nil => rfl
  | cons t new ih =>
    obtain ⟨ht, hnew⟩ := List.forall_mem_cons.1 h
    rw [addNew_cons, if_pos (by simpa using ht), ih hnew]

/-- Adding leaves the length as it was only if all was known. -/
theorem subset_of_length_addNew {known new : List String}
    (h : (addNew known new).length = known.length) : ∀ s ∈ new, s ∈ known := by
  induction new generalizing known with
  | nil => simp
  | cons t new ih =>
    rw [addNew_cons] at h
    split at h
    · rename_i ht
      exact List.forall_mem_cons.2 ⟨by simpa using ht, ih h⟩
    · have := length_le_addNew (known ++ [t]) new
      rw [List.length_append, List.length_singleton] at this
      omega

/-! ## Rounds -/

/-- How many nodes are not known. -/
def unknown (f : Flow) (known : List String) : Nat := f.nodes.countP fun n => !known.contains n.id

/-- No edge leads out of what is known. -/
def Closed (f : Flow) (known : List String) : Prop := ∀ a ∈ known, ∀ b, f.Leads a b → b ∈ known

theorem exists_node_of_leads {f : Flow} {a b : String} (h : f.Leads a b) :
    ∃ n ∈ f.nodes, n.id = b := by
  have hb : f.hasNode b = true := (List.mem_filter.1 h).2
  simp only [hasNode, node?, Design.node?, List.find?_isSome, beq_iff_eq] at hb
  exact hb

/-- A round that finds something new leaves fewer nodes unknown. -/
theorem unknown_lt {f : Flow} {known : List String}
    (h : (addNew known (known.flatMap f.targets)).length ≠ known.length) :
    f.unknown (addNew known (known.flatMap f.targets)) < f.unknown known := by
  obtain ⟨b, hb, hnew⟩ : ∃ b ∈ known.flatMap f.targets, b ∉ known := by
    by_contra hall
    push Not at hall
    exact h (by rw [addNew_eq_self hall])
  obtain ⟨a, ha, hab⟩ := List.mem_flatMap.1 hb
  obtain ⟨n, hn, rfl⟩ := exists_node_of_leads hab
  refine countP_lt (a := n) ?_ hn (by simpa using hnew) ?_
  · intro m _ hm
    simp only [List.contains_eq_mem, mem_addNew, Bool.not_eq_true', decide_eq_false_iff_not,
      not_or] at hm ⊢
    exact hm.1
  · simp only [List.contains_eq_mem, mem_addNew, hb, or_true, decide_true, Bool.not_true]

/-- With a round for every unknown node, the search ends with a closed list. -/
theorem closed_reachFrom {f : Flow} {rounds : Nat} {known : List String}
    (h : f.unknown known ≤ rounds) : f.Closed (f.reachFrom rounds known) := by
  induction rounds generalizing known with
  | zero =>
    intro a ha b hab
    obtain ⟨n, hn, rfl⟩ := exists_node_of_leads hab
    have hall := List.countP_eq_zero.1 (Nat.le_zero.1 h) n hn
    simpa [reachFrom] using hall
  | succ rounds ih =>
    rw [reachFrom]
    split
    · rename_i hlen
      intro a ha b hab
      exact subset_of_length_addNew hlen b (List.mem_flatMap.2 ⟨a, ha, hab⟩)
    · rename_i hlen
      have := unknown_lt hlen
      exact ih (by omega)

theorem subset_reachFrom {f : Flow} {rounds : Nat} {known : List String} {s : String}
    (h : s ∈ known) : s ∈ f.reachFrom rounds known := by
  induction rounds generalizing known with
  | zero => exact h
  | succ rounds ih =>
    rw [reachFrom]
    split
    · exact h
    · exact ih (mem_addNew.2 (.inl h))

/-- Whatever the rounds find is reached from what was known before. -/
theorem reaches_of_mem_reachFrom {f : Flow} {rounds : Nat} {known : List String} {s : String}
    (h : s ∈ f.reachFrom rounds known) : ∃ r ∈ known, f.Reaches r s := by
  induction rounds generalizing known with
  | zero => exact ⟨s, h, .refl⟩
  | succ rounds ih =>
    rw [reachFrom] at h
    split at h
    · exact ⟨s, h, .refl⟩
    · obtain ⟨r, hr, hrs⟩ := ih h
      rcases mem_addNew.1 hr with hr | hr
      · exact ⟨r, hr, hrs⟩
      · obtain ⟨a, ha, har⟩ := List.mem_flatMap.1 hr
        exact ⟨a, ha, .head har hrs⟩

/-- What can be reached from roots: all to which a path of edges leads from one of them. -/
theorem mem_reachable {f : Flow} {roots : List String} {s : String} :
    s ∈ f.reachable roots ↔ ∃ r ∈ roots, f.Reaches r s := by
  have hroots (r : String) : r ∈ addNew [] roots ↔ r ∈ roots := by simp
  constructor
  · intro h
    obtain ⟨r, hr, hrs⟩ := reaches_of_mem_reachFrom h
    exact ⟨r, (hroots r).1 hr, hrs⟩
  · intro h
    obtain ⟨r, hr, hrs⟩ := h
    -- a closed list with the roots in it has every path that starts there
    have hclosed : f.Closed (f.reachable roots) := closed_reachFrom List.countP_le_length
    induction hrs with
    | refl => exact subset_reachFrom ((hroots r).2 hr)
    | tail _ hbc ih => exact hclosed _ ih _ hbc

end ChatPlan.Flow
