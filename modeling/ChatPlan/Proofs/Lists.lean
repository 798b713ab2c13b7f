import Mathlib.Data.Finset.Card
import Mathlib.Data.List.Basic
import Mathlib.Data.List.Nodup
import Mathlib.Data.List.Perm.Basic
import Mathlib.Data.Nat.Find
import Mathlib.Order.Basic

/-
Members of a list. A check that keeps the first place at which it saw a key asks whether some
earlier member has that key. Stable sorting leaves members that the order does not tell apart as
they stand, so a sorted list says of every class of such members in which order they came, and
nothing else about where they stood: two lists sort to the same list exactly if each class reads the
same in both.
-/
namespace ChatPlan

/-! ## What stands before a member -/

variable {α : Type}

theorem mem_zipIdx_iff {l : List α} {a : α} {i : Nat} : (a, i) ∈ l.zipIdx ↔ l[i]? = some a := by
  rw [List.mem_zipIdx_iff_getElem?]

theorem exists_mem_zipIdx {l : List α} {a : α} (h : a ∈ l) : ∃ i, (a, i) ∈ l.zipIdx := by
  obtain ⟨i, hi⟩ := List.mem_iff_getElem?.1 h
  exact ⟨i, mem_zipIdx_iff.2 hi⟩

/-- What is asked of members alone does not depend on their places. -/
theorem forall_zipIdx_iff {P : α → Prop} {l : List α} :
    (∀ p ∈ l.zipIdx, P p.1) ↔ ∀ a ∈ l, P a := by
  constructor
  · intro h a ha
    obtain ⟨i, hi⟩ := exists_mem_zipIdx ha
    exact h (a, i) hi
  · intro h p hp
    exact h p.1 (List.fst_mem_of_mem_zipIdx hp)

theorem exists_findIdx?_lt_iff {p : α → Bool} {l : List α} {j : Nat} :
    (∃ i, l.findIdx? p = some i ∧ i < j) ↔ ∃ a ∈ l.take j, p a = true := by
  simp only [List.findIdx?_eq_some_iff_getElem, List.mem_take_iff_getElem]
  constructor
  · intro h
    obtain ⟨i, ⟨hi, hp, -⟩, hij⟩ := h
    exact ⟨l[i], ⟨i, by omega, rfl⟩, hp⟩
  · intro h
    obtain ⟨_, ⟨i, hi, rfl⟩, hp⟩ := h
    have hlen : i < l.length := by omega
    have hany : ∃ i, ∃ h : i < l.length, p l[i] = true := ⟨i, hlen, hp⟩
    -- the first such place is at most the one that is known
    classical
    have hspec := Nat.find_spec hany
    refine ⟨Nat.find hany, ⟨hspec.1, hspec.2, fun k hk hpk => ?_⟩, ?_⟩
    · exact Nat.find_min hany hk ⟨Nat.lt_trans hk hspec.1, hpk⟩
    · exact lt_of_le_of_lt (Nat.find_min' hany ⟨hlen, hp⟩) (by omega)

/-- A relation holds between any two members in order exactly if it holds between each member and
all that stand before it. -/
theorem pairwise_iff_zipIdx {R : α → α → Prop} {l : List α} :
    l.Pairwise R ↔ ∀ p ∈ l.zipIdx, ∀ a ∈ l.take p.2, R a p.1 := by
  simp only [Prod.forall, mem_zipIdx_iff, List.mem_take_iff_getElem, List.pairwise_iff_getElem]
  constructor
  · intro h b j hb a ha
    obtain ⟨i, hi, rfl⟩ := ha
    obtain ⟨hj, rfl⟩ := List.getElem?_eq_some_iff.1 hb
    exact h i j _ hj (by omega)
  · intro h i j hi hj hij
    exact h _ j (List.getElem?_eq_getElem hj) _ ⟨i, by omega, rfl⟩

/-- The member at this place has the key of an earlier one. -/
def repeats {κ : Type} [DecidableEq κ] (key : α → Option κ) (l : List α) (p : α × Nat) : Bool :=
  (key p.1).isSome && (l.take p.2).any fun a => key a == key p.1

/-- Members that repeat a key and distinct keys make up all members with a key, so the former are
as many in whatever order the list stands. -/
theorem countP_repeats {κ : Type} [DecidableEq κ] (key : α → Option κ) (l : List α) :
    l.zipIdx.countP (repeats key l) + (l.filterMap key).toFinset.card = (l.filterMap key).length := by
  -- from the end, since what a member repeats stands before it
  induction l using List.reverseRecOn with
  | nil => simp
  | append_singleton l a ih =>
    have hfront : l.zipIdx.countP (repeats key (l ++ [a])) = l.zipIdx.countP (repeats key l) := by
      apply List.countP_congr
      intro p hp
      have hi : p.2 < l.length := (List.getElem?_eq_some_iff.1 (mem_zipIdx_iff.1 hp)).1
      rw [repeats, repeats, List.take_append_of_le_length (by omega)]
    rw [List.zipIdx_append, List.countP_append, hfront, List.filterMap_append, List.length_append,
      List.toFinset_append]
    cases hk : key a with
    | none => simp [repeats, hk, ← ih]
    | some k =>
      have hmem : repeats key (l ++ [a]) (a, l.length) = true ↔ k ∈ l.filterMap key := by
        simp [repeats, hk, List.mem_filterMap]
      by_cases hin : k ∈ l.filterMap key
      · have hcard : (insert k (l.filterMap key).toFinset).card = (l.filterMap key).toFinset.card := by
          rw [Finset.insert_eq_self.2 (List.mem_toFinset.2 hin)]
        simp [hk, hmem.2 hin, hcard]
        omega
      · have hcard : (insert k (l.filterMap key).toFinset).card =
            (l.filterMap key).toFinset.card + 1 :=
          Finset.card_insert_of_notMem (mt List.mem_toFinset.1 hin)
        simp [hk, mt hmem.1 hin, hcard]
        omega

end ChatPlan

namespace ChatPlan

/-! ## Stable sorting -/

section Sorting

variable {α : Type} {le : α → α → Bool}

/-- The order does not tell the two apart. -/
def tied (le : α → α → Bool) (a b : α) : Bool := le a b && le b a

theorem tied_iff {a b : α} : tied le a b = true ↔ le a b = true ∧ le b a = true := by
  simp only [tied, Bool.and_eq_true]

/-- Sorting does not move the members of a class past each other. -/
theorem filter_mergeSort (trans : ∀ a b c, le a b → le b c → le a c)
    (total : ∀ a b, le a b || le b a) {p : α → Bool} (same : ∀ a b, p a → p b → le a b)
    (l : List α) : (l.mergeSort le).filter p = l.filter p := by
  have hp : (l.filter p).Pairwise fun a b => le a b := by
    rw [List.pairwise_iff_forall_sublist]
    intro a b hs
    exact same a b (List.mem_filter.1 (hs.subset (by simp))).2
      (List.mem_filter.1 (hs.subset (by simp))).2
  -- stability is what keeps the class in its order; counting then leaves room for nothing else
  have hsub : (l.filter p).Sublist (l.mergeSort le) :=
    List.sublist_mergeSort trans total hp List.filter_sublist
  have hsub' : (l.filter p).Sublist ((l.mergeSort le).filter p) := by
    have := hsub.filter p
    rwa [List.filter_filter, List.filter_congr (q := p) (by simp)] at this
  have hlen : (l.filter p).length = ((l.mergeSort le).filter p).length :=
    (((List.mergeSort_perm l le).filter p).length_eq).symm
  exact (hsub'.eq_of_length hlen).symm

/-- A sorted list is made of its classes. -/
theorem eq_of_filter_tied (refl : ∀ a, le a a) {l l' : List α} (hl : l.Pairwise fun a b => le a b)
    (hl' : l'.Pairwise fun a b => le a b)
    (h : ∀ a, l.filter (tied le a) = l'.filter (tied le a)) : l = l' := by
  have self (a : α) : tied le a a = true := tied_iff.2 ⟨refl a, refl a⟩
  have mem (a : α) : a ∈ l ↔ a ∈ l' := by
    have := congrArg (a ∈ ·) (h a)
    simpa [List.mem_filter, self a] using this
  induction l generalizing l' with
  | nil =>
    cases l' with
    | nil => rfl
    | cons b l' => simpa using (mem b).2 List.mem_cons_self
  | cons a l ih =>
    cases l' with
    | nil => simpa using (mem a).1 List.mem_cons_self
    | cons b l' =>
      -- both heads are least, so they are tied, and heads of one class
      have hab : le a b := by
        rcases List.mem_cons.1 ((mem b).2 List.mem_cons_self) with rfl | hb
        · exact refl _
        · exact List.rel_of_pairwise_cons hl hb
      have hba : le b a := by
        rcases List.mem_cons.1 ((mem a).1 List.mem_cons_self) with rfl | ha
        · exact refl _
        · exact List.rel_of_pairwise_cons hl' ha
      obtain rfl : a = b := by
        have := h a
        rw [List.filter_cons_of_pos (self a), List.filter_cons_of_pos (tied_iff.2 ⟨hab, hba⟩)] at this
        exact (List.cons.inj this).1
      -- taking the head away takes it from the same classes of both
      have htail (c : α) : l.filter (tied le c) = l'.filter (tied le c) := by
        have hc := h c
        rw [List.filter_cons, List.filter_cons] at hc
        split at hc
        · exact (List.cons.inj hc).2
        · exact hc
      have hmem (c : α) : c ∈ l ↔ c ∈ l' := by
        have := congrArg (c ∈ ·) (htail c)
        simpa [List.mem_filter, self c] using this
      rw [ih hl.of_cons hl'.of_cons htail hmem]

/-- Two lists sort to the same list exactly if each class reads the same in both. -/
theorem mergeSort_eq_iff (trans : ∀ a b c, le a b → le b c → le a c)
    (total : ∀ a b, le a b || le b a) {l l' : List α} :
    l.mergeSort le = l'.mergeSort le ↔ ∀ a, l.filter (tied le a) = l'.filter (tied le a) := by
  have refl (a : α) : le a a := by simpa using total a a
  have class_tied (a b c : α) (hb : tied le a b) (hc : tied le a c) : le b c :=
    trans b a c (tied_iff.1 hb).2 (tied_iff.1 hc).1
  constructor
  · intro h a
    rw [← filter_mergeSort trans total (class_tied a) l, h,
      filter_mergeSort trans total (class_tied a) l']
  · intro h
    apply eq_of_filter_tied refl (List.pairwise_mergeSort trans total l)
      (List.pairwise_mergeSort trans total l')
    intro a
    rw [filter_mergeSort trans total (class_tied a), filter_mergeSort trans total (class_tied a), h a]

/-- Where no two members share a key, there is no class in which the order could differ. -/
theorem filter_key_eq_of_perm {κ : Type} [BEq κ] [LawfulBEq κ] {key : α → κ} {l l' : List α}
    (h : l.Perm l') (hl : (l.map key).Nodup) (k : κ) :
    l.filter (key · == k) = l'.filter (key · == k) := by
  have hperm : (l.filter (key · == k)).Perm (l'.filter (key · == k)) := h.filter _
  have hcount : (l.filter (key · == k)).length ≤ 1 := by
    have hle := List.nodup_iff_count_le_one.1 hl k
    rwa [List.count, List.countP_map, List.countP_eq_length_filter] at hle
  -- at most one member has the key, and a list that short has one order
  generalize l.filter (key · == k) = m at hperm hcount
  match m with
  | [] => exact (List.nil_perm.1 hperm).symm
  | [a] => exact List.singleton_perm.1 hperm
  | a :: b :: m => simp at hcount

end Sorting

end ChatPlan
