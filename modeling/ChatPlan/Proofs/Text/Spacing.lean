import ChatPlan.Classifier.Normalizer
import ChatPlan.Proofs.Text.Basic
import Mathlib.Data.List.Chain

/-
Blanks in a text. A trimmed text has none at its ends, and in a collapsed text each of them is a
single space. Both stay so where the other characters are written in another way (`SameBlanks`), and
collapsing leaves a trimmed text trimmed.
-/
namespace ChatPlan.Text

variable {c : Char} {cs cs' p : List Char}

/-- No blank stands at either end. -/
def IsTrimmed (cs : List Char) : Prop :=
  (∀ c ∈ cs.head?, isBlank c = false) ∧ ∀ c ∈ cs.getLast?, isBlank c = false

/-- Every blank is a space, and no two of them stand together. -/
def IsCollapsed (cs : List Char) : Prop :=
  (∀ c ∈ cs, isBlank c = true → c = ' ') ∧
    cs.IsChain fun a b => isBlank a = false ∨ isBlank b = false

/-! ## Trimming -/

theorem isTrimmed_trim (cs : List Char) : IsTrimmed (trim cs) := by
  refine ⟨fun c hc => ?_, fun c hc => isBlank_of_getLast?_trim hc⟩
  have hdropped : (cs.dropWhile isBlank).head? = some c := by
    obtain ⟨rest, hrest⟩ := List.rdropWhile_prefix isBlank (cs.dropWhile isBlank)
    rw [← hrest, ← trim_eq, List.head?_append, hc, Option.some_or]
  have hfirst := List.head?_dropWhile_not isBlank cs
  rw [hdropped] at hfirst
  exact hfirst

theorem trim_eq_self_iff : trim cs = cs ↔ IsTrimmed cs := by
  constructor
  · intro h
    rw [← h]
    exact isTrimmed_trim cs
  · intro h
    exact trim_eq_self h.1 h.2

/-! ## Collapsing -/

theorem isCollapsed_cons : IsCollapsed (c :: cs) ↔ (isBlank c = true → c = ' ') ∧
    (∀ b ∈ cs.head?, isBlank c = false ∨ isBlank b = false) ∧ IsCollapsed cs := by
  simp only [IsCollapsed, List.forall_mem_cons, List.isChain_cons]
  tauto

/-- A run of blanks becomes one space, so no blank comes first where a run has begun. -/
theorem isCollapsed_collapseFrom (inRun : Bool) (cs : List Char) :
    IsCollapsed (collapseFrom inRun cs) ∧
      (inRun = true → ∀ b ∈ (collapseFrom inRun cs).head?, isBlank b = false) := by
  induction cs generalizing inRun with
  | nil => exact ⟨⟨nofun, .nil⟩, nofun⟩
  | cons c cs ih =>
    rw [collapseFrom]
    obtain ⟨hrest, hfirst⟩ := ih true
    cases hc : isBlank c with
    | true =>
      cases inRun with
      | true => exact ⟨hrest, hfirst⟩
      | false =>
        refine ⟨isCollapsed_cons.2 ⟨fun _ => rfl, fun b hb => ?_, hrest⟩, nofun⟩
        exact .inr (hfirst rfl b hb)
    | false =>
      have hword : ∀ b ∈ (c :: collapseFrom false cs).head?, isBlank b = false := by
        rintro b ⟨⟩
        exact hc
      refine ⟨isCollapsed_cons.2 ⟨fun h => ?_, fun _ _ => .inl hc, (ih false).1⟩, fun _ => hword⟩
      rw [hc] at h
      cases h

theorem collapseFrom_eq_self {inRun : Bool} (h : IsCollapsed cs)
    (hfirst : inRun = true → ∀ b ∈ cs.head?, isBlank b = false) : collapseFrom inRun cs = cs := by
  induction cs generalizing inRun with
  | nil => rfl
  | cons c cs ih =>
    obtain ⟨hspace, hnext, hcs⟩ := isCollapsed_cons.1 h
    rw [collapseFrom]
    cases hc : isBlank c with
    | true =>
      cases inRun with
      | true =>
        rw [hfirst rfl c rfl] at hc
        cases hc
      | false =>
        have hrest : ∀ b ∈ cs.head?, isBlank b = false := by simpa [hc] using hnext
        simp [ih hcs fun _ => hrest, hspace hc]
    | false =>
      have hrest : collapseFrom false cs = cs := ih hcs nofun
      simp [hrest]

theorem isCollapsed_append (hp : ∀ x ∈ p, isBlank x = false) (h : IsCollapsed cs) :
    IsCollapsed (p ++ cs) := by
  induction p with
  | nil => exact h
  | cons x p ih =>
    obtain ⟨hx, hp⟩ := List.forall_mem_cons.1 hp
    exact isCollapsed_cons.2 ⟨by simp [hx], fun _ _ => .inl hx, ih hp⟩

theorem isCollapsed_collapse (cs : List Char) : IsCollapsed (collapse cs) :=
  (isCollapsed_collapseFrom false cs).1

theorem collapse_eq_self_iff : collapse cs = cs ↔ IsCollapsed cs := by
  constructor
  · intro h
    rw [← h]
    exact isCollapsed_collapse cs
  · intro h
    exact collapseFrom_eq_self h nofun

/-- Collapsing goes through a text from left to right, and keeps only whether a run has begun. -/
theorem collapseFrom_append (inRun : Bool) (a b : List Char) :
    ∃ inRun', collapseFrom inRun (a ++ b) = collapseFrom inRun a ++ collapseFrom inRun' b := by
  induction a generalizing inRun with
  | nil => exact ⟨inRun, rfl⟩
  | cons c a ih =>
    rw [List.cons_append, collapseFrom, collapseFrom]
    split
    · obtain ⟨inRun', heq⟩ := ih true
      refine ⟨inRun', ?_⟩
      rw [heq]
      split <;> rfl
    · obtain ⟨inRun', heq⟩ := ih false
      exact ⟨inRun', by rw [heq, List.cons_append]⟩

theorem collapseFrom_cons_of_not_blank (inRun : Bool) (hc : isBlank c = false) (cs : List Char) :
    collapseFrom inRun (c :: cs) = c :: collapseFrom false cs := by
  rw [collapseFrom, if_neg (by simp [hc])]

theorem IsTrimmed.collapse (h : IsTrimmed cs) : IsTrimmed (collapse cs) := by
  obtain ⟨hfirst, hlast⟩ := h
  constructor
  · cases cs with
    | nil => exact nofun
    | cons c cs =>
      have hc : isBlank c = false := hfirst c rfl
      rw [Text.collapse, collapseFrom_cons_of_not_blank false hc]
      rintro b ⟨⟩
      exact hc
  · rcases List.eq_nil_or_concat cs with rfl | ⟨front, c, rfl⟩
    · exact nofun
    · have hc : isBlank c = false := hlast c (by simp)
      obtain ⟨inRun, heq⟩ := collapseFrom_append false front [c]
      rw [List.concat_eq_append, Text.collapse, heq, collapseFrom_cons_of_not_blank inRun hc]
      intro b hb
      obtain rfl : c = b := by simpa [collapseFrom] using hb
      exact hc

/-! ## Other characters -/

/-- The blanks of the first text stand in the second, and something that is not blank stands in
place of each other character. -/
inductive SameBlanks : List Char → List Char → Prop
  | nil : SameBlanks [] []
  | blank {c : Char} {cs cs' : List Char} : isBlank c = true → SameBlanks cs cs' →
      SameBlanks (c :: cs) (c :: cs')
  | word {c : Char} {p cs cs' : List Char} : isBlank c = false → p ≠ [] →
      (∀ x ∈ p, isBlank x = false) → SameBlanks cs cs' → SameBlanks (c :: cs) (p ++ cs')

namespace SameBlanks

variable {a a' b b' : List Char}

theorem append (ha : SameBlanks a a') (hb : SameBlanks b b') : SameBlanks (a ++ b) (a' ++ b') := by
  induction ha with
  | nil => exact hb
  | blank hc _ ih => exact .blank hc ih
  | word hc hne hp _ ih =>
    rw [List.append_assoc]
    exact .word hc hne hp ih

theorem reverse (h : SameBlanks a a') : SameBlanks a.reverse a'.reverse := by
  induction h with
  | nil => exact .nil
  | blank hc _ ih =>
    rw [List.reverse_cons, List.reverse_cons]
    exact ih.append (.blank hc .nil)
  | @word c p cs cs' hc hne hp _ ih =>
    have hlast : SameBlanks [c] (p.reverse ++ []) :=
      .word hc (by simpa using hne) (fun x hx => hp x (List.mem_reverse.1 hx)) .nil
    rw [List.reverse_cons, List.reverse_append]
    exact ih.append (by simpa using hlast)

theorem head_not_blank (h : SameBlanks cs cs') (hcs : ∀ c ∈ cs.head?, isBlank c = false) :
    ∀ x ∈ cs'.head?, isBlank x = false := by
  cases h with
  | nil => exact hcs
  | blank hc _ => exact hcs
  | word hc hne hp _ =>
    obtain ⟨y, q, rfl⟩ := List.exists_cons_of_ne_nil hne
    rintro x ⟨⟩
    exact hp _ List.mem_cons_self

theorem isTrimmed (h : SameBlanks cs cs') (hcs : IsTrimmed cs) : IsTrimmed cs' := by
  obtain ⟨hfirst, hlast⟩ := hcs
  refine ⟨h.head_not_blank hfirst, ?_⟩
  rw [← List.head?_reverse] at hlast ⊢
  exact h.reverse.head_not_blank hlast

theorem isCollapsed (h : SameBlanks cs cs') (hcs : IsCollapsed cs) : IsCollapsed cs' := by
  induction h with
  | nil => exact hcs
  | blank hc h ih =>
    obtain ⟨hspace, hnext, hcs⟩ := isCollapsed_cons.1 hcs
    refine isCollapsed_cons.2 ⟨hspace, fun x hx => .inr ?_, ih hcs⟩
    exact h.head_not_blank (by simpa [hc] using hnext) x hx
  | word hc hne hp _ ih =>
    obtain ⟨-, -, hcs⟩ := isCollapsed_cons.1 hcs
    exact isCollapsed_append hp (ih hcs)

end SameBlanks

end ChatPlan.Text
