import ChatPlan.Text.Basic
import ChatPlan.Text.Case

/-
Lower case. A capital is a character that lower case changes, and no character is changed into a
capital, so a text in lower case stays as it is (`lower_eq_self_iff`). Blanks are no capitals, and
no capital is changed into a blank.
-/
namespace ChatPlan.Text

variable {c x : Char} {cs p : List Char}

/-! ## The table -/

/-- The capitals, as runs: those that the table moves, and the dotted capital I. -/
def capitalRuns : List Run := (0x130, 0x130, 1, 0) :: lowercaseRuns

/-- The character has another one for its lower case. -/
def isCapital (c : Char) : Bool := capitalRuns.any (·.covers c.toNat)

/-- The ends of the run are moved to characters with nothing but characters between them. -/
def Run.isSound (r : Run) : Bool :=
  0 ≤ r.1 + r.2.2.2 &&
    (r.move r.2.1 < 0xd800 || 0xdfff < r.move r.1 && r.move r.2.1 < 0x110000)

/-- What the first run moves gets to no code point of the second run: it comes to lie in front of it
or behind it, or both take every other code point, and never the same. -/
def Run.avoids (r s : Run) : Bool :=
  (r.move r.2.1).blt s.1 || s.2.1.blt (r.move r.1) ||
    (r.1 == r.2.1 || r.2.2.1 == 2) && s.2.2.1 == 2 && r.move r.1 % 2 != s.1 % 2

/-- Neither what the run moves lies in the range, nor where it gets to. -/
def Run.misses (r : Run) (range : Nat × Nat) : Bool :=
  (r.2.1 < range.1 || range.2 < r.1) && (r.move r.2.1 < range.1 || range.2 < r.move r.1)

theorem lowercaseRuns_sound : lowercaseRuns.all Run.isSound = true := by decide +kernel

theorem lowercaseRuns_avoid : (lowercaseRuns.all fun r => capitalRuns.all r.avoids) = true := by
  decide +kernel

theorem capitalRuns_miss : (capitalRuns.all fun r => blankRanges.all r.misses) = true := by
  decide +kernel

namespace Run

variable {r s : Run} {n : Nat}

theorem covers_iff : r.covers n = true ↔ r.1 ≤ n ∧ n ≤ r.2.1 ∧ (n - r.1) % r.2.2.1 = 0 := by
  simp only [covers, Bool.and_eq_true, decide_eq_true_eq, beq_iff_eq, and_assoc]

/-- What a run moves lies between the places to which it moves its ends. -/
theorem move_bounds (h : r.covers n = true) : r.move r.1 ≤ r.move n ∧ r.move n ≤ r.move r.2.1 := by
  obtain ⟨hlo, hhi, -⟩ := covers_iff.1 h
  simp only [move]
  omega

theorem toNat_move (hr : r.isSound = true) (h : r.covers n = true) :
    (Char.ofNat (r.move n)).toNat = r.move n := by
  have hvalid : (r.move n).isValidChar := by
    have hbounds := move_bounds h
    simp only [isSound, Bool.and_eq_true, Bool.or_eq_true, decide_eq_true_eq] at hr
    simp only [Nat.isValidChar]
    omega
  rw [Char.ofNat, dif_pos hvalid]
  rfl

theorem not_covers_move (hr : r.isSound = true) (hrs : r.avoids s = true) (h : r.covers n = true) :
    s.covers (r.move n) = false := by
  rw [Bool.eq_false_iff]
  intro hs
  have hbounds := move_bounds h
  obtain ⟨hlo, hhi, hstep⟩ := covers_iff.1 h
  obtain ⟨hlo', hhi', hstep'⟩ := covers_iff.1 hs
  simp only [avoids, Nat.blt_eq, Bool.or_eq_true, Bool.and_eq_true, beq_iff_eq, bne_iff_ne] at hrs
  rcases hrs with (hfront | hbehind) | ⟨⟨heven, htwo⟩, hparity⟩
  · omega
  · omega
  · -- both go in steps of two, from places of different parity
    simp only [isSound, Bool.and_eq_true, decide_eq_true_eq] at hr
    have hsame : (n - r.1) % 2 = 0 := by
      rcases heven with hone | htwo
      · omega
      · rw [← htwo, hstep]
    rw [htwo] at hstep'
    simp only [move] at hparity hlo' hstep'
    omega

end Run

theorem mapRuns_cases (table : List Run) (c : Char) :
    (∃ r ∈ table, r.covers c.toNat = true ∧ mapRuns table c = Char.ofNat (r.move c.toNat)) ∨
      (∀ r ∈ table, r.covers c.toNat = false) ∧ mapRuns table c = c := by
  rw [mapRuns]
  cases hfind : table.find? (·.covers c.toNat) with
  | some r => exact .inl ⟨r, List.mem_of_find?_eq_some hfind,
      List.find?_some (p := fun r : Run => r.covers c.toNat) hfind, rfl⟩
  | none => exact .inr ⟨fun r hr => Bool.eq_false_iff.2 (List.find?_eq_none.1 hfind r hr), rfl⟩

theorem isBlank_iff : isBlank c = true ↔ ∃ b ∈ blankRanges, b.1 ≤ c.toNat ∧ c.toNat ≤ b.2 := by
  simp only [isBlank, inRanges, List.any_eq_true, Bool.and_eq_true, decide_eq_true_eq]

/-! ## Characters -/

theorem isCapital_eq_false_iff :
    isCapital c = false ↔ c ≠ 'İ' ∧ ∀ r ∈ lowercaseRuns, r.covers c.toNat = false := by
  have hdotted : Run.covers (0x130, 0x130, 1, 0) c.toNat = true ↔ c = 'İ' := by
    rw [Run.covers_iff, Char.ext_iff, ← UInt32.toNat_inj]
    change 0x130 ≤ c.toNat ∧ c.toNat ≤ 0x130 ∧ (c.toNat - 0x130) % 1 = 0 ↔ c.toNat = 0x130
    omega
  rw [isCapital, capitalRuns, List.any_cons, Bool.or_eq_false_iff, List.any_eq_false,
    ← Bool.not_eq_true, hdotted]
  simp only [Bool.not_eq_true]

/-- The map of the table leads to no capital. -/
theorem not_isCapital_mapRuns (hc : c ≠ 'İ') : isCapital (mapRuns lowercaseRuns c) = false := by
  rcases mapRuns_cases lowercaseRuns c with ⟨r, hr, hcovers, hmap⟩ | ⟨hnone, hmap⟩
  · have hsound := List.all_eq_true.1 lowercaseRuns_sound r hr
    have havoids := List.all_eq_true.1 (List.all_eq_true.1 lowercaseRuns_avoid r hr)
    rw [hmap, isCapital, Run.toNat_move hsound hcovers, List.any_eq_false]
    intro s hs
    rw [Run.not_covers_move hsound (havoids s hs) hcovers]
    exact Bool.false_ne_true
  · rw [hmap]
    exact isCapital_eq_false_iff.2 ⟨hc, hnone⟩

theorem not_isCapital_of_isBlank (h : isBlank c = true) : isCapital c = false := by
  obtain ⟨b, hb, hlo, hhi⟩ := isBlank_iff.1 h
  rw [isCapital, List.any_eq_false]
  intro r hr hcovers
  have hmisses := List.all_eq_true.1 (List.all_eq_true.1 capitalRuns_miss r hr) b hb
  obtain ⟨hlo', hhi', -⟩ := Run.covers_iff.1 hcovers
  simp only [Run.misses, Bool.and_eq_true, Bool.or_eq_true, decide_eq_true_eq] at hmisses
  omega

theorem not_isBlank_mapRuns (hc : isBlank c = false) :
    isBlank (mapRuns lowercaseRuns c) = false := by
  rcases mapRuns_cases lowercaseRuns c with ⟨r, hr, hcovers, hmap⟩ | ⟨-, hmap⟩
  · have hsound := List.all_eq_true.1 lowercaseRuns_sound r hr
    rw [hmap, Bool.eq_false_iff, Ne, isBlank_iff, Run.toNat_move hsound hcovers]
    rintro ⟨b, hb, hlo, hhi⟩
    have hbounds := Run.move_bounds hcovers
    have hmisses := List.all_eq_true.1
      (List.all_eq_true.1 capitalRuns_miss r (List.mem_cons_of_mem _ hr)) b hb
    simp only [Run.misses, Bool.and_eq_true, Bool.or_eq_true, decide_eq_true_eq] at hmisses
    omega
  · rwa [hmap]

/-- What can stand for a character in the lower case of a text. -/
def IsLowerOf (c : Char) (p : List Char) : Prop :=
  p = lowerChar c ∨ c = 'Σ' ∧ (p = ['σ'] ∨ p = ['ς'])

theorem IsLowerOf.not_isCapital (h : IsLowerOf c p) : ∀ x ∈ p, isCapital x = false := by
  intro x hx
  rcases h with rfl | ⟨-, rfl | rfl⟩
  · rw [lowerChar] at hx
    split at hx
    · have hletters : ['i', '\u0307'].all (!isCapital ·) = true := by decide +kernel
      simpa using List.all_eq_true.1 hletters x hx
    · rename_i hdotted
      rw [List.mem_singleton.1 hx]
      exact not_isCapital_mapRuns hdotted
  · rw [List.mem_singleton.1 hx]
    decide +kernel
  · rw [List.mem_singleton.1 hx]
    decide +kernel

theorem IsLowerOf.eq_of_not_isCapital (h : IsLowerOf c p) (hc : isCapital c = false) : p = [c] := by
  rcases h with rfl | ⟨rfl, -⟩
  · obtain ⟨hdotted, hnone⟩ := isCapital_eq_false_iff.1 hc
    rw [lowerChar, if_neg hdotted]
    rcases mapRuns_cases lowercaseRuns c with ⟨r, hr, hcovers, -⟩ | ⟨-, hmap⟩
    · rw [hnone r hr] at hcovers
      cases hcovers
    · rw [hmap]
  · have hsigma : isCapital 'Σ' = true := by decide +kernel
    rw [hsigma] at hc
    cases hc

theorem IsLowerOf.ne_nil (h : IsLowerOf c p) : p ≠ [] := by
  rcases h with rfl | ⟨-, rfl | rfl⟩
  · rw [lowerChar]
    split <;> exact List.cons_ne_nil _ _
  · exact List.cons_ne_nil _ _
  · exact List.cons_ne_nil _ _

theorem IsLowerOf.not_isBlank (h : IsLowerOf c p) (hc : isBlank c = false) :
    ∀ x ∈ p, isBlank x = false := by
  intro x hx
  rcases h with rfl | ⟨-, rfl | rfl⟩
  · rw [lowerChar] at hx
    split at hx
    · have hletters : ['i', '\u0307'].all (!isBlank ·) = true := by decide
      simpa using List.all_eq_true.1 hletters x hx
    · rw [List.mem_singleton.1 hx]
      exact not_isBlank_mapRuns hc
  · rw [List.mem_singleton.1 hx]
    decide
  · rw [List.mem_singleton.1 hx]
    decide

/-! ## Texts -/

/-- The text has no capitals. -/
def InLowerCase (cs : List Char) : Prop := ∀ c ∈ cs, isCapital c = false

theorem isLowerOf_between (before after : List Char) (c : Char) :
    IsLowerOf c (if c = 'Σ' then [lowerSigma before after] else lowerChar c) := by
  split
  · rename_i hsigma
    refine .inr ⟨hsigma, ?_⟩
    rw [lowerSigma]
    split
    · exact .inr rfl
    · exact .inl rfl
  · exact .inl rfl

/-- Lower case puts something in place of each character. -/
theorem lowerFrom_cons (before : List Char) (c : Char) (cs : List Char) :
    ∃ p, IsLowerOf c p ∧ lowerFrom before (c :: cs) = p ++ lowerFrom (c :: before) cs :=
  ⟨_, isLowerOf_between before cs c, lowerFrom.eq_2 before c cs⟩

theorem inLowerCase_lowerFrom (before cs : List Char) : InLowerCase (lowerFrom before cs) := by
  induction cs generalizing before with
  | nil => exact nofun
  | cons c cs ih =>
    obtain ⟨p, hp, heq⟩ := lowerFrom_cons before c cs
    rw [heq]
    intro x hx
    rcases List.mem_append.1 hx with hx | hx
    · exact hp.not_isCapital x hx
    · exact ih (c :: before) x hx

theorem lowerFrom_eq_self (h : InLowerCase cs) (before : List Char) : lowerFrom before cs = cs := by
  induction cs generalizing before with
  | nil => rfl
  | cons c cs ih =>
    obtain ⟨hc, hcs⟩ := List.forall_mem_cons.1 h
    obtain ⟨p, hp, heq⟩ := lowerFrom_cons before c cs
    rw [heq, hp.eq_of_not_isCapital hc, ih hcs]
    rfl

theorem inLowerCase_lower (cs : List Char) : InLowerCase (lower cs) := inLowerCase_lowerFrom [] cs

theorem lower_eq_self_iff : lower cs = cs ↔ InLowerCase cs := by
  constructor
  · intro h
    rw [← h]
    exact inLowerCase_lower cs
  · intro h
    exact lowerFrom_eq_self h []

end ChatPlan.Text
