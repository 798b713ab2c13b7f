import ChatPlan.Classifier.Phrases
import ChatPlan.Proofs.Text.Lowercase
import ChatPlan.Proofs.Text.Spacing

/-
Normal forms of texts. Each step of a normalizer leaves a text on which it has nothing more to do,
and no later step gives work back to an earlier one. So a normalized text is normal
(`Normalizer.isNormal_apply`), a normal text stays as it is, and a phrase test does not see whether
what it compares has been normalized before (`normalized_texts_match_alike`).
-/
namespace ChatPlan

namespace Text

variable {c : Char} {cs : List Char}

/-! ## Accents -/

/-- The character is built on another letter. -/
def isAccented (c : Char) : Bool := accentGroups.any (·.1.contains c)

/-- A letter on which others are built has no accent, neither it nor they are blanks, and only
capitals are built on a capital. -/
theorem accentGroups_plain : (accentGroups.all fun g => !isAccented g.2 && !isBlank g.2 &&
    g.1.all (!isBlank ·) && (!isCapital g.2 || g.1.all isCapital)) = true := by
  decide +kernel

theorem withoutAccent_cases (c : Char) :
    (∃ g ∈ accentGroups, c ∈ g.1 ∧ withoutAccent c = g.2) ∨
      isAccented c = false ∧ withoutAccent c = c := by
  rw [withoutAccent]
  cases hfind : accentGroups.find? (·.1.contains c) with
  | some g =>
    have hc := List.find?_some (p := fun g : List Char × Char => g.1.contains c) hfind
    exact .inl ⟨g, List.mem_of_find?_eq_some hfind, List.contains_iff_mem.1 hc, rfl⟩
  | none => exact .inr ⟨List.any_eq_false.2 (List.find?_eq_none.1 hfind), rfl⟩

theorem withoutAccent_eq_self (h : isAccented c = false) : withoutAccent c = c := by
  rcases withoutAccent_cases c with ⟨g, hg, hc, -⟩ | ⟨-, heq⟩
  · exact absurd (List.contains_iff_mem.2 hc) (List.any_eq_false.1 h g hg)
  · exact heq

theorem not_isAccented_withoutAccent (c : Char) : isAccented (withoutAccent c) = false := by
  rcases withoutAccent_cases c with ⟨g, hg, -, heq⟩ | ⟨h, heq⟩
  · have hplain := List.all_eq_true.1 accentGroups_plain g hg
    simp only [Bool.and_eq_true, Bool.not_eq_true'] at hplain
    rw [heq]
    exact hplain.1.1.1
  · rwa [heq]

theorem isBlank_withoutAccent (c : Char) : isBlank (withoutAccent c) = isBlank c := by
  rcases withoutAccent_cases c with ⟨g, hg, hc, heq⟩ | ⟨-, heq⟩
  · have hplain := List.all_eq_true.1 accentGroups_plain g hg
    simp only [Bool.and_eq_true, Bool.not_eq_true', List.all_eq_true] at hplain
    rw [heq, hplain.1.1.2, hplain.1.2 c hc]
  · rw [heq]

theorem withoutAccent_of_isBlank (h : isBlank c = true) : withoutAccent c = c := by
  rcases withoutAccent_cases c with ⟨g, hg, hc, -⟩ | ⟨-, heq⟩
  · have hplain := List.all_eq_true.1 accentGroups_plain g hg
    simp only [Bool.and_eq_true, Bool.not_eq_true', List.all_eq_true] at hplain
    rw [hplain.1.2 c hc] at h
    cases h
  · exact heq

theorem not_isCapital_withoutAccent (h : isCapital c = false) :
    isCapital (withoutAccent c) = false := by
  rcases withoutAccent_cases c with ⟨g, hg, hc, heq⟩ | ⟨-, heq⟩
  · have hplain := List.all_eq_true.1 accentGroups_plain g hg
    simp only [Bool.and_eq_true, Bool.or_eq_true, Bool.not_eq_true', List.all_eq_true] at hplain
    rw [heq]
    rcases hplain.2 with hbase | hcapitals
    · exact hbase
    · rw [hcapitals c hc] at h
      cases h
  · rwa [heq]

/-- The text has no accented letters. -/
def IsPlain (cs : List Char) : Prop := ∀ c ∈ cs, isAccented c = false

theorem isPlain_withoutAccents (cs : List Char) : IsPlain (cs.map withoutAccent) := by
  intro x hx
  obtain ⟨c, -, rfl⟩ := List.mem_map.1 hx
  exact not_isAccented_withoutAccent c

theorem IsPlain.map_withoutAccent (h : IsPlain cs) : cs.map withoutAccent = cs := by
  conv_rhs => rw [← List.map_id cs]
  exact List.map_congr_left fun c hc => withoutAccent_eq_self (h c hc)

theorem InLowerCase.map_withoutAccent (h : InLowerCase cs) :
    InLowerCase (cs.map withoutAccent) := by
  intro x hx
  obtain ⟨c, hc, rfl⟩ := List.mem_map.1 hx
  exact not_isCapital_withoutAccent (h c hc)

/-! ## Blanks that stay -/

theorem sameBlanks_lowerFrom (before cs : List Char) : SameBlanks cs (lowerFrom before cs) := by
  induction cs generalizing before with
  | nil => exact .nil
  | cons c cs ih =>
    obtain ⟨p, hp, heq⟩ := lowerFrom_cons before c cs
    rw [heq]
    cases hc : isBlank c with
    | true =>
      rw [hp.eq_of_not_isCapital (not_isCapital_of_isBlank hc)]
      exact .blank hc (ih _)
    | false => exact .word hc hp.ne_nil (hp.not_isBlank hc) (ih _)

theorem sameBlanks_withoutAccents (cs : List Char) : SameBlanks cs (cs.map withoutAccent) := by
  induction cs with
  | nil => exact .nil
  | cons c cs ih =>
    rw [List.map_cons]
    cases hc : isBlank c with
    | true =>
      rw [withoutAccent_of_isBlank hc]
      exact .blank hc ih
    | false =>
      refine .word hc (List.cons_ne_nil _ []) (fun x hx => ?_) ih
      rw [List.mem_singleton.1 hx, isBlank_withoutAccent, hc]

end Text

namespace Normalizer

variable {n : Normalizer} {cs : List Char}

/-- The normalizer has nothing to do on the text. -/
structure IsNormal (n : Normalizer) (cs : List Char) : Prop where
  trimmed : n.trims = true → Text.IsTrimmed cs
  collapsed : n.collapses = true → Text.IsCollapsed cs
  lower : n.lowers = true → Text.InLowerCase cs
  plain : n.foldsAccents = true → Text.IsPlain cs

/-! ## Steps -/

section Steps

variable {on : Bool} {f : List Char → List Char} {P : List Char → Prop}

theorem stepIf_eq_self (h : on = true → f cs = cs) : stepIf on f cs = cs := by
  rw [stepIf]
  split
  · exact h ‹_›
  · rfl

/-- What a step brings about holds once it has been taken. -/
theorem stepIf_brings (hf : ∀ cs, P (f cs)) (hon : on = true) : P (stepIf on f cs) := by
  rw [stepIf, if_pos hon]
  exact hf cs

/-- What a step keeps holds whether or not it is taken. -/
theorem stepIf_keeps (hf : P cs → P (f cs)) (h : P cs) : P (stepIf on f cs) := by
  rw [stepIf]
  split
  · exact hf h
  · exact h

end Steps

/-- Every step leaves nothing to do for itself, and keeps what the steps before it have brought
about. -/
theorem isNormal_apply (n : Normalizer) (cs : List Char) : n.IsNormal (n.apply cs) where
  trimmed hon := by
    refine stepIf_keeps (Text.sameBlanks_withoutAccents _).isTrimmed ?_
    refine stepIf_keeps (Text.sameBlanks_lowerFrom [] _).isTrimmed ?_
    exact stepIf_keeps Text.IsTrimmed.collapse (stepIf_brings Text.isTrimmed_trim hon)
  collapsed hon := by
    refine stepIf_keeps (Text.sameBlanks_withoutAccents _).isCollapsed ?_
    refine stepIf_keeps (Text.sameBlanks_lowerFrom [] _).isCollapsed ?_
    exact stepIf_brings Text.isCollapsed_collapse hon
  lower hon := by
    refine stepIf_keeps Text.InLowerCase.map_withoutAccent ?_
    exact stepIf_brings Text.inLowerCase_lower hon
  plain hon := stepIf_brings Text.isPlain_withoutAccents hon

theorem apply_eq_self (h : n.IsNormal cs) : n.apply cs = cs := by
  have htrim : stepIf n.trims Text.trim cs = cs :=
    stepIf_eq_self fun hon => Text.trim_eq_self_iff.2 (h.trimmed hon)
  have hcollapse : stepIf n.collapses Text.collapse cs = cs :=
    stepIf_eq_self fun hon => Text.collapse_eq_self_iff.2 (h.collapsed hon)
  have hlower : stepIf n.lowers Text.lower cs = cs :=
    stepIf_eq_self fun hon => Text.lower_eq_self_iff.2 (h.lower hon)
  have hplain : stepIf n.foldsAccents (List.map Text.withoutAccent) cs = cs :=
    stepIf_eq_self fun hon => (h.plain hon).map_withoutAccent
  rw [Normalizer.apply, htrim, hcollapse, hlower, hplain]

theorem apply_apply (n : Normalizer) (cs : List Char) : n.apply (n.apply cs) = n.apply cs :=
  apply_eq_self (n.isNormal_apply cs)

-- the dotted capital becomes two characters, and the last sigma takes its final form
example : Normalizer.all.apply "  İΣ   ÇA\t".toList = "i\u0307ς ca".toList := by decide +kernel

theorem toList_applied (n : Normalizer) (s : String) : (n.applied s).toList = n.apply s.toList :=
  String.toList_ofList

end Normalizer

namespace PhraseTest

theorem prepare_applied (n : Normalizer) (caseSensitive : Bool) (s : String) :
    prepare n caseSensitive (n.applied s) = prepare n caseSensitive s := by
  rw [prepare, n.toList_applied, n.apply_apply, prepare]

theorem holdsBy_eq (near : List Char → List Char → Bool) (n : Normalizer) (t : PhraseTest)
    (text : String) : t.holdsBy near n text =
      (t.phrases.map (prepare n t.caseSensitive)).any
        (t.strategy.holds near (prepare n t.caseSensitive text)) := by
  rw [List.any_map]
  rfl

/-- The test with some of its phrases normalized: those at the places that are picked. -/
def withNormalized (n : Normalizer) (picked : Nat → Bool) (t : PhraseTest) : PhraseTest :=
  { t with phrases := t.phrases.mapIdx fun i p => if picked i then n.applied p else p }

theorem map_prepare_withNormalized (n : Normalizer) (picked : Nat → Bool) (t : PhraseTest) :
    (t.withNormalized n picked).phrases.map (prepare n t.caseSensitive) =
      t.phrases.map (prepare n t.caseSensitive) := by
  apply List.ext_getElem
  · simp [withNormalized]
  · intro i _ _
    simp only [withNormalized, List.getElem_map, List.getElem_mapIdx]
    split
    · rw [prepare_applied]
    · rfl

end PhraseTest

/-- A normalized text is normal, and to normalize it again changes nothing. So a phrase test gives
the same answer whether or not the text, and any of the phrases, has been normalized before. -/
theorem normalized_texts_match_alike (n : Normalizer) :
    (∀ s, n.IsNormal (n.applied s).toList ∧ n.applied (n.applied s) = n.applied s) ∧
      ∀ (t : PhraseTest) (text : String) (picked : Nat → Bool),
        t.holds n (n.applied text) = t.holds n text ∧
          (t.withNormalized n picked).holds n text = t.holds n text := by
  refine ⟨fun s => ⟨?_, ?_⟩, fun t text picked => ⟨?_, ?_⟩⟩
  · rw [n.toList_applied]
    exact n.isNormal_apply _
  · rw [Normalizer.applied, n.toList_applied, n.apply_apply, Normalizer.applied]
  · rw [PhraseTest.holds, PhraseTest.holds, PhraseTest.holdsBy_eq, PhraseTest.prepare_applied,
      ← PhraseTest.holdsBy_eq]
  · have hcase : (t.withNormalized n picked).caseSensitive = t.caseSensitive := rfl
    rw [PhraseTest.holds, PhraseTest.holds, PhraseTest.holdsBy_eq, PhraseTest.holdsBy_eq, hcase,
      PhraseTest.map_prepare_withNormalized]
    rfl

end ChatPlan
