import ChatPlan.Proofs.Template.Segments
import ChatPlan.Proofs.Text.Sigma

/-
Phrases that stand in a text as they are. The steps on blanks can be taken last, for they do not see
how the other characters are written (`prepare_eq`), and they keep what stands at the start, at the
end or in the middle of a text (`SpacesOnly`). What remains is to put letters in place of letters,
and this changes a phrase within a text as it does alone, except for the form of its capital sigmas.
So a phrase that stands where the strategy looks for it matches, if no lower case is taken or these
forms agree, and where there is only one place to look at, no otherwise (`literal_phrases_match`).
-/
namespace ChatPlan

open Text

/-! ## Steps on blanks -/

/-- The step changes blanks, and looks at nothing else. -/
structure Text.SpacesOnly (f : List Char → List Char) : Prop where
  keepsParts : KeepsParts f
  map : ∀ {g}, KeepsBlanks g → ∀ cs, f (cs.map g) = (f cs).map g
  filter : ∀ {p : Char → Bool}, (∀ c, isBlank c = true → p c = false) →
    ∀ cs, (f cs).filter p = cs.filter p
  lower : ∀ cs, f (lower cs) = lower (f cs)

theorem Text.spacesOnly_trim : SpacesOnly trim :=
  ⟨keepsParts_trim, KeepsBlanks.trim_map, filter_trim, trim_lower⟩

theorem Text.spacesOnly_collapse : SpacesOnly collapse :=
  ⟨keepsParts_collapse, KeepsBlanks.collapse_map, filter_collapse, collapse_lower⟩

namespace Text.SpacesOnly

variable {f f' : List Char → List Char} {p q : List Char}

theorem comp (hf : SpacesOnly f) (hf' : SpacesOnly f') : SpacesOnly fun cs => f (f' cs) where
  keepsParts :=
    ⟨fun h => hf.keepsParts.start (hf'.keepsParts.start h),
      fun h => hf.keepsParts.ending (hf'.keepsParts.ending h)⟩
  map hg cs := by rw [hf'.map hg, hf.map hg]
  filter hp cs := by rw [hf.filter hp, hf'.filter hp]
  lower cs := by rw [hf'.lower, hf.lower]

theorem stepIf (hf : SpacesOnly f) (on : Bool) : SpacesOnly (Normalizer.stepIf on f) := by
  cases on with
  | true => exact hf
  | false => exact ⟨⟨id, id⟩, fun _ _ => rfl, fun _ _ => rfl, fun _ => rfl⟩

/-- Such a step does not make texts equal that differ in the forms of sigmas. -/
theorem eq_of_eq (hf : SpacesOnly f) (hmedial : p.map medial = q.map medial) (h : f p = f q) :
    p = q := by
  refine eq_of_sigmas hmedial ?_
  rw [← hf.filter not_isSmallSigma_of_isBlank p, h, hf.filter not_isSmallSigma_of_isBlank]

theorem length_eq (hf : SpacesOnly f) (hmedial : p.map medial = q.map medial) :
    (f p).length = (f q).length := by
  rw [← List.length_map medial, ← hf.map keepsBlanks_medial, hmedial, hf.map keepsBlanks_medial,
    List.length_map]

end Text.SpacesOnly

namespace Normalizer

variable {n : Normalizer} {caseSensitive : Bool} {a b cs p q : List Char}

/-- The text after the steps on blanks. -/
def spaced (n : Normalizer) (cs : List Char) : List Char :=
  stepIf n.collapses collapse (stepIf n.trims trim cs)

/-- The text after the step on accents. -/
def plain (n : Normalizer) (cs : List Char) : List Char :=
  stepIf n.foldsAccents (List.map withoutAccent) cs

/-- The text after all steps on letters. -/
def lettered (n : Normalizer) (caseSensitive : Bool) (cs : List Char) : List Char :=
  stepIf (!caseSensitive) lower (n.plain (stepIf n.lowers lower cs))

theorem spacesOnly_spaced (n : Normalizer) : SpacesOnly n.spaced :=
  (spacesOnly_collapse.stepIf n.collapses).comp (spacesOnly_trim.stepIf n.trims)

theorem plain_cases {P : (List Char → List Char) → Prop} (n : Normalizer)
    (hfolds : P (List.map withoutAccent)) (hidle : P id) : P n.plain := by
  unfold plain
  cases n.foldsAccents with
  | true => exact hfolds
  | false => exact hidle

/-- The steps on blanks can be taken before or after those on letters. -/
theorem lettered_spaced (n : Normalizer) (caseSensitive : Bool) (cs : List Char) :
    n.lettered caseSensitive (n.spaced cs) = n.spaced (n.lettered caseSensitive cs) := by
  have hspaces := n.spacesOnly_spaced
  have hplain : ∀ cs, n.plain (n.spaced cs) = n.spaced (n.plain cs) :=
    n.plain_cases (P := fun f => ∀ cs, f (n.spaced cs) = n.spaced (f cs))
      (fun cs => (hspaces.map keepsBlanks_withoutAccent cs).symm) fun _ => rfl
  have hlower : ∀ on cs, stepIf on lower (n.spaced cs) = n.spaced (stepIf on lower cs) := by
    intro on cs
    cases on with
    | true => exact (hspaces.lower cs).symm
    | false => rfl
  rw [lettered, lettered, hlower, hplain, hlower]

/-! ## Accents -/

theorem plain_nil (n : Normalizer) : n.plain [] = [] := stepIf_eq_self fun _ => rfl

theorem plain_append (n : Normalizer) (a b : List Char) :
    n.plain (a ++ b) = n.plain a ++ n.plain b :=
  n.plain_cases (P := fun f => f (a ++ b) = f a ++ f b) List.map_append rfl

theorem map_medial_plain (h : p.map medial = q.map medial) :
    (n.plain p).map medial = (n.plain q).map medial :=
  n.plain_cases (P := fun f => (f p).map medial = (f q).map medial) (map_medial_withoutAccents h) h

theorem filter_plain (n : Normalizer) (cs : List Char) :
    (n.plain cs).filter isSmallSigma = cs.filter isSmallSigma :=
  n.plain_cases (P := fun f => (f cs).filter isSmallSigma = cs.filter isSmallSigma)
    (filter_withoutAccents cs) rfl

theorem sigmasAgree_plain : SigmasAgree (n.plain a) (n.plain cs) (n.plain b) ↔
    SigmasAgree a cs b :=
  n.plain_cases (P := fun f => SigmasAgree (f a) (f cs) (f b) ↔ SigmasAgree a cs b)
    sigmasAgree_withoutAccents Iff.rfl

/-! ## Letters of a part -/

/-- What the steps on letters make of `cs` between two other parts of a text. -/
def letteredIn (n : Normalizer) (caseSensitive : Bool) (a cs b : List Char) : List Char :=
  if n.lowers then n.plain (lowerIn a.reverse b cs)
  else if caseSensitive then n.plain cs
  else lowerIn (n.plain a).reverse (n.plain b) (n.plain cs)

theorem lettered_of_lowers (h : n.lowers = true) (caseSensitive : Bool) (cs : List Char) :
    n.lettered caseSensitive cs = n.plain (lower cs) := by
  have hlower : InLowerCase (n.plain (lower cs)) :=
    stepIf_keeps InLowerCase.map_withoutAccent (inLowerCase_lower cs)
  rw [lettered, h]
  exact stepIf_eq_self fun _ => lower_eq_self_iff.2 hlower

theorem lower_append (a cs b : List Char) : lower (a ++ cs ++ b) =
    lowerIn [] (cs ++ b) a ++ lowerIn a.reverse b cs ++ lowerIn (a ++ cs).reverse [] b := by
  rw [lower, List.append_assoc, lowerFrom_append, lowerFrom_append, lowerFrom_eq_lowerIn,
    List.append_nil, List.reverse_append, List.append_assoc]

theorem letteredIn_nil (n : Normalizer) (caseSensitive : Bool) (a b : List Char) :
    n.letteredIn caseSensitive a [] b = [] := by
  simp only [letteredIn, lowerIn, plain_nil, ite_self]

theorem lettered_append (n : Normalizer) (caseSensitive : Bool) (a cs b : List Char) :
    n.lettered caseSensitive (a ++ cs ++ b) = n.letteredIn caseSensitive [] a (cs ++ b) ++
      n.letteredIn caseSensitive a cs b ++ n.letteredIn caseSensitive (a ++ cs) b [] := by
  unfold letteredIn
  cases hlowers : n.lowers with
  | true =>
    rw [lettered_of_lowers hlowers, lower_append, plain_append, plain_append]
    rfl
  | false =>
    rw [lettered, hlowers]
    cases caseSensitive with
    | true =>
      change n.plain (a ++ cs ++ b) = n.plain a ++ n.plain cs ++ n.plain b
      rw [plain_append, plain_append]
    | false =>
      change lower (n.plain (a ++ cs ++ b)) = _
      rw [plain_append, plain_append, lower_append, ← plain_append, ← plain_append]
      simp only [plain_nil, List.reverse_nil, Bool.false_eq_true, if_false]

theorem lettered_eq_letteredIn (n : Normalizer) (caseSensitive : Bool) (cs : List Char) :
    n.lettered caseSensitive cs = n.letteredIn caseSensitive [] cs [] := by
  have happend := n.lettered_append caseSensitive [] cs []
  simpa only [letteredIn_nil, List.nil_append, List.append_nil] using happend

/-- Within a text and alone, a part gets the same letters but for the forms of sigmas. -/
theorem map_medial_letteredIn (n : Normalizer) (caseSensitive : Bool) (a cs b : List Char) :
    (n.letteredIn caseSensitive a cs b).map medial = (n.lettered caseSensitive cs).map medial := by
  rw [lettered_eq_letteredIn, letteredIn, letteredIn]
  cases n.lowers with
  | true => exact map_medial_plain (map_medial_lowerIn _ _ _ _ cs)
  | false =>
    cases caseSensitive with
    | true => rfl
    | false => exact map_medial_lowerIn _ _ _ _ _

/-- A part gets the same letters within a text and alone exactly if its sigmas have the same forms, or
no lower case is taken. -/
theorem letteredIn_eq_iff : n.letteredIn caseSensitive a cs b = n.lettered caseSensitive cs ↔
    (n.lowers = true ∨ caseSensitive = false → SigmasAgree a cs b) := by
  cases hlowers : n.lowers with
  | true =>
    rw [lettered_of_lowers hlowers, letteredIn, hlowers, if_pos rfl, ← lowerIn_eq_lower_iff]
    constructor
    · intro h _
      refine eq_of_sigmas ?_ ?_
      · rw [lower, lowerFrom_eq_lowerIn]
        exact map_medial_lowerIn _ _ _ _ cs
      · rw [← n.filter_plain, h, n.filter_plain]
    · intro h
      rw [h (.inl rfl)]
  | false =>
    rw [lettered, letteredIn, hlowers]
    cases caseSensitive with
    | true => exact iff_of_true rfl (by simp)
    | false =>
      change lowerIn (n.plain a).reverse (n.plain b) (n.plain cs) = lower (n.plain cs) ↔ _
      rw [lowerIn_eq_lower_iff, sigmasAgree_plain]
      simp

end Normalizer

/-! ## Phrases -/

/-- The strategy looks for the phrase where `before` and `after` stand around it. -/
def PhraseStrategy.LooksAt (before after : List Char) : PhraseStrategy → Prop
  | .exact => before = [] ∧ after = []
  | .contains => True
  | .startsWith => before = []
  | .endsWith => after = []
  | .fuzzy => False

section Strategies

variable {near : List Char → List Char → Bool} {s : PhraseStrategy} {f : List Char → List Char}
  {x y p q : List Char}

/-- Where the strategy looks, it finds what stands there. -/
theorem Text.KeepsParts.holds (hf : KeepsParts f) (hs : s.LooksAt x y) :
    s.holds near (f (x ++ q ++ y)) (f q) = true := by
  cases s with
  | exact =>
    obtain ⟨rfl, rfl⟩ := hs
    rw [List.nil_append, List.append_nil, PhraseStrategy.holds, beq_self_eq_true]
  | contains => exact Template.occursIn_iff.2 (hf.part ⟨x, y, rfl⟩)
  | startsWith =>
    obtain rfl := hs
    exact List.isPrefixOf_iff_prefix.2 (hf.start ⟨y, rfl⟩)
  | endsWith =>
    obtain rfl := hs
    exact List.isSuffixOf_iff_suffix.2 (hf.ending ⟨x, (List.append_nil _).symm⟩)
  | fuzzy => exact hs.elim

/-- Where there is only one place to look at, it finds nothing else of the same length. -/
theorem Text.KeepsParts.eq_of_holds (hf : KeepsParts f) (hs : s.LooksAt x y) (hone : s ≠ .contains)
    (hlength : (f p).length = (f q).length) (h : s.holds near (f (x ++ p ++ y)) (f q) = true) :
    f p = f q := by
  have hthere : s.holds near (f (x ++ p ++ y)) (f p) = true := hf.holds hs
  cases s with
  | exact => exact (beq_iff_eq.1 hthere).symm.trans (beq_iff_eq.1 h)
  | contains => exact absurd rfl hone
  | startsWith =>
    have hp := List.isPrefixOf_iff_prefix.1 hthere
    have hq := List.isPrefixOf_iff_prefix.1 h
    exact (List.prefix_of_prefix_length_le hp hq hlength.le).eq_of_length hlength
  | endsWith =>
    have hp := List.isSuffixOf_iff_suffix.1 hthere
    have hq := List.isSuffixOf_iff_suffix.1 h
    exact (List.suffix_of_suffix_length_le hp hq hlength.le).eq_of_length hlength
  | fuzzy => exact hs.elim

end Strategies

namespace PhraseTest

variable {n : Normalizer} {t : PhraseTest} {phrase text : String} {before after : List Char}

/-- The test compares texts in lower case. -/
def ComparesLower (n : Normalizer) (t : PhraseTest) : Prop :=
  n.lowers = true ∨ t.caseSensitive = false

/-- The steps on blanks can be taken last. -/
theorem prepare_eq (n : Normalizer) (caseSensitive : Bool) (s : String) :
    prepare n caseSensitive s = n.spaced (n.lettered caseSensitive s.toList) := by
  rw [← n.lettered_spaced]
  rfl

theorem looksAt_lettered (h : t.strategy.LooksAt before after) (cs : List Char) :
    t.strategy.LooksAt (n.letteredIn t.caseSensitive [] before (cs ++ after))
      (n.letteredIn t.caseSensitive (before ++ cs) after []) := by
  revert h
  cases t.strategy with
  | exact =>
    rintro ⟨rfl, rfl⟩
    exact ⟨n.letteredIn_nil _ _ _, n.letteredIn_nil _ _ _⟩
  | contains => exact id
  | startsWith =>
    rintro rfl
    exact n.letteredIn_nil _ _ _
  | endsWith =>
    rintro rfl
    exact n.letteredIn_nil _ _ _
  | fuzzy => exact id

theorem prepare_of_toList (htext : text.toList = before ++ phrase.toList ++ after) :
    prepare n t.caseSensitive text = n.spaced (n.letteredIn t.caseSensitive [] before
      (phrase.toList ++ after) ++ n.letteredIn t.caseSensitive before phrase.toList after ++
      n.letteredIn t.caseSensitive (before ++ phrase.toList) after []) := by
  rw [prepare_eq, htext, n.lettered_append]

theorem holds_of_sigmasAgree (hphrase : phrase ∈ t.phrases)
    (htext : text.toList = before ++ phrase.toList ++ after)
    (hlooks : t.strategy.LooksAt before after)
    (hagree : t.ComparesLower n → SigmasAgree before phrase.toList after) :
    t.holds n text = true := by
  refine List.any_eq_true.2 ⟨phrase, hphrase, ?_⟩
  rw [prepare_of_toList htext, Normalizer.letteredIn_eq_iff.2 hagree, prepare_eq]
  exact n.spacesOnly_spaced.keepsParts.holds (looksAt_lettered hlooks _)

/-- Where only this phrase can be found, and at this place only, its sigmas must have that form. -/
theorem sigmasAgree_of_holds (hphrase : t.phrases = [phrase])
    (htext : text.toList = before ++ phrase.toList ++ after)
    (hlooks : t.strategy.LooksAt before after) (hone : t.strategy ≠ .contains)
    (h : t.holds n text = true) (hlower : t.ComparesLower n) :
    SigmasAgree before phrase.toList after := by
  have hspaces := n.spacesOnly_spaced
  have hmedial := n.map_medial_letteredIn t.caseSensitive before phrase.toList after
  rw [holds, holdsBy_eq, hphrase, List.map_singleton, List.any_cons, List.any_nil, Bool.or_false,
    prepare_of_toList htext, prepare_eq] at h
  have heq := hspaces.keepsParts.eq_of_holds (looksAt_lettered hlooks _) hone
    (hspaces.length_eq hmedial) h
  exact Normalizer.letteredIn_eq_iff.1 (hspaces.eq_of_eq hmedial heq) hlower

end PhraseTest

/-- A phrase that stands in a text where the strategy looks for it is found there, if texts are
compared as they are, or if each capital sigma of the phrase has the same lower case within the text
as within the phrase alone; if the text is the phrase, this is always so. At the start or at the end
of a text, one phrase is not found otherwise. -/
theorem literal_phrases_match {n : Normalizer} {t : PhraseTest} {phrase text : String}
    {before after : List Char} (hphrase : phrase ∈ t.phrases)
    (htext : text.toList = before ++ phrase.toList ++ after)
    (hlooks : t.strategy.LooksAt before after) :
    (t.strategy = .exact → t.holds n text = true) ∧
      ((t.ComparesLower n → SigmasAgree before phrase.toList after) → t.holds n text = true) ∧
      (t.phrases = [phrase] → t.strategy ≠ .contains → (t.holds n text = true ↔
        (t.ComparesLower n → SigmasAgree before phrase.toList after))) := by
  have hfound : (t.ComparesLower n → SigmasAgree before phrase.toList after) →
      t.holds n text = true := PhraseTest.holds_of_sigmasAgree hphrase htext hlooks
  refine ⟨fun hexact => hfound fun _ => ?_, hfound, fun hsingle hone => ⟨?_, hfound⟩⟩
  · rw [hexact] at hlooks
    obtain ⟨rfl, rfl⟩ := hlooks
    exact sigmasAgree_nil
  · exact PhraseTest.sigmasAgree_of_holds hsingle htext hlooks hone

/-- A test on signs in Greek, which looks for one phrase without regard to case. -/
def signTest (strategy : PhraseStrategy) (phrase : String) : PhraseTest :=
  ⟨"sign", [phrase], strategy, false, Options.fourFifths⟩

/-- As a word of its own, a phrase that ends with a sigma is found. -/
theorem street_found : (signTest .contains "ΟΔΟΣ").holds .all "ΑΥΤΗ Η ΟΔΟΣ ΕΔΩ" = true := by
  have hphrase : "ΟΔΟΣ" ∈ (signTest .contains "ΟΔΟΣ").phrases := .head _
  have htext : "ΑΥΤΗ Η ΟΔΟΣ ΕΔΩ".toList =
      "ΑΥΤΗ Η ".toList ++ "ΟΔΟΣ".toList ++ " ΕΔΩ".toList := by decide
  have hbefore : ("ΑΥΤΗ Η ".toList.getLast?.all isBlank) = true := by decide +kernel
  have hafter : (" ΕΔΩ".toList.head?.all isBlank) = true := by decide +kernel
  obtain ⟨-, hfound, -⟩ := literal_phrases_match (n := .all) hphrase htext trivial
  exact hfound fun _ => sigmasAgree_between ((Option.all_eq_true _ _).1 hbefore)
    ((Option.all_eq_true _ _).1 hafter)

/-- As the beginning of a longer word it is not, and neither is a sigma alone at the end of one. -/
theorem street_in_word : "ΟΔΟΣ".toList <+: "ΟΔΟΣΗΜΑΝΣΗ".toList ∧
    (signTest .startsWith "ΟΔΟΣ").holds {} "ΟΔΟΣΗΜΑΝΣΗ" = false ∧
    (signTest .contains "ΟΔΟΣ").holds {} "ΟΔΟΣΗΜΑΝΣΗ" = false ∧
    "Σ".toList <:+ "ΟΔΟΣ".toList ∧ (signTest .endsWith "Σ").holds {} "ΟΔΟΣ" = false := by
  decide +kernel

end ChatPlan
