import ChatPlan.Classifier.Phrases
import ChatPlan.Proofs.Number.RoundingError
import ChatPlan.Proofs.Text.Basic
import ChatPlan.Proofs.Text.EditDistance

/-
Phrases that need not match exactly. A fuzzy test asks for some likeness of the whole text, or of
one of its words, to a phrase. Likeness is an exact quotient (`Text.likeness`), and the test that
runs rounds it (`Text.roundedLikeness`). Neither is ever below zero, and by both equal texts are
wholly alike (`Text.IsScore`). What a threshold does follows from that alone
(`PhraseTest.graded_matchesBy`): none is asked for at zero, to ask for less never loses a match, and
what matches exactly matches however much is asked for. At one the phrase itself has to be there;
the test that runs may then be mistaken about enormous texts only. In between, to round the likeness
comes to a threshold that is hardly another (`fuzzy_thresholds`).
-/
namespace ChatPlan

namespace Text

variable {a b text w : List Char} {x : ℚ}

/-! ## Words -/

/-- The second text is a word of the first: it has no divider in it, and at both sides of it there is
one or the end of the text. -/
def IsWord (text w : List Char) : Prop :=
  w ≠ [] ∧ (∀ c ∈ w, dividesWords c = false) ∧
    ∃ front back, text = front ++ w ++ back ∧
      (∀ c ∈ front.getLast?, dividesWords c = true) ∧ ∀ c ∈ back.head?, dividesWords c = true

theorem words_append_cons {d : Char} (hd : dividesWords d = true) (a b : List Char) :
    words (a ++ d :: b) = words a ++ words b := by
  rw [words, words, words, pieces_append_cons hd, List.filter_append]

theorem mem_words_of_undivided (h : ∀ c ∈ a, dividesWords c = false) :
    w ∈ words a ↔ w ≠ [] ∧ w = a := by
  rw [words, pieces_of_undivided h, List.mem_filter, List.mem_singleton, and_comm]
  simp

theorem IsWord.append_left {d : Char} (hd : dividesWords d = true) (h : IsWord b w) (a : List Char) :
    IsWord (a ++ d :: b) w := by
  obtain ⟨hne, hw, front, back, rfl, hfront, hback⟩ := h
  refine ⟨hne, hw, a ++ d :: front, back, by simp, fun c hc => ?_, hback⟩
  rw [List.getLast?_append, List.getLast?_cons, Option.some_or] at hc
  cases hlast : front.getLast? with
  | none =>
    rw [hlast] at hc
    obtain rfl : d = c := Option.some.inj hc
    exact hd
  | some e =>
    rw [hlast] at hc
    exact hfront c (hlast.trans hc)

/-- The text is cut at its first divider, and then the rest of it in the same way. -/
theorem isWord_of_mem_words {text w : List Char} (h : w ∈ words text) : IsWord text w := by
  cases hfind : text.find? dividesWords with
  | none =>
    have hundivided : ∀ c ∈ text, dividesWords c = false := by
      simpa using List.find?_eq_none.1 hfind
    obtain ⟨hne, rfl⟩ := (mem_words_of_undivided hundivided).1 h
    exact ⟨hne, hundivided, [], [], by simp, by simp, by simp⟩
  | some d =>
    obtain ⟨hd, first, rest, htext, hfirst⟩ := List.find?_eq_some_iff_append.1 hfind
    have hundivided : ∀ c ∈ first, dividesWords c = false := by simpa using hfirst
    have hshorter : rest.length < text.length := by
      rw [htext, List.length_append, List.length_cons]
      omega
    rw [htext, words_append_cons hd, List.mem_append] at h
    rw [htext]
    rcases h with h | h
    · obtain ⟨hne, rfl⟩ := (mem_words_of_undivided hundivided).1 h
      exact ⟨hne, hundivided, [], d :: rest, by simp, by simp, by simpa using hd⟩
    · exact (isWord_of_mem_words h).append_left hd first
termination_by text.length

theorem IsWord.length_le (h : IsWord text w) : w.length ≤ text.length := by
  obtain ⟨-, -, front, back, rfl, -, -⟩ := h
  simp only [List.length_append]
  omega

theorem mem_words_iff : w ∈ words text ↔ IsWord text w := by
  refine ⟨isWord_of_mem_words, fun h => ?_⟩
  obtain ⟨hne, hw, front, back, rfl, hfront, hback⟩ := h
  have hback' : w ∈ words (w ++ back) := by
    cases back with
    | nil =>
      rw [List.append_nil]
      exact (mem_words_of_undivided hw).2 ⟨hne, rfl⟩
    | cons d back =>
      rw [words_append_cons (hback d rfl)]
      exact List.mem_append_left _ ((mem_words_of_undivided hw).2 ⟨hne, rfl⟩)
  rcases List.eq_nil_or_concat front with rfl | ⟨front, d, rfl⟩
  · exact hback'
  · have hd : dividesWords d = true := hfront d (by simp)
    have htext : front.concat d ++ w ++ back = front ++ d :: (w ++ back) := by simp
    rw [htext, words_append_cons hd]
    exact List.mem_append_right _ hback'

/-! ## Likeness -/

/-- How alike two texts are: one minus their distance in parts of the longer text. Two empty texts
are alike. -/
def likeness (a b : List Char) : ℚ :=
  let longest := max a.length b.length
  if longest = 0 then 1 else 1 - (editDistance a b : ℚ) / longest

theorem likeness_nonneg (a b : List Char) : 0 ≤ likeness a b := by
  simp only [likeness]
  split
  · exact zero_le_one
  · have hle : (editDistance a b : ℚ) ≤ (max a.length b.length : Nat) :=
      Nat.cast_le.2 (editDistance_le_max a b)
    exact sub_nonneg.2 (div_le_one_of_le₀ hle (Nat.cast_nonneg _))

theorem likeness_le_one (a b : List Char) : likeness a b ≤ 1 := by
  simp only [likeness]
  split
  · exact le_refl 1
  · exact sub_le_self 1 (div_nonneg (Nat.cast_nonneg _) (Nat.cast_nonneg _))

theorem longest_pos (h : a ≠ b) : 0 < max a.length b.length := by
  refine Nat.pos_of_ne_zero fun hzero => h ?_
  have ha : a = [] := List.length_eq_zero_iff.1 (by omega)
  have hb : b = [] := List.length_eq_zero_iff.1 (by omega)
  exact ha.trans hb.symm

/-- Texts that differ do so by one character of the longer text at least. -/
theorem likeness_le_of_ne (h : a ≠ b) :
    likeness a b ≤ 1 - 1 / ((max a.length b.length : Nat) : ℚ) := by
  have hdistance : 1 ≤ editDistance a b :=
    Nat.one_le_iff_ne_zero.2 fun hzero => h (editDistance_eq_zero_iff.1 hzero)
  simp only [likeness, if_neg (longest_pos h).ne']
  exact sub_le_sub_left
    (div_le_div_of_nonneg_right (Nat.one_le_cast.2 hdistance) (Nat.cast_nonneg _)) 1

theorem one_le_likeness_iff : 1 ≤ likeness a b ↔ a = b := by
  constructor
  · intro hone
    by_contra hne
    have hpart : (0 : ℚ) < 1 / ((max a.length b.length : Nat) : ℚ) :=
      one_div_pos.2 (Nat.cast_pos.2 (longest_pos hne))
    have hlike := likeness_le_of_ne hne
    linarith
  · rintro rfl
    simp [likeness, editDistance_eq_zero_iff.2]

/-! ## What is computed -/

theorem similarity_self (a : List Char) : similarity a a = .finite .one := by
  have hdistance : editDistance a a = 0 := editDistance_eq_zero_iff.2 rfl
  simp only [similarity, Double.ofInt_one, hdistance, Double.ofRatio_zero]
  rw [Double.sub_zero rfl, ite_self]

/-- The likeness that is computed lies between zero and one, and is off by no more than the step from
one to the next double: one half comes from the quotient, the other from the difference. -/
theorem exists_similarity (a b : List Char) : ∃ z, similarity a b = .finite z ∧
    0 ≤ z.toRat ∧ z.toRat ≤ 1 ∧ |z.toRat - likeness a b| ≤ 2 * FiniteDouble.roundoff := by
  simp only [similarity, likeness, Double.ofInt_one]
  split
  · refine ⟨.one, rfl, ?_⟩
    rw [FiniteDouble.toRat_one, sub_self, abs_zero]
    exact ⟨zero_le_one, le_refl 1, mul_nonneg zero_le_two FiniteDouble.roundoff_pos.le⟩
  · rename_i hlongest
    obtain ⟨share, hshare, hnonneg, hle, herror⟩ :=
      Double.exists_ofRatio (Nat.pos_of_ne_zero hlongest) (editDistance_le_max a b)
    rw [← FiniteDouble.toRat_one] at hle
    have hshort : FiniteDouble.one.toRat - share.toRat ≤ 1 := by
      rw [FiniteDouble.toRat_one]
      exact sub_le_self 1 hnonneg
    obtain ⟨z, hz, hzero, htop, hdifference⟩ := Double.exists_sub hle hshort
    refine ⟨z, by rw [hshare]; exact hz, hzero, htop, ?_⟩
    rw [FiniteDouble.toRat_one] at hdifference
    rw [abs_le] at herror hdifference ⊢
    constructor <;> linarith

/-- The value of the likeness that is computed. -/
def roundedLikeness (a b : List Char) : ℚ :=
  match similarity a b with
  | .finite z => z.toRat
  | _ => 0

theorem roundedLikeness_of_similarity {z : FiniteDouble} (h : similarity a b = .finite z) :
    roundedLikeness a b = z.toRat := by
  rw [roundedLikeness, h]

theorem roundedLikeness_error (a b : List Char) :
    |roundedLikeness a b - likeness a b| ≤ 2 * FiniteDouble.roundoff := by
  obtain ⟨z, hz, -, -, herror⟩ := exists_similarity a b
  rwa [roundedLikeness_of_similarity hz]

/-- One character of a text that is not enormous is more than the likeness is off by. -/
theorem one_le_roundedLikeness_iff (ha : a.length < 2 ^ 52) (hb : b.length < 2 ^ 52) :
    1 ≤ roundedLikeness a b ↔ a = b := by
  constructor
  · intro hone
    by_contra hne
    have hlongest : ((max a.length b.length : Nat) : ℚ) < 2 ^ 52 := by
      exact_mod_cast Nat.max_lt.2 ⟨ha, hb⟩
    have hpart : 1 / 2 ^ 52 < 1 / ((max a.length b.length : Nat) : ℚ) :=
      one_div_lt_one_div_of_lt (Nat.cast_pos.2 (longest_pos hne)) hlongest
    have hlike := likeness_le_of_ne hne
    have herror := (abs_le.1 (roundedLikeness_error a b)).2
    rw [FiniteDouble.roundoff] at herror
    linarith
  · rintro rfl
    rw [roundedLikeness_of_similarity (similarity_self a), FiniteDouble.toRat_one]

/-! ## Measures of likeness -/

/-- What the likeness of texts is measured by: none is less than zero, and equal texts are wholly
alike. -/
structure IsScore (score : List Char → List Char → ℚ) : Prop where
  nonneg : ∀ a b, 0 ≤ score a b
  self : ∀ a, 1 ≤ score a a

theorem isScore_likeness : IsScore likeness where
  nonneg := likeness_nonneg
  self _ := one_le_likeness_iff.2 rfl

theorem isScore_roundedLikeness : IsScore roundedLikeness where
  nonneg a b := by
    obtain ⟨z, hz, hnonneg, -⟩ := exists_similarity a b
    rwa [roundedLikeness_of_similarity hz]
  self a := by rw [roundedLikeness_of_similarity (similarity_self a), FiniteDouble.toRat_one]

/-- The best score of the text, or of one of its words, with the phrase. -/
def best (score : List Char → List Char → ℚ) (text phrase : List Char) : ℚ :=
  ((words text).map fun w => score w phrase).foldl max (score text phrase)

theorem le_best_iff {score : List Char → List Char → ℚ} {phrase : List Char} :
    x ≤ best score text phrase ↔
      x ≤ score text phrase ∨ ∃ w, IsWord text w ∧ x ≤ score w phrase := by
  have hfold (ys : List ℚ) (y : ℚ) : x ≤ ys.foldl max y ↔ x ≤ y ∨ ∃ z ∈ ys, x ≤ z := by
    induction ys generalizing y with
    | nil => simp
    | cons z ys ih => simp [ih, or_assoc]
  rw [best, hfold]
  simp [mem_words_iff]

end Text

namespace PhraseTest

variable {t : PhraseTest} {n : Normalizer} {text : String} {x y : ℚ}
  {score score' : List Char → List Char → ℚ}

/-- The text matches one of the phrases fuzzily, where so much is asked of the score. -/
def matchesBy (score : List Char → List Char → ℚ) (t : PhraseTest) (n : Normalizer) (x : ℚ)
    (text : String) : Bool :=
  { t with strategy := .fuzzy }.holdsBy (fun a b => decide (x ≤ score a b)) n text

/-- The text matches one of the phrases fuzzily, where so much likeness is asked for. -/
def matchesAt (t : PhraseTest) (n : Normalizer) (x : ℚ) (text : String) : Bool :=
  t.matchesBy Text.likeness n x text

/-- The test, with the fuzzy strategy and another threshold. -/
def fuzzyAt (t : PhraseTest) (threshold : FiniteDouble) : PhraseTest :=
  { t with strategy := .fuzzy, threshold := threshold }

/-- One of the phrases is the whole text or one of its words. -/
def HasPhrase (t : PhraseTest) (n : Normalizer) (text : String) : Prop :=
  ∃ phrase ∈ t.phrases,
    prepare n t.caseSensitive phrase = prepare n t.caseSensitive text ∨
      Text.IsWord (prepare n t.caseSensitive text) (prepare n t.caseSensitive phrase)

theorem matchesBy_iff : t.matchesBy score n x text = true ↔ ∃ phrase ∈ t.phrases,
    x ≤ Text.best score (prepare n t.caseSensitive text) (prepare n t.caseSensitive phrase) := by
  simp [matchesBy, holdsBy, PhraseStrategy.holds, Text.le_best_iff, Text.mem_words_iff]

/-- What runs compares the rounded likeness with the value of the threshold. -/
theorem holds_fuzzyAt (threshold : FiniteDouble) :
    (t.fuzzyAt threshold).holds n text =
      t.matchesBy Text.roundedLikeness n threshold.toRat text := by
  have hnear : (t.fuzzyAt threshold).isNear =
      fun a b => decide (threshold.toRat ≤ Text.roundedLikeness a b) := by
    funext a b
    obtain ⟨z, hz, -⟩ := Text.exists_similarity a b
    rw [Text.roundedLikeness_of_similarity hz, Bool.eq_iff_iff, decide_eq_true_iff, isNear, hz,
      Double.le_finite_iff, fuzzyAt]
  rw [holds, hnear]
  rfl

/-- One letter of eight is missing in a word of the text. -/
example : (⟨"value", ["cancelar"], .fuzzy, false, Options.fourFifths⟩ : PhraseTest).holds {}
      "quero cancelr o pedido" = true ∧
    matchesAt ⟨"value", ["cancelar"], .fuzzy, false, Options.fourFifths⟩ {} (9 / 10)
      "quero cancelr o pedido" = false := by
  decide +kernel

/-- Where the scores reach what is asked for more often, no match is lost. -/
theorem matchesBy_mono (h : ∀ a b, y ≤ score a b → x ≤ score' a b)
    (hmatch : t.matchesBy score n y text = true) : t.matchesBy score' n x text = true := by
  obtain ⟨phrase, hphrase, hbest⟩ := matchesBy_iff.1 hmatch
  refine matchesBy_iff.2 ⟨phrase, hphrase, ?_⟩
  rw [Text.le_best_iff] at hbest ⊢
  exact hbest.imp (h _ _) fun ⟨w, hw, hscore⟩ => ⟨w, hw, h _ _ hscore⟩

/-! ## Thresholds -/

/-- What a fuzzy match owes to the threshold, of which `value` is the number. -/
structure Graded (t : PhraseTest) (n : Normalizer) (text : String) {X : Type} (value : X → ℚ)
    (isMatch : X → Bool) : Prop where
  /-- Nothing is asked for. -/
  nothing : ∀ x, value x ≤ 0 → (isMatch x = true ↔ t.phrases ≠ [])
  /-- To ask for less keeps every match. -/
  less : ∀ x y, value x ≤ value y → isMatch y = true → isMatch x = true
  /-- A phrase that is there is found, however much is asked for. -/
  found : t.HasPhrase n text → ∀ x, value x ≤ 1 → isMatch x = true
  /-- A text that is one of the phrases is found. -/
  exactly : { t with strategy := .exact }.holds n text = true → ∀ x, value x ≤ 1 → isMatch x = true

theorem HasPhrase.of_exact (h : { t with strategy := .exact }.holds n text = true) :
    t.HasPhrase n text := by
  obtain ⟨phrase, hphrase, heq⟩ := List.any_eq_true.1 h
  exact ⟨phrase, hphrase, .inl (beq_iff_eq.1 heq).symm⟩

theorem matchesBy_of_hasPhrase (hscore : Text.IsScore score) (hx : x ≤ 1)
    (h : t.HasPhrase n text) : t.matchesBy score n x text = true := by
  obtain ⟨phrase, hphrase, hthere⟩ := h
  refine matchesBy_iff.2 ⟨phrase, hphrase, hx.trans (Text.le_best_iff.2 ?_)⟩
  rcases hthere with hwhole | hword
  · rw [hwhole]
    exact .inl (hscore.self _)
  · exact .inr ⟨_, hword, hscore.self _⟩

/-- Of a score it only matters that it is never below zero and that equal texts are wholly alike. -/
theorem graded_matchesBy (hscore : Text.IsScore score) {X : Type} (value : X → ℚ) :
    t.Graded n text value fun x => t.matchesBy score n (value x) text where
  nothing x hx := by
    rw [matchesBy_iff]
    constructor
    · rintro ⟨phrase, hphrase, -⟩
      exact List.ne_nil_of_mem hphrase
    · intro hne
      obtain ⟨phrase, hphrase⟩ := List.exists_mem_of_ne_nil t.phrases hne
      exact ⟨phrase, hphrase, Text.le_best_iff.2 (.inl (hx.trans (hscore.nonneg _ _)))⟩
  less _ _ hle := matchesBy_mono fun _ _ hy => hle.trans hy
  found h _ hx := matchesBy_of_hasPhrase hscore hx h
  exactly h _ hx := matchesBy_of_hasPhrase hscore hx (.of_exact h)

theorem matchesBy_one_iff (hscore : ∀ a, a.length ≤ (prepare n t.caseSensitive text).length →
      ∀ phrase ∈ t.phrases, (1 ≤ score a (prepare n t.caseSensitive phrase) ↔
        a = prepare n t.caseSensitive phrase)) :
    t.matchesBy score n 1 text = true ↔ t.HasPhrase n text := by
  rw [matchesBy_iff]
  refine exists_congr fun phrase => and_congr_right fun hphrase => ?_
  rw [Text.le_best_iff, hscore _ (Nat.le_refl _) phrase hphrase]
  refine or_congr eq_comm ⟨?_, fun hword => ?_⟩
  · rintro ⟨w, hw, hone⟩
    rw [hscore w hw.length_le phrase hphrase] at hone
    rwa [← hone]
  · exact ⟨_, hword, (hscore _ hword.length_le phrase hphrase).2 rfl⟩

/-- What the threshold of a fuzzy test does. Measured exactly, likeness lies between zero and one, and
at one a phrase has to be the whole text or one of its words. The test that runs keeps the same laws
of thresholds that are doubles, the one about one for texts of fewer than `2 ^ 52` characters. In
between it decides as if its threshold were off by no more than the step from one to the next
double. -/
theorem fuzzy_thresholds (t : PhraseTest) (n : Normalizer) (text : String) :
    ((∀ a b, 0 ≤ Text.likeness a b ∧ Text.likeness a b ≤ 1) ∧
      t.Graded n text id (t.matchesAt n · text) ∧
      (t.matchesAt n 1 text = true ↔ t.HasPhrase n text)) ∧
    ((∀ a b, ∃ z, Text.similarity a b = .finite z ∧ 0 ≤ z.toRat ∧ z.toRat ≤ 1 ∧
        |z.toRat - Text.likeness a b| ≤ 2 * FiniteDouble.roundoff) ∧
      t.Graded n text FiniteDouble.toRat (fun x => (t.fuzzyAt x).holds n text) ∧
      (∀ x : FiniteDouble,
        (t.matchesAt n (x.toRat + 2 * FiniteDouble.roundoff) text = true →
          (t.fuzzyAt x).holds n text = true) ∧
        ((t.fuzzyAt x).holds n text = true →
          t.matchesAt n (x.toRat - 2 * FiniteDouble.roundoff) text = true)) ∧
      ((∀ s ∈ text :: t.phrases, (prepare n t.caseSensitive s).length < 2 ^ 52) →
        ∀ x : FiniteDouble, x.toRat = 1 →
          ((t.fuzzyAt x).holds n text = true ↔ t.HasPhrase n text))) := by
  simp only [holds_fuzzyAt]
  refine ⟨⟨fun a b => ⟨Text.likeness_nonneg a b, Text.likeness_le_one a b⟩,
    graded_matchesBy Text.isScore_likeness id,
    matchesBy_one_iff fun _ _ _ _ => Text.one_le_likeness_iff⟩,
    Text.exists_similarity, graded_matchesBy Text.isScore_roundedLikeness _, fun x => ⟨?_, ?_⟩, ?_⟩
  · refine matchesBy_mono fun a b hlike => ?_
    have herror := (abs_le.1 (Text.roundedLikeness_error a b)).1
    linarith
  · refine matchesBy_mono fun a b hlike => ?_
    have herror := (abs_le.1 (Text.roundedLikeness_error a b)).2
    linarith
  · intro hshort x hx
    rw [hx]
    refine matchesBy_one_iff fun a ha phrase hphrase => ?_
    exact Text.one_le_roundedLikeness_iff (ha.trans_lt (hshort text List.mem_cons_self))
      (hshort phrase (List.mem_cons_of_mem _ hphrase))

end PhraseTest

end ChatPlan
