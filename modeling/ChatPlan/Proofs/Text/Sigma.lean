import ChatPlan.Proofs.Classifier.Normalizing
import ChatPlan.Proofs.Text.Parts

/-
The capital sigma. It is the one character whose lower case depends on what stands around it, so a
part of a text has the same lower case within the text as alone exactly if each of its capital
sigmas is written in the same form (`lowerIn_eq_lower_iff`). No blank takes part in this, and no
accent, so texts may be trimmed, collapsed or stripped of accents before or after.
-/
namespace ChatPlan.Text

variable {c : Char} {cs a b before after before' after' p q : List Char}

/-! ## Around a sigma -/

/-- No range of one table meets a range of the other. -/
def apart (s t : List (Nat × Nat)) : Bool := s.all fun a => t.all fun b => b.2 < a.1 || a.2 < b.1

theorem not_inRanges_of_apart {s t : List (Nat × Nat)} (h : apart s t = true)
    (hc : inRanges s c = true) : inRanges t c = false := by
  simp only [inRanges, List.any_eq_true, List.any_eq_false, Bool.and_eq_true,
    decide_eq_true_eq] at hc ⊢
  obtain ⟨a, ha, hlo, hhi⟩ := hc
  rintro b hb ⟨hlo', hhi'⟩
  have hab := List.all_eq_true.1 (List.all_eq_true.1 h a ha) b hb
  simp only [Bool.or_eq_true, decide_eq_true_eq] at hab
  omega

theorem blankRanges_apart : apart blankRanges casedRanges = true ∧
    apart blankRanges caseIgnorableRanges = true := by
  decide +kernel

theorem not_inRanges_of_isBlank (h : isBlank c = true) :
    inRanges casedRanges c = false ∧ inRanges caseIgnorableRanges c = false :=
  ⟨not_inRanges_of_apart blankRanges_apart.1 h, not_inRanges_of_apart blankRanges_apart.2 h⟩

theorem caseFollows_cons (c : Char) (cs : List Char) : caseFollows (c :: cs) =
    if inRanges caseIgnorableRanges c then caseFollows cs else inRanges casedRanges c := by
  cases hc : inRanges caseIgnorableRanges c with
  | true => rw [caseFollows, List.dropWhile_cons_of_pos hc, if_pos rfl, caseFollows]
  | false => rw [caseFollows, List.dropWhile_cons_of_neg (by simp [hc]), if_neg Bool.false_ne_true]

theorem caseFollows_cons_of_isBlank (h : isBlank c = true) (cs : List Char) :
    caseFollows (c :: cs) = false := by
  obtain ⟨hcased, hignorable⟩ := not_inRanges_of_isBlank h
  rw [caseFollows_cons, hignorable, hcased, if_neg Bool.false_ne_true]

/-- A blank, or the end of the text, closes a word. -/
theorem caseFollows_append (hb : ∀ c ∈ b.head?, isBlank c = true) (cs : List Char) :
    caseFollows (cs ++ b) = caseFollows cs := by
  induction cs with
  | nil =>
    cases b with
    | nil => rfl
    | cons c b => exact caseFollows_cons_of_isBlank (hb c rfl) b
  | cons c cs ih => rw [List.cons_append, caseFollows_cons, caseFollows_cons, ih]

theorem caseFollows_collapse (cs : List Char) : caseFollows (collapse cs) = caseFollows cs := by
  induction cs with
  | nil => rfl
  | cons c cs ih =>
    rw [collapse, collapseFrom]
    split
    · rename_i hc
      rw [caseFollows_cons_of_isBlank hc, if_neg Bool.false_ne_true,
        caseFollows_cons_of_isBlank (by decide)]
    · rw [caseFollows_cons, caseFollows_cons]
      exact congrArg (ite _ · _) ih

/-- The form of a sigma depends on the neighbours only by whether a cased character follows. -/
theorem lowerSigma_congr (hbefore : caseFollows before = caseFollows before')
    (hafter : caseFollows after = caseFollows after') :
    lowerSigma before after = lowerSigma before' after' := by
  rw [lowerSigma, lowerSigma, hbefore, hafter]

/-- The blocks in which accented letters lie, and those on which they are built. -/
def letterRanges : List (Nat × Nat) := [(0x41, 0x5a), (0x61, 0x7a), (0xc0, 0x17f)]

theorem letterRanges_apart : apart letterRanges caseIgnorableRanges = true := by decide +kernel

/-- A letter with an accent has a case, and so has that on which it is built. Neither is a sigma. -/
theorem accentGroups_letters : (accentGroups.all fun g => (g.2 :: g.1).all fun c =>
    inRanges letterRanges c && inRanges casedRanges c && !(['Σ', 'σ', 'ς'].contains c)) = true := by
  decide +kernel

/-- A character with a case, which is not skipped and no sigma. -/
structure IsLetter (c : Char) : Prop where
  cased : inRanges casedRanges c = true
  notSkipped : inRanges caseIgnorableRanges c = false
  notSigma : c ∉ ['Σ', 'σ', 'ς']

theorem isLetter_of_mem {g : List Char × Char} (hg : g ∈ accentGroups) (hc : c ∈ g.2 :: g.1) :
    IsLetter c := by
  have hletter := List.all_eq_true.1 (List.all_eq_true.1 accentGroups_letters g hg) c hc
  simp only [Bool.and_eq_true, Bool.not_eq_true', List.contains_eq_mem,
    decide_eq_false_iff_not] at hletter
  exact ⟨hletter.1.2, not_inRanges_of_apart letterRanges_apart hletter.1.1, hletter.2⟩

theorem isLetter_withoutAccent (c : Char) :
    withoutAccent c = c ∨ IsLetter c ∧ IsLetter (withoutAccent c) := by
  rcases withoutAccent_cases c with ⟨g, hg, hc, heq⟩ | ⟨-, heq⟩
  · rw [heq]
    refine .inr ⟨isLetter_of_mem hg ?_, isLetter_of_mem hg List.mem_cons_self⟩
    exact List.mem_cons_of_mem _ hc
  · exact .inl heq

theorem inRanges_withoutAccent (c : Char) :
    inRanges casedRanges (withoutAccent c) = inRanges casedRanges c ∧
      inRanges caseIgnorableRanges (withoutAccent c) = inRanges caseIgnorableRanges c := by
  rcases isLetter_withoutAccent c with heq | ⟨hc, hbase⟩
  · rw [heq]
    exact ⟨rfl, rfl⟩
  · rw [hc.cased, hbase.cased, hc.notSkipped, hbase.notSkipped]
    exact ⟨rfl, rfl⟩

theorem caseFollows_withoutAccents (cs : List Char) :
    caseFollows (cs.map withoutAccent) = caseFollows cs := by
  induction cs with
  | nil => rfl
  | cons c cs ih =>
    obtain ⟨hcased, hignorable⟩ := inRanges_withoutAccent c
    rw [List.map_cons, caseFollows_cons, caseFollows_cons, hcased, hignorable, ih]

/-! ## Lower case within a text -/

/-- The lower case of `cs` between two pieces of text; `before` is read backwards. -/
def lowerIn (before after : List Char) : List Char → List Char
  | [] => []
  | c :: cs =>
    (if c = 'Σ' then [lowerSigma before (cs ++ after)] else lowerChar c) ++
      lowerIn (c :: before) after cs

theorem lowerFrom_append (before after cs : List Char) : lowerFrom before (cs ++ after) =
    lowerIn before after cs ++ lowerFrom (cs.reverse ++ before) after := by
  induction cs generalizing before with
  | nil => rfl
  | cons c cs ih =>
    rw [List.cons_append, lowerFrom, lowerIn, ih, List.reverse_cons, List.append_assoc,
      List.append_assoc, List.singleton_append]

theorem lowerFrom_eq_lowerIn (before cs : List Char) :
    lowerFrom before cs = lowerIn before [] cs := by
  have happend := lowerFrom_append before [] cs
  rwa [List.append_nil, lowerFrom, List.append_nil] at happend

/-- Each capital sigma of `cs` has the same form between either two pieces of text. -/
def SameSigmas (before after before' after' cs : List Char) : Prop :=
  ∀ u v, cs = u ++ 'Σ' :: v →
    lowerSigma (u.reverse ++ before) (v ++ after) = lowerSigma (u.reverse ++ before') (v ++ after')

theorem sameSigmas_cons : SameSigmas before after before' after' (c :: cs) ↔
    (c = 'Σ' → lowerSigma before (cs ++ after) = lowerSigma before' (cs ++ after')) ∧
      SameSigmas (c :: before) after (c :: before') after' cs := by
  constructor
  · intro h
    refine ⟨fun hc => h [] cs (by rw [hc]; rfl), fun u v hcs => ?_⟩
    simpa using h (c :: u) v (by rw [hcs]; rfl)
  · rintro ⟨hhead, htail⟩ u v hcs
    cases u with
    | nil =>
      obtain ⟨hc, rfl⟩ := List.cons_eq_cons.1 hcs
      exact hhead hc
    | cons d u =>
      obtain ⟨rfl, hrest⟩ := List.cons_eq_cons.1 hcs
      simpa using htail u v hrest

/-- Within two texts the lower case is the same exactly if all sigmas have the same form. -/
theorem lowerIn_eq_lowerIn_iff : lowerIn before after cs = lowerIn before' after' cs ↔
    SameSigmas before after before' after' cs := by
  induction cs generalizing before before' with
  | nil => simp [lowerIn, SameSigmas]
  | cons c cs ih =>
    rw [sameSigmas_cons, ← ih, lowerIn, lowerIn]
    by_cases hc : c = 'Σ'
    · simp [hc]
    · simp [hc]

/-- Each capital sigma is written in the same form between the two pieces of text as alone. -/
def SigmasAgree (a cs b : List Char) : Prop :=
  ∀ u v, cs = u ++ 'Σ' :: v →
    lowerSigma (u.reverse ++ a.reverse) (v ++ b) = lowerSigma u.reverse v

/-- A part of a text is written as if it stood alone exactly if all its sigmas are. -/
theorem lowerIn_eq_lower_iff : lowerIn a.reverse b cs = lower cs ↔ SigmasAgree a cs b := by
  rw [lower, lowerFrom_eq_lowerIn, lowerIn_eq_lowerIn_iff]
  simp only [SameSigmas, List.append_nil]
  rfl

theorem sigmasAgree_nil : SigmasAgree [] cs [] := by
  intro u v _
  simp only [List.reverse_nil, List.append_nil]

/-- Between blanks, or the ends of the text, everything is written as if it stood alone. -/
theorem sigmasAgree_between (ha : ∀ c ∈ a.getLast?, isBlank c = true)
    (hb : ∀ c ∈ b.head?, isBlank c = true) : SigmasAgree a cs b := by
  intro u v _
  have hbefore : caseFollows (u.reverse ++ a.reverse) = caseFollows u.reverse :=
    caseFollows_append (by rwa [List.head?_reverse]) _
  exact lowerSigma_congr hbefore (caseFollows_append hb v)

theorem lowerSigma_withoutAccents (before after : List Char) :
    lowerSigma (before.map withoutAccent) (after.map withoutAccent) = lowerSigma before after :=
  lowerSigma_congr (caseFollows_withoutAccents before) (caseFollows_withoutAccents after)

theorem withoutAccent_eq_sigma : withoutAccent c = 'Σ' ↔ c = 'Σ' := by
  rcases isLetter_withoutAccent c with heq | ⟨hc, hbase⟩
  · rw [heq]
  · constructor
    · exact fun h => absurd (h ▸ List.mem_cons_self) hbase.notSigma
    · exact fun h => absurd (h ▸ List.mem_cons_self) hc.notSigma

theorem sigmasAgree_withoutAccents :
    SigmasAgree (a.map withoutAccent) (cs.map withoutAccent) (b.map withoutAccent) ↔
      SigmasAgree a cs b := by
  constructor
  · intro h u v hcs
    have hmap := h (u.map withoutAccent) (v.map withoutAccent)
      (by rw [hcs, List.map_append, List.map_cons, withoutAccent_eq_sigma.2 rfl])
    simpa only [← List.map_reverse, ← List.map_append, lowerSigma_withoutAccents] using hmap
  · intro h u' v' hcs
    obtain ⟨u, rest, rfl, rfl, hrest⟩ := List.map_eq_append_iff.1 hcs
    obtain ⟨c, v, rfl, hc, rfl⟩ := List.map_eq_cons_iff.1 hrest
    obtain rfl := withoutAccent_eq_sigma.1 hc
    simpa only [← List.map_reverse, ← List.map_append, lowerSigma_withoutAccents] using h u v rfl

/-! ## Lower case and blanks -/

theorem lowerFrom_cons_of_isBlank (hc : isBlank c = true) (before cs : List Char) :
    lowerFrom before (c :: cs) = c :: lowerFrom (c :: before) cs := by
  obtain ⟨p, hp, heq⟩ := lowerFrom_cons before c cs
  rw [heq, hp.eq_of_not_isCapital (not_isCapital_of_isBlank hc), List.singleton_append]

theorem Blanks.inLowerCase (ha : Blanks a) : InLowerCase a :=
  fun c hc => not_isCapital_of_isBlank (ha c hc)

theorem lowerIn_eq_self (h : InLowerCase cs) : lowerIn before after cs = cs := by
  have halone : lowerIn before after cs = lowerIn [] [] cs := by
    refine lowerIn_eq_lowerIn_iff.2 fun u v hcs => ?_
    have hsigma : isCapital 'Σ' = false := h 'Σ' (by rw [hcs]; simp)
    exact absurd hsigma (by decide +kernel)
  rw [halone, ← lowerFrom_eq_lowerIn, lowerFrom_eq_self h]

theorem lower_between (ha : Blanks a) (hb : Blanks b) (cs : List Char) :
    lower (a ++ cs ++ b) = a ++ lower cs ++ b := by
  have hinner : lowerIn a.reverse b cs = lower cs := by
    refine lowerIn_eq_lower_iff.2 (sigmasAgree_between (fun c hc => ?_) fun c hc => ?_)
    · exact ha c (List.mem_of_getLast? hc)
    · exact hb c (List.mem_of_head? hc)
  rw [List.append_assoc, lower, lowerFrom_append, List.append_nil, lowerFrom_append,
    lowerIn_eq_self ha.inLowerCase, hinner, lowerFrom_eq_self hb.inLowerCase, List.append_assoc]

theorem trim_lower (cs : List Char) : trim (lower cs) = lower (trim cs) := by
  obtain ⟨l, r, hl, hr, hcs⟩ := exists_trim cs
  have hself : trim (lower (trim cs)) = lower (trim cs) :=
    trim_eq_self_iff.2 ((sameBlanks_lowerFrom [] _).isTrimmed (isTrimmed_trim cs))
  conv_lhs => rw [hcs, lower_between hl hr, trim_between hl hr, hself]

theorem collapseFrom_append_of_words (inRun : Bool) (hne : p ≠ [])
    (hp : ∀ x ∈ p, isBlank x = false) (cs : List Char) :
    collapseFrom inRun (p ++ cs) = p ++ collapseFrom false cs := by
  induction p generalizing inRun with
  | nil => exact absurd rfl hne
  | cons c p ih =>
    obtain ⟨hc, hp⟩ := List.forall_mem_cons.1 hp
    rw [List.cons_append, collapseFrom_cons_of_not_blank inRun hc]
    by_cases hnil : p = []
    · rw [hnil]
      rfl
    · rw [ih false hnil hp, List.cons_append]

/-- A run of blanks may be cut short before or after the rest is put into lower case. -/
theorem collapseFrom_lowerFrom (inRun : Bool) (hsame : caseFollows before = caseFollows before')
    (hrun : inRun = true → caseFollows before' = false) (cs : List Char) :
    collapseFrom inRun (lowerFrom before cs) = lowerFrom before' (collapseFrom inRun cs) := by
  -- within a run the last character before is a blank, on both sides, so no word goes on
  induction cs generalizing inRun before before' with
  | nil => rfl
  | cons c cs ih =>
    cases hc : isBlank c with
    | true =>
      have hclosed : caseFollows (c :: before) = false := caseFollows_cons_of_isBlank hc before
      have hspace : caseFollows (' ' :: before') = false :=
        caseFollows_cons_of_isBlank (by decide) before'
      rw [lowerFrom_cons_of_isBlank hc, collapseFrom, collapseFrom, if_pos hc, if_pos hc]
      cases inRun with
      | true =>
        rw [if_pos rfl, if_pos rfl]
        exact ih true (hclosed.trans (hrun rfl).symm) hrun
      | false =>
        rw [if_neg Bool.false_ne_true, if_neg Bool.false_ne_true,
          lowerFrom_cons_of_isBlank (by decide),
          ih true (hclosed.trans hspace.symm) fun _ => hspace]
    | false =>
      have hnext : caseFollows (c :: before) = caseFollows (c :: before') := by
        rw [caseFollows_cons, caseFollows_cons, hsame]
      have hlower : IsLowerOf c _ := isLowerOf_between before cs c
      have hsigma : lowerSigma before' (collapseFrom false cs) = lowerSigma before cs :=
        lowerSigma_congr hsame.symm (caseFollows_collapse cs)
      rw [collapseFrom_cons_of_not_blank inRun hc, lowerFrom, lowerFrom, hsigma,
        collapseFrom_append_of_words inRun hlower.ne_nil (hlower.not_isBlank hc),
        ih false hnext fun h => absurd h Bool.false_ne_true]

theorem collapse_lower (cs : List Char) : collapse (lower cs) = lower (collapse cs) :=
  collapseFrom_lowerFrom false rfl (fun h => absurd h Bool.false_ne_true) cs

/-! ## Forms of the small sigma -/

def isSmallSigma (c : Char) : Bool := c = 'σ' || c = 'ς'

/-- The small sigma as it is written within a word. -/
def medial (c : Char) : Char := if c = 'ς' then 'σ' else c

theorem medial_cases (c : Char) : isSmallSigma c = true ∧ medial c = 'σ' ∨
    isSmallSigma c = false ∧ medial c = c := by
  rw [isSmallSigma, medial]
  by_cases hfinal : c = 'ς'
  · exact .inl (by simp [hfinal])
  · by_cases hmedial : c = 'σ'
    · exact .inl (by simp [hmedial])
    · exact .inr (by simp [hfinal, hmedial])

theorem not_isSmallSigma_of_isBlank (c : Char) (h : isBlank c = true) : isSmallSigma c = false := by
  rw [Bool.eq_false_iff]
  intro hsigma
  rw [isSmallSigma, Bool.or_eq_true, decide_eq_true_eq, decide_eq_true_eq] at hsigma
  rcases hsigma with rfl | rfl
  · exact absurd h (by decide)
  · exact absurd h (by decide)

theorem keepsBlanks_medial : KeepsBlanks medial := by
  refine ⟨fun {c} hc => ?_, fun {c} hc => ?_⟩
  · rcases medial_cases c with ⟨hsigma, -⟩ | ⟨-, heq⟩
    · rw [not_isSmallSigma_of_isBlank c hc] at hsigma
      cases hsigma
    · exact heq
  · rcases medial_cases c with ⟨-, heq⟩ | ⟨-, heq⟩
    · rw [heq]
      decide
    · rwa [heq]

theorem keepsBlanks_withoutAccent : KeepsBlanks withoutAccent :=
  ⟨withoutAccent_of_isBlank, fun {c} hc => by rwa [isBlank_withoutAccent]⟩

/-- Texts that differ in the forms of sigmas only are equal if they have the same forms. -/
theorem eq_of_sigmas (hmedial : p.map medial = q.map medial)
    (hforms : p.filter isSmallSigma = q.filter isSmallSigma) : p = q := by
  induction p generalizing q with
  | nil => exact (List.map_eq_nil_iff.1 hmedial.symm).symm
  | cons x p ih =>
    obtain ⟨y, q, rfl, hy, hq⟩ := List.map_eq_cons_iff.1 hmedial.symm
    rcases medial_cases x with ⟨hx, hxm⟩ | ⟨hx, hxm⟩
    · rcases medial_cases y with ⟨hy', -⟩ | ⟨hy', hym⟩
      · rw [List.filter_cons_of_pos hx, List.filter_cons_of_pos hy', List.cons_eq_cons] at hforms
        rw [hforms.1, ih hq.symm hforms.2]
      · rw [← hym, hy, hxm] at hy'
        exact absurd hy' (by decide)
    · rcases medial_cases y with ⟨hy', hym⟩ | ⟨hy', hym⟩
      · rw [← hxm, ← hy, hym] at hx
        exact absurd hx (by decide)
      · rw [List.filter_cons_of_neg (by simp [hx]),
          List.filter_cons_of_neg (by simp [hy'])] at hforms
        rw [← hxm, ← hy, hym, ih hq.symm hforms]

theorem map_medial_lowerIn (before after before' after' cs : List Char) :
    (lowerIn before after cs).map medial = (lowerIn before' after' cs).map medial := by
  have hsigma : ∀ before after, medial (lowerSigma before after) = 'σ' := by
    intro before after
    rw [lowerSigma]
    split <;> rfl
  induction cs generalizing before before' with
  | nil => rfl
  | cons c cs ih =>
    rw [lowerIn, lowerIn, List.map_append, List.map_append, ih (c :: before) (c :: before')]
    split
    · rw [List.map_singleton, List.map_singleton, hsigma, hsigma]
    · rfl

theorem IsLetter.not_isSmallSigma (h : IsLetter c) : isSmallSigma c = false := by
  have hnot := h.notSigma
  simp only [List.mem_cons, List.not_mem_nil, or_false, not_or] at hnot
  simp [isSmallSigma, hnot]

theorem isSmallSigma_withoutAccent (c : Char) :
    isSmallSigma (withoutAccent c) = isSmallSigma c := by
  rcases isLetter_withoutAccent c with heq | ⟨hc, hbase⟩
  · rw [heq]
  · rw [hc.not_isSmallSigma, hbase.not_isSmallSigma]

theorem withoutAccent_of_isSmallSigma (h : isSmallSigma c = true) : withoutAccent c = c := by
  rcases isLetter_withoutAccent c with heq | ⟨hc, -⟩
  · exact heq
  · rw [hc.not_isSmallSigma] at h
    cases h

theorem medial_withoutAccent (c : Char) : medial (withoutAccent c) = withoutAccent (medial c) := by
  rcases medial_cases c with ⟨hsigma, heq⟩ | ⟨hsigma, heq⟩
  · rw [withoutAccent_of_isSmallSigma hsigma, heq, withoutAccent_of_isSmallSigma (by decide)]
  · rw [heq]
    rcases medial_cases (withoutAccent c) with ⟨hbase, -⟩ | ⟨-, hbase⟩
    · rw [isSmallSigma_withoutAccent, hsigma] at hbase
      cases hbase
    · exact hbase

theorem filter_withoutAccents (cs : List Char) :
    (cs.map withoutAccent).filter isSmallSigma = cs.filter isSmallSigma := by
  have hsame : isSmallSigma ∘ withoutAccent = isSmallSigma := funext isSmallSigma_withoutAccent
  rw [List.filter_map, hsame]
  conv_rhs => rw [← List.map_id (cs.filter isSmallSigma)]
  exact List.map_congr_left fun c hc => withoutAccent_of_isSmallSigma (List.mem_filter.1 hc).2

theorem map_medial_withoutAccents (h : p.map medial = q.map medial) :
    (p.map withoutAccent).map medial = (q.map withoutAccent).map medial := by
  have hcomm : medial ∘ withoutAccent = withoutAccent ∘ medial := funext medial_withoutAccent
  rw [List.map_map, List.map_map, hcomm, ← List.map_map, ← List.map_map, h]

end ChatPlan.Text
