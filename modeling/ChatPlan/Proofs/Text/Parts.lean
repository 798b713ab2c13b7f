import ChatPlan.Proofs.Text.Spacing

/-
Parts of a text. What trimming or collapsing makes of the beginning, the end or a part of a text is
the beginning, the end or a part of what it makes of the text (`KeepsParts`). Both look at blanks
only: where every other character is written in another way, or left out, the rest stays the same.
-/
namespace ChatPlan.Text

variable {c : Char} {cs a b : List Char} {f : List Char → List Char} {g : Char → Char}

/-- A beginning of a text stays one, and so does an end. -/
structure KeepsParts (f : List Char → List Char) : Prop where
  start : ∀ {a b}, a <+: b → f a <+: f b
  ending : ∀ {a b}, a <:+ b → f a <:+ f b

namespace KeepsParts

theorem part (h : KeepsParts f) (hab : a <:+: b) : f a <:+: f b := by
  obtain ⟨s, hstart, hending⟩ := List.infix_iff_prefix_suffix.1 hab
  exact (h.start hstart).isInfix.trans (h.ending hending).isInfix

/-- It is enough to look at one more character on either side. -/
theorem of_step (hcons : ∀ c cs, f cs <:+ f (c :: cs)) (hconcat : ∀ cs c, f cs <+: f (cs ++ [c])) :
    KeepsParts f where
  start := by
    rintro a _ ⟨t, rfl⟩
    induction t using List.reverseRecOn with
    | nil => exact ⟨[], by rw [List.append_nil, List.append_nil]⟩
    | append_singleton t c ih =>
      rw [← List.append_assoc]
      exact ih.trans (hconcat _ c)
  ending := by
    rintro a _ ⟨t, rfl⟩
    induction t with
    | nil => exact List.suffix_rfl
    | cons c t ih => exact ih.trans (hcons c _)

end KeepsParts

theorem trim_suffix_trim_cons (c : Char) (cs : List Char) : trim cs <:+ trim (c :: cs) := by
  obtain ⟨l, r, hl, hr, hcs⟩ := exists_trim cs
  cases hc : isBlank c with
  | true =>
    have hblank : Blanks [c] := by simpa [Blanks] using hc
    have hsame : trim ([c] ++ cs) = trim cs := trim_append_left hblank
    exact ⟨[], hsame.symm⟩
  | false =>
    by_cases hnil : trim cs = []
    · rw [hnil]
      exact List.nil_suffix
    · have hwhole : c :: cs = c :: l ++ trim cs ++ r := congrArg (c :: ·) hcs
      have htrim : trim (c :: l ++ trim cs) = c :: l ++ trim cs := by
        have hfirst : ∀ x, (c :: l).head? = some x → isBlank x = false := by
          rintro x ⟨⟩
          exact hc
        exact trim_append_eq_self (List.cons_ne_nil c l) hfirst hnil fun x =>
          isBlank_of_getLast?_trim
      rw [hwhole, trim_append_right hr, htrim]
      exact List.suffix_append _ _

theorem trim_reverse (cs : List Char) : trim cs.reverse = (trim cs).reverse := by
  obtain ⟨l, r, hl, hr, hcs⟩ := exists_trim cs
  have hblanks : ∀ {a}, Blanks a → Blanks a.reverse := fun ha c hc => ha c (List.mem_reverse.1 hc)
  have hself : trim (trim cs).reverse = (trim cs).reverse := by
    obtain ⟨hfirst, hlast⟩ := isTrimmed_trim cs
    exact trim_eq_self_iff.2 ⟨by rwa [List.head?_reverse], by rwa [List.getLast?_reverse]⟩
  conv_lhs => rw [hcs, List.reverse_append, List.reverse_append, ← List.append_assoc,
    trim_between (hblanks hr) (hblanks hl), hself]

theorem keepsParts_trim : KeepsParts trim := by
  refine .of_step trim_suffix_trim_cons fun cs c => ?_
  rw [← List.reverse_suffix, ← trim_reverse, ← trim_reverse, List.reverse_append]
  exact trim_suffix_trim_cons c cs.reverse

theorem keepsParts_collapse : KeepsParts collapse := by
  refine .of_step (fun c cs => ?_) fun cs c => ?_
  · rw [collapse, collapse, collapseFrom]
    split
    · -- the first blank of a run is the one that counts
      cases cs with
      | nil => exact List.nil_suffix
      | cons d cs =>
        rw [collapseFrom, collapseFrom]
        split
        · exact List.suffix_rfl
        · exact List.suffix_cons _ _
    · exact List.suffix_cons _ _
  · obtain ⟨inRun, heq⟩ := collapseFrom_append false cs [c]
    rw [collapse, collapse, heq]
    exact List.prefix_append _ _

/-! ## Other characters -/

/-- Blanks stay, and nothing else becomes one. -/
structure KeepsBlanks (g : Char → Char) : Prop where
  blank : ∀ {c}, isBlank c = true → g c = c
  word : ∀ {c}, isBlank c = false → isBlank (g c) = false

theorem KeepsBlanks.isBlank_eq (hg : KeepsBlanks g) (c : Char) : isBlank (g c) = isBlank c := by
  cases hc : isBlank c with
  | true => rw [hg.blank hc, hc]
  | false => exact hg.word hc

theorem KeepsBlanks.trim_map (hg : KeepsBlanks g) (cs : List Char) :
    trim (cs.map g) = (trim cs).map g := by
  have hsame : isBlank ∘ g = isBlank := funext hg.isBlank_eq
  rw [trim_eq, trim_eq, List.dropWhile_map, hsame, List.rdropWhile, List.rdropWhile,
    ← List.map_reverse, List.dropWhile_map, hsame, List.map_reverse]

theorem KeepsBlanks.collapse_map (hg : KeepsBlanks g) (cs : List Char) :
    collapse (cs.map g) = (collapse cs).map g := by
  have hspace : g ' ' = ' ' := hg.blank (by decide)
  have hall : ∀ inRun, collapseFrom inRun (cs.map g) = (collapseFrom inRun cs).map g := by
    induction cs with
    | nil => exact fun _ => rfl
    | cons c cs ih =>
      intro inRun
      rw [List.map_cons, collapseFrom, collapseFrom, hg.isBlank_eq, ih, ih]
      split
      · split
        · rfl
        · rw [List.map_cons, hspace]
      · rfl
  exact hall false

section Filter

variable {p : Char → Bool} (hp : ∀ c, isBlank c = true → p c = false)

include hp

theorem filter_of_blanks (ha : Blanks a) : a.filter p = [] :=
  List.filter_eq_nil_iff.2 fun c hc => by simp [hp c (ha c hc)]

theorem filter_trim (cs : List Char) : (trim cs).filter p = cs.filter p := by
  obtain ⟨l, r, hl, hr, hcs⟩ := exists_trim cs
  conv_rhs => rw [hcs]
  rw [List.filter_append, List.filter_append, filter_of_blanks hp hl, filter_of_blanks hp hr,
    List.nil_append, List.append_nil]

theorem filter_collapse (cs : List Char) : (collapse cs).filter p = cs.filter p := by
  have hspace : p ' ' = false := hp ' ' (by decide)
  have hall : ∀ inRun, (collapseFrom inRun cs).filter p = cs.filter p := by
    induction cs with
    | nil => exact fun _ => rfl
    | cons c cs ih =>
      intro inRun
      rw [collapseFrom]
      split
      · rename_i hc
        rw [List.filter_cons_of_neg (by simp [hp c hc])]
        split
        · exact ih true
        · rw [List.filter_cons_of_neg (by simp [hspace]), ih]
      · rw [List.filter_cons, List.filter_cons, ih]
  exact hall false

end Filter

end ChatPlan.Text
