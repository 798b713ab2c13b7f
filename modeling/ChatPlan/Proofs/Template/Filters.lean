import ChatPlan.Proofs.Guard.Grammar
import ChatPlan.Proofs.Guard.Split
import ChatPlan.Proofs.Template.Segments

/-
The filters of a block. Where a pipe stands in a body (`IsPipe`) and which name follows it
(`StartsWithName`) is said here without cutting the body into pieces. Every name behind a pipe is
among the filters of its block, unless there is a point in it (`mem_filters_of_scan`).
-/
namespace ChatPlan.Template

open Text

/-- A pipe stands between the two texts: it is outside quotes, which work as in guards, and it is
not one of a pair. Pairs are counted from the left. -/
structure IsPipe (before after : List Char) : Prop where
  outside : Guard.quoteBehind none before = none
  even : (before.rtakeWhile (· == '|')).length % 2 = 0
  single : after.head? ≠ some '|'

/-- The text has the name in front, behind blanks. Nothing continues the name; points at its end do
not belong to it. -/
structure StartsWithName (text name : List Char) : Prop where
  starts : ∃ c, name.head? = some c ∧ startsName c = true
  continues : ∀ c ∈ name, continuesName c = true
  ends : name.getLast? ≠ some '.'
  stands : ∃ blanks points rest, text = blanks ++ (name ++ points ++ rest) ∧ Blanks blanks ∧
    (∀ c ∈ points, c = '.') ∧ ∀ c, rest.head? = some c → continuesName c = false

variable {c : Char} {a after before cs name p rest : List Char} {ps qs : List (List Char)}
  {quote : Option Char}

/-! ## Pieces behind a pipe -/

/-- Some pieces, and behind them the given ones. -/
def EndsWith (qs ps : List (List Char)) : Prop := ∃ first, first ≠ [] ∧ ps = first ++ qs

theorem EndsWith.consPiece (h : EndsWith qs ps) (c : Char) : EndsWith qs (consPiece c ps) := by
  obtain ⟨first, hne, rfl⟩ := h
  obtain ⟨p, first, rfl⟩ := List.exists_cons_of_ne_nil hne
  exact ⟨(c :: p) :: first, List.cons_ne_nil _ _, rfl⟩

theorem EndsWith.cons (h : EndsWith qs ps) (p : List Char) : EndsWith qs (p :: ps) := by
  obtain ⟨first, -, rfl⟩ := h
  exact ⟨p :: first, List.cons_ne_nil _ _, rfl⟩

theorem splitPipes_pipe (h : after.head? ≠ some '|') :
    splitPipes none ('|' :: after) = [] :: splitPipes none after := by
  cases after with
  | nil => simp [splitPipes]
  | cons d after =>
    rw [splitPipes]
    intro after' hpair
    exact h (by rw [hpair]; rfl)

theorem splitPipes_plain (h : c ≠ '|') (cs : List Char) :
    splitPipes none (c :: cs) = consPiece c (splitPipes (Guard.quoteAfter none c) cs) := by
  rw [splitPipes]
  · rfl
  · exact fun _ hc _ => h hc
  · exact h

theorem getLast?_tail_ne {d : Char} (h : (c :: cs).getLast? ≠ some d) : cs.getLast? ≠ some d := by
  intro hlast
  rw [List.getLast?_cons, hlast, Option.getD_some] at h
  exact h rfl

theorem endsWith_append (hquote : Guard.quoteBehind quote a = none) (hlast : a.getLast? ≠ some '|')
    (hrest : EndsWith qs (splitPipes none rest)) :
    EndsWith qs (splitPipes quote (a ++ rest)) := by
  fun_induction splitPipes quote a with
  | case1 quote =>
    obtain rfl : quote = none := hquote
    exact hrest
  | case2 q c cs ih =>
    rw [List.cons_append, splitPipes]
    exact (ih hquote (getLast?_tail_ne hlast)).consPiece c
  | case3 cs ih =>
    rw [List.cons_append, List.cons_append, splitPipes]
    exact ((ih hquote (getLast?_tail_ne (getLast?_tail_ne hlast))).consPiece '|').consPiece '|'
  | case4 cs hnext ih =>
    -- the text goes on behind the pipe, for it does not end in one
    obtain ⟨d, cs, rfl⟩ : ∃ d ds, cs = d :: ds := by
      cases cs with
      | nil => exact absurd rfl hlast
      | cons d ds => exact ⟨d, ds, rfl⟩
    have hsingle : (d :: cs ++ rest).head? ≠ some '|' := by
      intro hd
      exact hnext cs (by rw [Option.some.inj hd])
    rw [List.cons_append, splitPipes_pipe hsingle]
    exact (ih hquote (getLast?_tail_ne hlast)).cons []
  | case5 c cs hpair hpipe ih =>
    rw [List.cons_append, splitPipes_plain hpipe]
    exact (ih hquote (getLast?_tail_ne hlast)).consPiece c

/-- Pairs in front of a pipe do not change where it cuts. -/
theorem endsWith_pairs (hsingle : after.head? ≠ some '|') (n : Nat) :
    EndsWith (splitPipes none after)
      (splitPipes none (List.replicate (2 * n) '|' ++ '|' :: after)) := by
  induction n with
  | zero =>
    refine ⟨[[]], List.cons_ne_nil _ _, ?_⟩
    exact splitPipes_pipe hsingle
  | succ n ih =>
    rw [Nat.mul_succ, List.replicate_succ, List.replicate_succ, List.cons_append, List.cons_append,
      splitPipes]
    exact (ih.consPiece '|').consPiece '|'

theorem quoteBehind_concat (quote : Option Char) (cs : List Char) (c : Char) :
    Guard.quoteBehind quote (cs ++ [c]) = Guard.quoteAfter (Guard.quoteBehind quote cs) c :=
  Guard.quoteBehind_append quote cs [c]

/-- Only a quote can be open. -/
theorem isQuote_of_open {q : Char} (h : Guard.quoteBehind none cs = some q) :
    Guard.isQuote q = true := by
  induction cs using List.reverseRecOn generalizing q with
  | nil => cases h
  | append_singleton cs c ih =>
    rw [quoteBehind_concat] at h
    cases hopen : Guard.quoteBehind none cs with
    | none =>
      rw [hopen, Guard.quoteAfter] at h
      split at h
      · rename_i hquote
        cases h
        exact hquote
      · cases h
    | some r =>
      rw [hopen, Guard.quoteAfter] at h
      split at h
      · cases h
      · cases h
        exact ih hopen

theorem quoteBehind_of_pipes {n : Nat}
    (h : Guard.quoteBehind none (a ++ List.replicate n '|') = none) :
    Guard.quoteBehind none a = none := by
  cases hopen : Guard.quoteBehind none a with
  | none => rfl
  | some q =>
    have hne : '|' ≠ q := by
      rintro rfl
      exact absurd (isQuote_of_open hopen) (by decide)
    have hstays (m : Nat) : Guard.quoteBehind (some q) (List.replicate m '|') = some q := by
      induction m with
      | zero => rfl
      | succ m ih =>
        rw [List.replicate_succ', quoteBehind_concat, ih, Guard.quoteAfter, if_neg hne]
    rw [Guard.quoteBehind_append, hopen, hstays] at h
    cases h

theorem endsWith_of_isPipe (h : IsPipe before after) :
    EndsWith (splitPipes none after) (splitPipes none (before ++ '|' :: after)) := by
  obtain ⟨n, hn⟩ : ∃ n, before.rtakeWhile (· == '|') = List.replicate (2 * n) '|' := by
    refine ⟨(before.rtakeWhile (· == '|')).length / 2, List.eq_replicate_iff.2 ⟨?_, ?_⟩⟩
    · have heven := h.even
      omega
    · intro c hc
      simpa using List.mem_rtakeWhile_imp hc
  have hbefore : before = before.rdropWhile (· == '|') ++ List.replicate (2 * n) '|' := by
    rw [← hn, List.rdropWhile_append_rtakeWhile]
  have houtside := h.outside
  rw [hbefore] at houtside
  rw [hbefore, List.append_assoc]
  refine endsWith_append (quoteBehind_of_pipes houtside) ?_ (endsWith_pairs h.single n)
  intro hlast
  have hne : before.rdropWhile (· == '|') ≠ [] := by
    intro hnil
    rw [hnil] at hlast
    cases hlast
  rw [List.getLast?_eq_getLast_of_ne_nil hne, Option.some.injEq] at hlast
  exact List.rdropWhile_last_not _ _ hne (by rw [hlast]; rfl)

/-! ## The name behind a pipe -/

theorem prefix_of_consPiece (h : consPiece c ps = p :: qs) (hps : ∀ q qs, ps = q :: qs → q <+: cs) :
    p <+: c :: cs := by
  cases ps with
  | nil =>
    cases h
    exact (List.prefix_cons_inj c).2 List.nil_prefix
  | cons q rest =>
    cases h
    exact (List.prefix_cons_inj c).2 (hps q qs rfl)

theorem prefix_of_splitPipes (h : splitPipes quote cs = p :: ps) : p <+: cs := by
  fun_induction splitPipes quote cs generalizing p ps with
  | case1 =>
    cases h
    exact List.nil_prefix
  | case2 q c cs ih => exact prefix_of_consPiece h fun _ _ => ih
  | case3 cs ih => exact prefix_of_consPiece h fun _ _ h => prefix_of_consPiece h fun _ _ => ih
  | case4 cs hnext ih =>
    cases h
    exact List.nil_prefix
  | case5 c cs hpair hpipe ih => exact prefix_of_consPiece h fun _ _ => ih

theorem splitPipes_append (ha : ∀ c ∈ a, isQuote c = false ∧ c ≠ '|')
    (h : splitPipes none rest = p :: ps) : splitPipes none (a ++ rest) = (a ++ p) :: ps := by
  induction a with
  | nil => exact h
  | cons c a ih =>
    obtain ⟨hquote, hpipe⟩ := ha c List.mem_cons_self
    have hafter : Guard.quoteAfter none c = none := if_neg (Bool.eq_false_iff.1 hquote)
    rw [List.cons_append, splitPipes_plain hpipe, hafter,
      ih fun d hd => ha d (List.mem_cons_of_mem c hd)]
    rfl

theorem splitPipes_ne_nil (quote : Option Char) (cs : List Char) : splitPipes quote cs ≠ [] := by
  have hne {c : Char} {ps : List (List Char)} : consPiece c ps ≠ [] := by cases ps <;> nofun
  fun_cases splitPipes quote cs with
  | case1 => nofun
  | case2 => exact hne
  | case3 => exact hne
  | case4 => nofun
  | case5 => exact hne

theorem isDigit_eq_false_of_ranges {t : List (Nat × Nat)}
    (h : ∀ r ∈ t, ∀ s ∈ [(48, 57)], r.2 < s.1 ∨ s.2 < r.1) (hc : inRanges t c = true) :
    c.isDigit = false := by
  have hout := inRanges_eq_false h hc
  simpa [inRanges, Char.isDigit, UInt32.le_iff_toNat_le] using hout

theorem isDigit_eq_false_of_isBlank (h : isBlank c = true) : c.isDigit = false :=
  isDigit_eq_false_of_ranges (by decide) h

theorem isDigit_eq_false_of_startsName (h : startsName c = true) : c.isDigit = false := by
  rw [startsName, Bool.or_eq_true, beq_iff_eq] at h
  rcases h with h | rfl
  · exact isDigit_eq_false_of_ranges (by decide +kernel) h
  · rfl

theorem continuesName_of_startsName (h : startsName c = true) : continuesName c = true := by
  rw [startsName, Bool.or_eq_true] at h
  rcases h with h | h
  · simp [continuesName, isAlphanumeric, h]
  · simp [continuesName, h]

theorem startsName_eq_false_of_isBlank (h : isBlank c = true) : startsName c = false := by
  cases hstarts : startsName c with
  | false => rfl
  | true =>
    rw [startsName, Bool.or_eq_true, beq_iff_eq] at hstarts
    rcases hstarts with hletter | rfl
    · rw [isBlank_of_isAlphanumeric (by rw [isAlphanumeric, hletter, Bool.true_or])] at h
      cases h
    · exact absurd h (by decide)

theorem isQuote_eq_false_of_continuesName (h : continuesName c = true) : isQuote c = false := by
  cases hquote : isQuote c with
  | false => rfl
  | true =>
    rw [isQuote, Bool.or_eq_true, beq_iff_eq, beq_iff_eq] at hquote
    rcases hquote with rfl | rfl <;> exact absurd h (by decide +kernel)

theorem ne_pipe_of_continuesName (h : continuesName c = true) : c ≠ '|' := by
  rintro rfl
  exact absurd h (by decide +kernel)

theorem ne_pipe_of_isBlank (h : isBlank c = true) : c ≠ '|' := by
  rintro rfl
  exact absurd h (by decide)

theorem tokens_blanks (ha : Blanks a) (cs : List Char) : tokens (a ++ cs) = tokens cs := by
  induction a with
  | nil => rfl
  | cons c a ih =>
    have hblank := ha c List.mem_cons_self
    have hquote : isQuote c = false := Guard.isQuote_of_isBlank hblank
    rw [List.cons_append, tokens, hquote, if_neg Bool.false_ne_true,
      isDigit_eq_false_of_isBlank hblank, if_neg Bool.false_ne_true,
      startsName_eq_false_of_isBlank hblank, if_neg Bool.false_ne_true]
    exact ih fun d hd => ha d (List.mem_cons_of_mem c hd)

theorem takeWhile_of_head {p : Char → Bool} (h : ∀ c, cs.head? = some c → p c = false) :
    cs.takeWhile p = [] := by
  cases cs with
  | nil => rfl
  | cons c cs => exact List.takeWhile_cons_of_neg (Bool.eq_false_iff.1 (h c rfl))

theorem StartsWithName.continues_points {points : List Char} (h : StartsWithName cs name)
    (hpoints : ∀ c ∈ points, c = '.') : ∀ c ∈ name ++ points, continuesName c = true := by
  intro c hc
  rcases List.mem_append.1 hc with hc | hc
  · exact h.continues c hc
  · rw [hpoints c hc]
    decide +kernel

theorem tokens_of_startsWithName (h : StartsWithName cs name) :
    ∃ isCall ts, tokens cs = ⟨name, isCall⟩ :: ts := by
  obtain ⟨blanks, points, rest, rfl, hblanks, hpoints, hrest⟩ := h.stands
  obtain ⟨c, hc, hstarts⟩ := h.starts
  obtain ⟨name', rfl⟩ := List.head?_eq_some_iff.1 hc
  have hquote := isQuote_eq_false_of_continuesName (continuesName_of_startsName hstarts)
  rw [tokens_blanks hblanks, List.cons_append, List.cons_append, tokens, hquote,
    if_neg Bool.false_ne_true, isDigit_eq_false_of_startsName hstarts, if_neg Bool.false_ne_true,
    hstarts, if_pos rfl]
  have hrun : (name' ++ points ++ rest).takeWhile continuesName = name' ++ points := by
    rw [List.takeWhile_append_of_pos, takeWhile_of_head hrest, List.append_nil]
    intro d hd
    exact h.continues_points hpoints d (List.mem_cons_of_mem c hd)
  have hpath : dropEndWhile (· == '.') (c :: name' ++ points) = c :: name' := by
    change (c :: name' ++ points).rdropWhile (· == '.') = c :: name'
    rw [rdropWhile_append_of_forall, List.rdropWhile_eq_self_iff]
    · intro hne hpoint
      refine h.ends ?_
      rw [List.getLast?_eq_getLast_of_ne_nil hne, eq_of_beq hpoint]
    · intro d hd
      rw [hpoints d hd]
      rfl
  rw [hrun, ← List.cons_append, hpath]
  exact ⟨_, _, rfl⟩

/-- The first piece of a text with a name in front has that name in front, too. -/
theorem StartsWithName.piece (h : StartsWithName cs name) (hcut : splitPipes none cs = p :: ps) :
    StartsWithName p name := by
  obtain ⟨blanks, points, rest, rfl, hblanks, hpoints, hrest⟩ := h.stands
  obtain ⟨q, qs, hq⟩ := List.exists_cons_of_ne_nil (splitPipes_ne_nil none rest)
  have hplain : ∀ c ∈ blanks ++ (name ++ points), isQuote c = false ∧ c ≠ '|' := by
    intro c hc
    rcases List.mem_append.1 hc with hc | hc
    · exact ⟨Guard.isQuote_of_isBlank (hblanks c hc), ne_pipe_of_isBlank (hblanks c hc)⟩
    · have hcontinues := h.continues_points hpoints c hc
      exact ⟨isQuote_eq_false_of_continuesName hcontinues, ne_pipe_of_continuesName hcontinues⟩
  rw [← List.append_assoc, splitPipes_append hplain hq, List.cons.injEq] at hcut
  refine { h with stands := ⟨blanks, points, q, ?_, hblanks, hpoints, fun c hc => ?_⟩ }
  · rw [← hcut.1, List.append_assoc]
  · obtain ⟨r, rfl⟩ := prefix_of_splitPipes hq
    exact hrest c (by rw [List.head?_append, hc, Option.some_or])

theorem mem_filters_of_isPipe (hpipe : IsPipe before after) (hname : StartsWithName after name)
    (hpoint : '.' ∉ name) (kind : BlockKind) (bound : List (List Char)) :
    String.ofList name ∈ (usage kind bound (before ++ '|' :: after)).filters := by
  obtain ⟨first, hne, hcut⟩ := endsWith_of_isPipe hpipe
  obtain ⟨p₀, first, rfl⟩ := List.exists_cons_of_ne_nil hne
  obtain ⟨p, ps, hp⟩ := List.exists_cons_of_ne_nil (splitPipes_ne_nil none after)
  obtain ⟨isCall, ts, htokens⟩ := tokens_of_startsWithName (hname.piece hp)
  have hfilter : (takeFilter (tokens p)).1 = some (String.ofList name) := by
    rw [htokens, takeFilter, if_neg (by simpa using hpoint)]
  rw [usage, hcut, hp]
  refine List.mem_filterMap.2 ⟨takeFilter (tokens p), ?_, hfilter⟩
  exact List.mem_map.2 ⟨p, by simp, rfl⟩

/-! ## The blocks of a scan -/

/-- Every block that a scan finds is made from the text between its delimiters. -/
theorem exists_blockOf {offset : Nat} {bound : List (List Char)} {blocks : List Block} {b : Block}
    (h : scanFrom offset bound cs = .ok blocks) (hb : b ∈ blocks) :
    ∃ kind offset bound inner, b = (blockOf kind offset bound inner).1 := by
  fun_induction scanFrom offset bound cs generalizing blocks with
  | case1 =>
    cases h
    cases hb
  | case2 =>
    cases h
    cases hb
  | case3 offset bound c d cs hnone ih => exact ih h hb
  | case4 offset bound c d cs hopen hcut ih => exact ih h hb
  | case5 => cases h
  | case6 => cases h
  | case7 offset bound c d cs kind hopen inner rest hcut hbody b' bound' hblock ih =>
    obtain ⟨later, hlater, rfl⟩ := map_eq_ok_iff.1 h
    rcases List.mem_cons.1 hb with rfl | hb
    · exact ⟨kind, offset, bound, inner, by rw [hblock]⟩
    · exact ih hlater hb

/-- In an output or a statement, every name behind a pipe is a filter of the block, unless there is
a point in it. -/
theorem mem_filters_of_scan {text : String} {blocks : List Block} {b : Block}
    (h : scan text = .ok blocks) (hb : b ∈ blocks) (hkind : b.kind ≠ .comment)
    (hbody : b.body.toList = before ++ '|' :: after) (hpipe : IsPipe before after)
    (hname : StartsWithName after name) (hpoint : '.' ∉ name) :
    String.ofList name ∈ b.filters := by
  obtain ⟨kind, offset, bound, inner, rfl⟩ := exists_blockOf h hb
  have hfilters := mem_filters_of_isPipe hpipe hname hpoint kind bound
  have hinner : bodyOf inner = before ++ '|' :: after := by simpa [blockOf] using hbody
  have hnot : kind ≠ .comment := hkind
  simpa only [blockOf, hinner, if_neg hnot] using hfilters

end ChatPlan.Template
