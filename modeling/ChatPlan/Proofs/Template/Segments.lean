import ChatPlan.Template.Scan
import Mathlib.Data.List.Infix

/-
Every text is cut by its scan into blocks and the gaps between them. A gap opens no block; a block
runs from its opening to the first closing behind that. Where a scan fails, it fails at an opening,
and the text in front of that is cut in the same way (`scan_segments`).
-/
namespace ChatPlan.Template

open Text

/-- The delimiter that opens a block of the kind. -/
def BlockKind.opening (kind : BlockKind) : List Char := ['{', kind.mark]

/-- The delimiter that closes a block of the kind. -/
def BlockKind.closing (kind : BlockKind) : List Char := [kind.closeMark, '}']

/-- The text stands between two delimiters of the kind, and the closing one is the first that there
is behind the opening one. -/
def BlockKind.Encloses (kind : BlockKind) (inner raw : List Char) : Prop :=
  raw = kind.opening ++ inner ++ kind.closing ∧ ¬kind.closing <:+: inner ++ [kind.closeMark]

/-- No block opens in the gap, where `later` stands behind it: an opening that starts in the gap is
that of a comment which is never closed. -/
def IsGap (gap later : List Char) : Prop :=
  ∀ a b, ∀ kind : BlockKind, gap ++ later = a ++ (kind.opening ++ b) → a.length < gap.length →
    kind = .comment ∧ ¬kind.closing <:+: b

/-- The block stands in its text with delimiters and with a trimmed body. An output has a body. -/
def Block.IsCut (b : Block) : Prop :=
  ∃ inner, b.kind.Encloses inner b.raw.toList ∧ b.body.toList = bodyOf inner ∧
    (b.kind = .output → bodyOf inner ≠ [])

/-- A gap, and the block behind it. -/
structure Piece where
  gap : List Char
  block : Block

/-- The text that the pieces make up. -/
def joinPieces (ps : List Piece) : List Char := ps.flatMap fun p => p.gap ++ p.block.raw.toList

/-- The text from this byte on consists of the pieces, a last gap, and a rest. -/
inductive Segments : Nat → List Char → List Piece → List Char → List Char → Prop where
  | last {offset : Nat} {gap rest : List Char} (hgap : IsGap gap rest) :
      Segments offset (gap ++ rest) [] gap rest
  | block {offset : Nat} {gap later last rest : List Char} {b : Block} {ps : List Piece}
      (hgap : IsGap gap (b.raw.toList ++ later)) (hcut : b.IsCut)
      (hoffset : b.offset = offset + bytes gap)
      (hlater : Segments (b.offset + bytes b.raw.toList) later ps last rest) :
      Segments offset (gap ++ (b.raw.toList ++ later)) (⟨gap, b⟩ :: ps) last rest

/-- What is wrong where a scan stops: an output or a statement is never closed, or the body of an
output is empty. -/
def ScanError.Stops (rest : List Char) : ScanError → Prop
  | .unterminated _ kind =>
    kind ≠ .comment ∧ ∃ inner, rest = kind.opening ++ inner ∧ ¬kind.closing <:+: inner
  | .emptyOutput _ => ∃ inner raw later, rest = raw ++ later ∧
      BlockKind.output.Encloses inner raw ∧ bodyOf inner = []

variable {c mark : Char} {cs gap inner later rest text : List Char} {kind : BlockKind}
  {offset : Nat}

/-! ## Delimiters -/

theorem ofMark?_eq_some_iff {d : Char} : BlockKind.ofMark? d = some kind ↔ kind.mark = d := by
  constructor
  · intro h
    have hmark := List.find?_some h
    simpa using hmark
  · rintro rfl
    cases kind <;> rfl

theorem cutClose_cons (mark c : Char) (cs : List Char) : cutClose mark (c :: cs) =
    if c = mark ∧ cs.head? = some '}' then some ([], cs.tail)
    else (cutClose mark cs).map fun (inner, rest) => (c :: inner, rest) := by
  cases cs with
  | nil => simp [cutClose]
  | cons d cs =>
    rw [cutClose]
    simp

theorem closing_prefix_cons : [mark, '}'] <+: c :: cs ↔ c = mark ∧ cs.head? = some '}' := by
  rw [List.cons_prefix_cons, eq_comm, List.head?_eq_some_iff]
  apply and_congr_right'
  constructor
  · rintro ⟨r, rfl⟩
    exact ⟨r, rfl⟩
  · rintro ⟨r, rfl⟩
    exact ⟨r, rfl⟩

theorem cutClose_eq_some (h : cutClose mark cs = some (inner, rest)) :
    cs = inner ++ ([mark, '}'] ++ rest) ∧ ¬[mark, '}'] <:+: inner ++ [mark] := by
  induction cs generalizing inner with
  | nil => cases h
  | cons c cs ih =>
    rw [cutClose_cons] at h
    split at h
    · rename_i hclose
      cases h
      obtain ⟨rfl, hhead⟩ := hclose
      obtain ⟨r, rfl⟩ := List.head?_eq_some_iff.1 hhead
      exact ⟨rfl, fun hinfix => absurd hinfix.length_le (by simp)⟩
    · rename_i hclose
      obtain ⟨⟨i, r⟩, hcut, hpair⟩ := Option.map_eq_some_iff.1 h
      cases hpair
      obtain ⟨rfl, hfirst⟩ := ih hcut
      have hhead : (i ++ ([mark, '}'] ++ rest)).head? = (i ++ [mark]).head? := by
        cases i <;> rfl
      refine ⟨rfl, fun hinfix => ?_⟩
      rcases List.infix_cons_iff.1 hinfix with hprefix | hinfix
      · exact hclose (hhead ▸ closing_prefix_cons.1 hprefix)
      · exact hfirst hinfix

theorem cutClose_eq_none_iff : cutClose mark cs = none ↔ ¬[mark, '}'] <:+: cs := by
  induction cs with
  | nil => simp [cutClose]
  | cons c cs ih =>
    rw [cutClose_cons, List.infix_cons_iff, closing_prefix_cons, not_or, ← ih]
    split
    · rename_i hclose
      simp [hclose]
    · rename_i hclose
      simp [hclose]

/-! ## Gaps -/

/-- No block opens at the start of a text: it is no opening, or that of a comment which is never
closed. -/
def OpensNothing (text : List Char) : Prop :=
  ∀ b, ∀ kind : BlockKind, text = kind.opening ++ b → kind = .comment ∧ ¬kind.closing <:+: b

theorem isGap_nil (later : List Char) : IsGap [] later := by
  intro a b kind _ hlt
  simp at hlt

/-- One more character belongs to a gap if no block opens at it. -/
theorem IsGap.cons (h : IsGap gap later) (hopen : OpensNothing (c :: (gap ++ later))) :
    IsGap (c :: gap) later := by
  intro a b kind heq hlt
  cases a with
  | nil => exact hopen b kind heq
  | cons d a =>
    rw [List.cons_append, List.cons_append, List.cons.injEq] at heq
    exact h a b kind heq.2 (by simpa using hlt)

theorem Segments.text_eq {ps : List Piece} (h : Segments offset text ps gap rest) :
    text = joinPieces ps ++ gap ++ rest := by
  induction h with
  | last => rfl
  | block _ _ _ _ ih =>
    rw [ih]
    simp [joinPieces]

theorem Segments.cons {ps : List Piece} (h : Segments (offset + c.utf8Size) text ps gap rest)
    (hopen : OpensNothing (c :: text)) : ∃ ps' gap', Segments offset (c :: text) ps' gap' rest ∧
      ps'.map (·.block) = ps.map (·.block) := by
  cases h with
  | last hgap => exact ⟨[], c :: gap, .last (hgap.cons hopen), rfl⟩
  | @block _ first later _ _ b ps hgap hcut hoffset hlater =>
    refine ⟨⟨c :: first, b⟩ :: ps, gap, ?_, rfl⟩
    refine .block (hgap.cons hopen) hcut ?_ hlater
    rw [hoffset, bytes, bytes, total_cons, Nat.add_assoc]

/-! ## Scans -/

/-- The result of a scan tells how the text from this byte on is cut. -/
def Describes (offset : Nat) (text : List Char) : Except ScanError (List Block) → Prop
  | .ok blocks => ∃ ps last, Segments offset text ps last [] ∧ ps.map (·.block) = blocks
  | .error e => ∃ ps gap rest, Segments offset text ps gap rest ∧
      e.offset = offset + bytes (joinPieces ps ++ gap) ∧ e.Stops rest

theorem bytes_append (a b : List Char) : bytes (a ++ b) = bytes a + bytes b := total_append _ a b

/-- A scan goes on at the next character if no block opens here. -/
theorem Describes.cons {r : Except ScanError (List Block)}
    (h : Describes (offset + c.utf8Size) text r) (hopen : OpensNothing (c :: text)) :
    Describes offset (c :: text) r := by
  cases r with
  | ok blocks =>
    obtain ⟨ps, last, hps, hblocks⟩ := h
    obtain ⟨ps', last', hps', hsame⟩ := hps.cons hopen
    exact ⟨ps', last', hps', hsame.trans hblocks⟩
  | error e =>
    obtain ⟨ps, gap, rest, hps, hoffset, hstops⟩ := h
    obtain ⟨ps', gap', hps', -⟩ := hps.cons hopen
    refine ⟨ps', gap', rest, hps', ?_, hstops⟩
    have hread : joinPieces ps' ++ gap' = c :: (joinPieces ps ++ gap) := by
      refine (List.append_left_inj rest).1 ?_
      rw [← hps'.text_eq, hps.text_eq]
      rfl
    rw [hoffset, hread, bytes, bytes, total_cons, Nat.add_assoc]

theorem Describes.block {r : Except ScanError (List Block)} {b : Block} (hcut : b.IsCut)
    (hoffset : b.offset = offset)
    (h : Describes (offset + bytes b.raw.toList) later r) :
    Describes offset (b.raw.toList ++ later) (r.map (b :: ·)) := by
  subst hoffset
  have hone {ps : List Piece} {gap rest : List Char}
      (hps : Segments (b.offset + bytes b.raw.toList) later ps gap rest) :
      Segments b.offset (b.raw.toList ++ later) (⟨[], b⟩ :: ps) gap rest :=
    .block (isGap_nil _) hcut rfl hps
  cases r with
  | ok blocks =>
    obtain ⟨ps, last, hps, rfl⟩ := h
    exact ⟨_, last, hone hps, rfl⟩
  | error e =>
    obtain ⟨ps, gap, rest, hps, hoffset, hstops⟩ := h
    refine ⟨_, gap, rest, hone hps, ?_, hstops⟩
    rw [hoffset]
    simp [joinPieces, bytes_append, Nat.add_assoc]

theorem kind_opening_of_eq_some {d : Char}
    (h : (if _ : c = '{' then BlockKind.ofMark? d else none) = some kind) :
    c :: d :: cs = kind.opening ++ cs := by
  split at h
  · rename_i hbrace
    rw [hbrace, BlockKind.opening, ofMark?_eq_some_iff.1 h]
    rfl
  · cases h

theorem opensNothing_of_eq_none {d : Char}
    (h : (if _ : c = '{' then BlockKind.ofMark? d else none) = none) :
    OpensNothing (c :: d :: cs) := by
  intro b kind heq
  have hbrace : c = '{' := (List.cons.inj heq).1
  have hmark : d = kind.mark := (List.cons.inj (List.cons.inj heq).2).1
  rw [dif_pos hbrace, ofMark?_eq_some_iff.2 hmark.symm] at h
  cases h

theorem opensNothing_of_ne (h : c ≠ '{') : OpensNothing (c :: text) :=
  fun _ _ heq => absurd (List.cons.inj heq).1 h

/-- An opening of a comment opens nothing if no closing follows. -/
theorem opensNothing_of_unclosed (h : ¬BlockKind.comment.closing <:+: text) :
    OpensNothing (BlockKind.comment.opening ++ text) := by
  intro b kind heq
  cases kind with
  | comment =>
    rw [← List.append_cancel_left heq]
    exact ⟨rfl, h⟩
  | output => simp [BlockKind.opening, BlockKind.mark] at heq
  | statement => simp [BlockKind.opening, BlockKind.mark] at heq

theorem describes_nil (offset : Nat) : Describes offset [] (.ok []) :=
  ⟨[], [], .last (isGap_nil []), rfl⟩

theorem describes_stop {e : ScanError} (hoffset : e.offset = offset) (h : e.Stops text) :
    Describes offset text (.error e) := ⟨[], [], text, .last (isGap_nil text), hoffset, h⟩

theorem encloses_blockOf (offset : Nat) (bound : List (List Char))
    (hfirst : ¬kind.closing <:+: inner ++ [kind.closeMark]) :
    kind.Encloses inner (blockOf kind offset bound inner).1.raw.toList := by
  refine ⟨?_, hfirst⟩
  simp [blockOf, BlockKind.opening, BlockKind.closing]

theorem BlockKind.Encloses.bytes_eq {raw : List Char} (h : kind.Encloses inner raw) :
    bytes raw = bytes inner + 4 := by
  have hopening : bytes kind.opening = 2 := by cases kind <;> rfl
  have hclosing : bytes kind.closing = 2 := by cases kind <;> rfl
  rw [h.1, bytes_append, bytes_append, hopening, hclosing]
  omega

theorem isCut_blockOf (offset : Nat) (bound : List (List Char))
    (hfirst : ¬kind.closing <:+: inner ++ [kind.closeMark])
    (hbody : ¬(decide (kind = .output) && (bodyOf inner).isEmpty) = true) :
    (blockOf kind offset bound inner).1.IsCut := by
  refine ⟨inner, encloses_blockOf offset bound hfirst, ?_, ?_⟩
  · simp [blockOf]
  · simpa [blockOf] using hbody

theorem describes_scanFrom (offset : Nat) (bound : List (List Char)) (text : List Char) :
    Describes offset text (scanFrom offset bound text) := by
  fun_induction scanFrom offset bound text with
  | case1 offset => exact describes_nil offset
  | case2 offset bound c =>
    refine (describes_nil _).cons fun b kind heq => ?_
    simp [BlockKind.opening] at heq
  | case3 offset bound c d cs hnone ih => exact ih.cons (opensNothing_of_eq_none hnone)
  | case4 offset bound c d cs hopen hcut ih =>
    rw [kind_opening_of_eq_some hopen]
    -- both characters of the opening belong to a gap
    have hmark : Describes (offset + 1) ('#' :: cs) (scanFrom (offset + 2) bound cs) :=
      Describes.cons ih (opensNothing_of_ne (by decide))
    exact hmark.cons (opensNothing_of_unclosed (cutClose_eq_none_iff.1 hcut))
  | case5 offset bound c d cs kind hopen hcut hkind =>
    rw [kind_opening_of_eq_some hopen]
    exact describes_stop rfl ⟨hkind, cs, rfl, cutClose_eq_none_iff.1 hcut⟩
  | case6 offset bound c d cs kind hopen inner rest hcut hempty =>
    obtain ⟨rfl, hfirst⟩ := cutClose_eq_some hcut
    rw [kind_opening_of_eq_some hopen]
    simp only [Bool.and_eq_true, decide_eq_true_iff, List.isEmpty_iff] at hempty
    obtain ⟨rfl, hbody⟩ := hempty
    refine describes_stop rfl ⟨inner, _, rest, ?_, ⟨rfl, hfirst⟩, hbody⟩
    simp only [BlockKind.closing, List.append_assoc]
  | case7 offset bound c d cs kind hopen inner rest hcut hbody b bound' hblock ih =>
    obtain ⟨rfl, hfirst⟩ := cutClose_eq_some hcut
    rw [kind_opening_of_eq_some hopen]
    have hb : b = (blockOf kind offset bound inner).1 := by rw [hblock]
    have hraw := encloses_blockOf offset bound hfirst
    have htext : kind.opening ++ (inner ++ ([kind.closeMark, '}'] ++ rest)) =
        b.raw.toList ++ rest := by
      rw [hb, hraw.1]
      simp only [BlockKind.closing, List.append_assoc]
    rw [htext]
    refine Describes.block (hb ▸ isCut_blockOf offset bound hfirst hbody) (by rw [hb]; rfl) ?_
    rw [hb, hraw.bytes_eq, ← Nat.add_assoc]
    exact ih

/-! ## What a cut says about the whole text -/

section Whole

variable {ps : List Piece} {last : List Char}

theorem Segments.isCut (h : Segments offset text ps last rest) {b : Block}
    (hb : b ∈ ps.map (·.block)) : b.IsCut := by
  induction h with
  | last => cases hb
  | block _ hcut _ _ ih =>
    rcases List.mem_cons.1 hb with rfl | hb
    · exact hcut
    · exact ih hb

/-- A block stands at its offset. -/
theorem Segments.slice (h : Segments offset text ps last rest) {b : Block}
    (hb : b ∈ ps.map (·.block)) :
    ∃ before after, text = before ++ b.raw.toList ++ after ∧ b.offset = offset + bytes before := by
  induction h with
  | last => cases hb
  | @block offset gap later _ _ b' ps hgap hcut hoffset hlater ih =>
    rcases List.mem_cons.1 hb with rfl | hb
    · exact ⟨gap, later, (List.append_assoc ..).symm, hoffset⟩
    · obtain ⟨before, after, rfl, hplace⟩ := ih hb
      refine ⟨gap ++ (b'.raw.toList ++ before), after, by simp, ?_⟩
      rw [hplace, hoffset, bytes_append, bytes_append]
      omega

theorem Segments.le_offset (h : Segments offset text ps last rest) {b : Block}
    (hb : b ∈ ps.map (·.block)) : offset ≤ b.offset := by
  obtain ⟨before, -, -, hplace⟩ := h.slice hb
  omega

theorem Block.IsCut.bytes_pos {b : Block} (h : b.IsCut) : 0 < bytes b.raw.toList := by
  obtain ⟨inner, hraw, -⟩ := h
  rw [hraw.bytes_eq]
  omega

theorem Segments.pairwise (h : Segments offset text ps last rest) :
    (ps.map (·.block)).Pairwise fun a b =>
      a.offset < b.offset ∧ a.offset + bytes a.raw.toList ≤ b.offset := by
  induction h with
  | last => exact .nil
  | block hgap hcut hoffset hlater ih =>
    refine .cons (fun b hb => ?_) ih
    have hbehind := hlater.le_offset hb
    exact ⟨Nat.lt_of_lt_of_le (Nat.lt_add_of_pos_right hcut.bytes_pos) hbehind, hbehind⟩

/-- The characters of a text are those of its gaps and those of its blocks. -/
theorem length_joinPieces (ps : List Piece) : (joinPieces ps).length =
    total (·.gap.length) ps + total (·.raw.length) (ps.map (·.block)) := by
  induction ps with
  | nil => rfl
  | cons p ps ih =>
    rw [joinPieces, List.flatMap_cons, ← joinPieces, List.length_append, List.length_append, ih,
      String.length_toList, List.map_cons, total_cons, total_cons]
    omega

end Whole

/-! ## Texts that are worth a scan -/

theorem occursIn_iff {needle : List Char} : occursIn needle cs = true ↔ needle <:+: cs := by
  induction cs with
  | nil => rw [occursIn, List.isEmpty_iff, List.infix_nil]
  | cons c cs ih =>
    rw [occursIn, Bool.or_eq_true, List.isPrefixOf_iff_prefix, ih, List.infix_cons_iff]

theorem afterCommentMark_cons (c : Char) (cs : List Char) : afterCommentMark (c :: cs) =
    if c = '{' ∧ cs.head? = some '#' then some cs.tail else afterCommentMark cs := by
  cases cs with
  | nil => simp [afterCommentMark]
  | cons d cs =>
    rw [afterCommentMark]
    simp

theorem suffix_afterCommentMark (before after : List Char) :
    ∃ r, afterCommentMark (before ++ '{' :: '#' :: after) = some r ∧ after <:+ r := by
  induction before with
  | nil => exact ⟨after, by simp [afterCommentMark], List.suffix_rfl⟩
  | cons c before ih =>
    rw [List.cons_append, afterCommentMark_cons]
    split
    · rename_i hmark
      refine ⟨_, rfl, ?_⟩
      cases before with
      | nil => exact absurd (Option.some.inj hmark.2) (by decide)
      | cons d before => exact ⟨before ++ ['{', '#'], by simp⟩
    · exact ih

/-- A text is worth a scan if a block opens in it, unless that is a comment that is never closed. -/
theorem worthScanning_of_opening {text : String} {before after : List Char}
    (h : text.toList = before ++ (kind.opening ++ after))
    (hclosed : kind = .comment → kind.closing <:+: after) : worthScanning text = true := by
  have hopening : kind.opening <:+: text.toList := ⟨before, after, by rw [h, List.append_assoc]⟩
  rw [worthScanning, Bool.or_eq_true, Bool.or_eq_true]
  cases kind with
  | output => exact .inl (.inl (occursIn_iff.2 hopening))
  | statement => exact .inl (.inr (occursIn_iff.2 hopening))
  | comment =>
    refine .inr ?_
    obtain ⟨r, hr, hafter⟩ := suffix_afterCommentMark before after
    have hmark : afterCommentMark text.toList = some r := by rw [h, ← hr]; rfl
    rw [hmark, Option.any_some]
    exact occursIn_iff.2 ((hclosed rfl).trans hafter.isInfix)

/-- A scan that fails stops where an output or a statement opens. -/
theorem ScanError.Stops.exists_opening {e : ScanError} (h : e.Stops rest) :
    ∃ kind : BlockKind, ∃ after, kind ≠ .comment ∧ rest = kind.opening ++ after := by
  cases e with
  | unterminated offset kind =>
    obtain ⟨hkind, inner, rfl, -⟩ := h
    exact ⟨kind, inner, hkind, rfl⟩
  | emptyOutput offset =>
    obtain ⟨inner, raw, later, rfl, hraw, -⟩ := h
    refine ⟨.output, inner ++ (BlockKind.output.closing ++ later), by decide, ?_⟩
    rw [hraw.1]
    simp only [List.append_assoc]

/-- A scan finds nothing in a text that is not worth it. -/
theorem scan_of_not_worth {text : String} (h : worthScanning text = false) :
    scan text = .ok [] := by
  have hscan := describes_scanFrom 0 [] text.toList
  rw [← scan] at hscan
  cases hresult : scan text with
  | ok blocks =>
    rw [hresult] at hscan
    obtain ⟨ps, last, hps, rfl⟩ := hscan
    cases ps with
    | nil => rfl
    | cons p ps =>
      have hp : p.block ∈ (p :: ps).map (·.block) := List.mem_cons_self
      obtain ⟨before, after, htext, -⟩ := hps.slice hp
      obtain ⟨inner, hraw, -⟩ := hps.isCut hp
      have hopens : text.toList = before ++
          (p.block.kind.opening ++ (inner ++ p.block.kind.closing ++ after)) := by
        rw [htext, hraw.1]
        simp only [List.append_assoc]
      have hworth := worthScanning_of_opening hopens fun _ => ⟨inner, after, rfl⟩
      rw [h] at hworth
      cases hworth
  | error e =>
    rw [hresult] at hscan
    obtain ⟨ps, gap, rest, hps, -, hstops⟩ := hscan
    obtain ⟨kind, after, hkind, rfl⟩ := hstops.exists_opening
    have hworth := worthScanning_of_opening hps.text_eq fun hcomment => absurd hcomment hkind
    rw [h] at hworth
    cases hworth

/-- A text is cut by its scan into blocks and gaps. The blocks stand in the text where their offsets
say, one behind the other, and the characters outside blocks are those of the gaps. Where the scan
fails, the text in front of the error is cut in the same way, and at the error a block opens that is
not closed, or that is an output without a body. -/
theorem scan_segments (text : String) :
    match scan text with
    | .ok blocks => ∃ ps last, ps.map (·.block) = blocks ∧ Segments 0 text.toList ps last [] ∧
        text.toList = joinPieces ps ++ last ∧
        (∀ b ∈ blocks, b.IsCut ∧ ∃ before after,
          text.toList = before ++ b.raw.toList ++ after ∧ b.offset = bytes before) ∧
        blocks.Pairwise (fun a b =>
          a.offset < b.offset ∧ a.offset + bytes a.raw.toList ≤ b.offset) ∧
        total (·.raw.length) blocks ≤ text.length ∧
        literalLength text blocks = total (·.gap.length) ps + last.length
    | .error e => ∃ ps gap rest, Segments 0 text.toList ps gap rest ∧
        text.toList = joinPieces ps ++ gap ++ rest ∧ e.offset = bytes (joinPieces ps ++ gap) ∧
        e.Stops rest := by
  have hscan := describes_scanFrom 0 [] text.toList
  rw [← scan] at hscan
  cases hresult : scan text with
  | ok blocks =>
    rw [hresult] at hscan
    obtain ⟨ps, last, hps, rfl⟩ := hscan
    have htext : text.toList = joinPieces ps ++ last := by simpa using hps.text_eq
    have hlength : text.length = (joinPieces ps).length + last.length := by
      rw [← String.length_toList, htext, List.length_append]
    rw [length_joinPieces] at hlength
    refine ⟨ps, last, rfl, hps, htext, fun b hb => ?_, hps.pairwise, by omega, ?_⟩
    · exact ⟨hps.isCut hb, by simpa using hps.slice hb⟩
    · rw [literalLength]
      omega
  | error e =>
    rw [hresult] at hscan
    obtain ⟨ps, gap, rest, hps, hoffset, hstops⟩ := hscan
    exact ⟨ps, gap, rest, hps, hps.text_eq, by simpa using hoffset, hstops⟩

end ChatPlan.Template
