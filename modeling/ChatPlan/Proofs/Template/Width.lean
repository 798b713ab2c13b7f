import ChatPlan.Proofs.Results
import ChatPlan.Proofs.Template.Segments
import ChatPlan.Template.Width

/-
Scanned texts. A text stands as it was written, with the blocks that a scan finds; of a text that is
not worth a scan, none are looked for. That quick look agrees with the scan. A scan that finds
nothing leaves the whole text as one gap, in which nothing opens but comments that are never closed.
So no output and no statement opens anywhere, and behind the first opening of a comment there is no
closing, which is all that the quick look asks for. Texts and estimates that rely on it are those
that a scan of every text would give (`quick_look_agrees`).
-/
namespace ChatPlan

/-! ## Texts and their blocks -/

open Template

namespace TemplateText

variable {s : String} {t : TemplateText}

/-- A scanned text: it stands as it was written, with the blocks that a scan finds. Of a text that is
not worth a scan, none are looked for. -/
theorem ofRaw_eq_ok (h : ofRaw s = .ok t) : t.raw = s ∧ t.templated = !t.blocks.isEmpty ∧
    (worthScanning s = true ∧ scan s = .ok t.blocks ∨
      worthScanning s = false ∧ t.blocks = []) := by
  unfold ofRaw at h
  split at h
  · rename_i hworth
    obtain ⟨blocks, hscan, rfl⟩ := map_eq_ok_iff.1 h
    exact ⟨rfl, rfl, .inl ⟨hworth, hscan⟩⟩
  · rename_i hworth
    cases h
    exact ⟨rfl, rfl, .inr ⟨Bool.eq_false_iff.2 hworth, rfl⟩⟩

theorem raw_of_ofRaw (h : ofRaw s = .ok t) : t.raw = s := (ofRaw_eq_ok h).1

theorem templated_of_ofRaw (h : ofRaw s = .ok t) : t.templated = !t.blocks.isEmpty :=
  (ofRaw_eq_ok h).2.1

theorem literalSize_of_plain (h : t.blocks = []) : t.literalSize = t.size := by
  simp [literalSize, literalLength, h, size]

theorem estimate?_of_ofRaw (h : ofRaw s = .ok t) : estimate? s =
    if t.blocks.any (·.kind == .output) then
      some (t.literalSize, t.literalSize + total Block.width t.blocks)
    else none := by
  obtain ⟨hraw, -, hblocks⟩ := ofRaw_eq_ok h
  rw [estimate?, literalSize, hraw]
  rcases hblocks with ⟨hworth, hscan⟩ | ⟨hworth, hnone⟩
  · rw [if_pos hworth, hscan]
  · rw [if_neg (by simp [hworth]), hnone]
    rfl

end TemplateText

/-! ## The quick look -/

open Text

namespace Template

variable {text : String} {cs r before after : List Char} {kind : BlockKind}

theorem exists_of_afterCommentMark (h : afterCommentMark cs = some r) :
    ∃ before, cs = before ++ (BlockKind.comment.opening ++ r) := by
  induction cs with
  | nil => cases h
  | cons c cs ih =>
    rw [afterCommentMark_cons] at h
    split at h
    · rename_i hmark
      obtain ⟨rfl, hhead⟩ := hmark
      obtain ⟨tail, rfl⟩ := List.head?_eq_some_iff.1 hhead
      cases h
      exact ⟨[], rfl⟩
    · obtain ⟨before, rfl⟩ := ih h
      exact ⟨c :: before, rfl⟩

theorem Segments.isGap {offset : Nat} {gap rest : List Char}
    (h : Segments offset cs [] gap rest) : IsGap gap rest := by
  cases h with
  | last hgap => exact hgap

theorem isGap_of_scan (h : scan text = .ok []) : IsGap text.toList [] := by
  have hscan := describes_scanFrom 0 [] text.toList
  rw [← scan, h] at hscan
  obtain ⟨ps, last, hps, hblocks⟩ := hscan
  obtain rfl : ps = [] := List.map_eq_nil_iff.1 hblocks
  have htext : text.toList = last := by simpa [joinPieces] using hps.text_eq
  rw [htext]
  exact hps.isGap

/-- Where a text is one gap, only comments open, and behind none of them there is a closing. -/
theorem IsGap.unclosed (h : IsGap cs []) (hopens : cs = before ++ (kind.opening ++ after)) :
    kind = .comment ∧ ¬kind.closing <:+: after := by
  refine h before after kind (by rw [List.append_nil, hopens]) ?_
  rw [hopens, List.length_append, List.length_append]
  have hopening : kind.opening.length = 2 := rfl
  omega

theorem IsGap.not_worth (h : IsGap text.toList []) : worthScanning text = false := by
  have hnot (kind : BlockKind) (hkind : kind ≠ .comment) :
      occursIn kind.opening text.toList = false := by
    rw [Bool.eq_false_iff, ne_eq, occursIn_iff]
    rintro ⟨before, after, hopens⟩
    rw [List.append_assoc] at hopens
    exact hkind (h.unclosed hopens.symm).1
  have hcomment : (afterCommentMark text.toList).any (occursIn BlockKind.comment.closing) = false := by
    cases hmark : afterCommentMark text.toList with
    | none => rfl
    | some r =>
      obtain ⟨before, hopens⟩ := exists_of_afterCommentMark hmark
      rw [Option.any_some, Bool.eq_false_iff, ne_eq, occursIn_iff]
      exact (h.unclosed hopens).2
  simp only [worthScanning, Bool.or_eq_false_iff]
  exact ⟨⟨hnot .output (by decide), hnot .statement (by decide)⟩, hcomment⟩

/-- A text is not worth a scan exactly if a scan finds nothing in it. -/
theorem not_worth_iff : worthScanning text = false ↔ scan text = .ok [] :=
  ⟨scan_of_not_worth, fun h => (isGap_of_scan h).not_worth⟩

/-- The estimate of a text with these blocks, among which there has to be an output. -/
def estimateOf (text : String) (blocks : List Block) : Option (Nat × Nat) :=
  if blocks.any (·.kind == .output) then
    some (literalLength text blocks, literalLength text blocks + total Block.width blocks)
  else none

end Template

/-- The text with these blocks. -/
def TemplateText.ofBlocks (raw : String) (blocks : List Block) : TemplateText :=
  ⟨raw, !blocks.isEmpty, blocks⟩

/-- The quick look passes over exactly those texts in which a scan finds nothing. So a text is what a
scan makes of it, or fails as the scan does, and it has the estimate that its blocks give, whether or
not it was looked at before. -/
theorem quick_look_agrees (text : String) :
    (worthScanning text = false ↔ scan text = .ok []) ∧
      TemplateText.ofRaw text = (scan text).map (TemplateText.ofBlocks text) ∧
      estimate? text = (scan text).toOption.bind (estimateOf text) := by
  refine ⟨not_worth_iff, ?_, ?_⟩
  · unfold TemplateText.ofRaw
    by_cases hworth : worthScanning text = true
    · rw [if_pos hworth]
      rfl
    · rw [if_neg hworth, scan_of_not_worth (Bool.eq_false_iff.2 hworth)]
      rfl
  · unfold estimate?
    by_cases hworth : worthScanning text = true
    · rw [if_pos hworth]
      cases scan text with
      | error e => rfl
      | ok blocks => rfl
    · rw [if_neg hworth, scan_of_not_worth (Bool.eq_false_iff.2 hworth)]
      rfl

end ChatPlan
