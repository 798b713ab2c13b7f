/-
What texts are made of and cut into: totals over a list, characters in tables of ranges, blanks (the
Unicode property White_Space), and the pieces of a text. Tables are sorted lists of closed ranges of
code points, and character maps are given as runs: a run `(lo, hi, step, delta)` moves `lo`,
`lo + step`, ... up to `hi` by `delta`.
-/
namespace ChatPlan

/-! ## Totals -/

/-- The sum of the sizes of the members. -/
def total {α : Type} (size : α → Nat) : List α → Nat
  | [] => 0
  | a :: as => size a + total size as

@[simp] theorem total_nil {α : Type} (size : α → Nat) : total size [] = 0 := rfl

@[simp] theorem total_cons {α : Type} (size : α → Nat) (a : α) (as : List α) :
    total size (a :: as) = size a + total size as := rfl

@[simp] theorem total_append {α : Type} (size : α → Nat) (as bs : List α) :
    total size (as ++ bs) = total size as + total size bs := by
  induction as with
  | nil => rw [List.nil_append, total_nil, Nat.zero_add]
  | cons a as ih => rw [List.cons_append, total_cons, total_cons, ih, Nat.add_assoc]

end ChatPlan

namespace ChatPlan.Text

/-! ## Tables of characters -/

/-- `c` lies in one of the closed ranges of the table. -/
def inRanges (table : List (Nat × Nat)) (c : Char) : Bool :=
  table.any fun r => r.1 ≤ c.toNat && c.toNat ≤ r.2

/-- One run of a character map: where it starts and ends, its step, and how far it moves. -/
abbrev Run := Nat × Nat × Nat × Int

/-- The run moves the code point `n`. -/
def Run.covers (r : Run) (n : Nat) : Bool :=
  r.1 ≤ n && n ≤ r.2.1 && (n - r.1) % r.2.2.1 == 0

/-- The code point to which the run moves `n`. -/
def Run.move (r : Run) (n : Nat) : Nat := (n + r.2.2.2).toNat

/-- The image of `c` under the map; a character outside all runs stays. -/
def mapRuns (table : List Run) (c : Char) : Char :=
  match table.find? (·.covers c.toNat) with
  | some r => Char.ofNat (r.move c.toNat)
  | none => c

/-! ## Blanks -/

def blankRanges : List (Nat × Nat) := [
  (0x9,0xd), (0x20,0x20), (0x85,0x85), (0xa0,0xa0), (0x1680,0x1680), (0x2000,0x200a),
  (0x2028,0x2029), (0x202f,0x202f), (0x205f,0x205f), (0x3000,0x3000)]

/-- The character has the property White_Space. -/
def isBlank (c : Char) : Bool := inRanges blankRanges c

/-- Drops from the end of the text all characters of the class. -/
def dropEndWhile (p : Char → Bool) (cs : List Char) : List Char :=
  (cs.reverse.dropWhile p).reverse

/-- Drops characters of the class from both ends. -/
def trimWhile (p : Char → Bool) (cs : List Char) : List Char :=
  dropEndWhile p (cs.dropWhile p)

/-- The text without the blanks at its two ends. -/
def trim (cs : List Char) : List Char := trimWhile isBlank cs

/-- The text without the blanks at its two ends. -/
def trimmed (s : String) : String := String.ofList (trim s.toList)

/-- The text has no character other than blanks. -/
def blank (s : String) : Bool := s.toList.all isBlank

/-! ## Pieces -/

/-- Puts a character in front of the first piece. -/
def consPiece (c : Char) : List (List Char) → List (List Char)
  | [] => [[c]]
  | p :: ps => (c :: p) :: ps

/-- The pieces between the characters of the class: one more than there are such characters. -/
def pieces (p : Char → Bool) : List Char → List (List Char)
  | [] => [[]]
  | c :: cs => if p c then [] :: pieces p cs else consPiece c (pieces p cs)

/-- The text between the points of a dotted name. -/
def segments (cs : List Char) : List (List Char) := pieces (· == '.') cs

/-- The second text occurs somewhere in the first. -/
def occursIn (needle : List Char) : List Char → Bool
  | [] => needle.isEmpty
  | c :: cs => needle.isPrefixOf (c :: cs) || occursIn needle cs

/-- The length of the text in bytes of UTF-8. -/
def bytes (cs : List Char) : Nat := total Char.utf8Size cs

/-- Joins texts with a separator between them. -/
def joined (sep : String) (ss : List String) : String := sep.intercalate ss

end ChatPlan.Text
