import ChatPlan.Classifier.Normalizer
import ChatPlan.Number.Double
import ChatPlan.Options
import ChatPlan.View.Reader

/-
Phrase tests: a text is compared with a list of phrases, and one of them has to match. Both sides
are normalized, and put into lower case unless the test looks at case.

How alike two texts are is a matter of their edit distance: how many characters have to be put in,
taken out or replaced to turn one into the other. It is computed row by row: entry `j` of the row of
a text is its distance from the first `j` characters of the other text, and one more character gives
the next row.
-/
namespace ChatPlan.Text

/-! ## Edit distance -/

/-- The entries of the next row after `left`, for the characters of the other text that are left;
the old row begins at the entry above `left`. -/
def nextEntries (c : Char) (left : Nat) : List Char → List Nat → List Nat
  | d :: ds, corner :: above :: row =>
    let entry := min (corner + if c = d then 0 else 1) (min (above + 1) (left + 1))
    entry :: nextEntries c entry ds (above :: row)
  | _, _ => []

/-- The row of a text with one more character at its end. -/
def nextRow (other : List Char) (row : List Nat) (c : Char) : List Nat :=
  match row with
  | [] => []
  | first :: _ => (first + 1) :: nextEntries c (first + 1) other row

/-- The distance from a text to each beginning of another text. -/
def distanceRow (cs other : List Char) : List Nat :=
  cs.foldl (nextRow other) (List.range (other.length + 1))

/-- The least number of insertions, deletions and replacements that turn one text into another. -/
def editDistance (a b : List Char) : Nat := (distanceRow a b).getLastD 0

/-- How alike two texts are: one minus their distance in parts of the longer text, each step rounded
to a double. Two empty texts are alike. -/
def similarity (a b : List Char) : Double :=
  let longest := max a.length b.length
  if longest = 0 then Double.ofInt 1
  else
    match Double.ofInt 1, Double.ofRatio false (editDistance a b) longest with
    | .finite one, .finite share => Double.sub one share
    | _, _ => .nan

end ChatPlan.Text

namespace ChatPlan

/-! ## Tests -/

open Json

/-- How a text and a phrase are compared. -/
inductive PhraseStrategy where
  | exact
  | contains
  | startsWith
  | endsWith
  | fuzzy
deriving DecidableEq

namespace PhraseStrategy

def all : List PhraseStrategy := [.exact, .contains, .startsWith, .endsWith, .fuzzy]

def name : PhraseStrategy → String
  | .exact => "exact"
  | .contains => "contains"
  | .startsWith => "starts_with"
  | .endsWith => "ends_with"
  | .fuzzy => "fuzzy"

def ofName? (s : String) : Option PhraseStrategy := all.find? (·.name == s)

end PhraseStrategy

/-- The text of a field has to match one of these phrases. -/
structure PhraseTest where
  field : String
  phrases : List String
  strategy : PhraseStrategy
  caseSensitive : Bool
  threshold : FiniteDouble

/-- The character divides words: a blank, or punctuation of ASCII. -/
def Text.dividesWords (c : Char) : Bool :=
  isBlank c || ('!' ≤ c && c ≤ '/') || (':' ≤ c && c ≤ '@') || ('[' ≤ c && c ≤ '\x60') ||
    ('\x7b' ≤ c && c ≤ '~')

/-- The words of a text. -/
def Text.words (cs : List Char) : List (List Char) :=
  (pieces dividesWords cs).filter fun w => !w.isEmpty

namespace PhraseStrategy

/-- The text and the phrase match. Fuzzily they do where the whole text or one of its words is
`near` the phrase. -/
def holds (near : List Char → List Char → Bool) (s : PhraseStrategy) (text phrase : List Char) :
    Bool :=
  match s with
  | .exact => text == phrase
  | .contains => Text.occursIn phrase text
  | .startsWith => phrase.isPrefixOf text
  | .endsWith => phrase.isSuffixOf text
  | .fuzzy => near text phrase || (Text.words text).any fun w => near w phrase

end PhraseStrategy

namespace PhraseTest

/-- What is compared of a text. -/
def prepare (n : Normalizer) (caseSensitive : Bool) (s : String) : List Char :=
  Normalizer.stepIf (!caseSensitive) Text.lower (n.apply s.toList)

/-- The text matches one of the phrases, where `near` says which texts are alike. -/
def holdsBy (near : List Char → List Char → Bool) (n : Normalizer) (t : PhraseTest)
    (text : String) : Bool :=
  let prepared := prepare n t.caseSensitive text
  t.phrases.any fun phrase => t.strategy.holds near prepared (prepare n t.caseSensitive phrase)

/-- The two texts are at least as alike as the test asks. -/
def isNear (t : PhraseTest) (a b : List Char) : Bool :=
  Double.le (.finite t.threshold) (Text.similarity a b)

/-- The text matches one of the phrases. -/
def holds (n : Normalizer) (t : PhraseTest) (text : String) : Bool := t.holdsBy t.isNear n text

def toJson (t : PhraseTest) : Json :=
  object [("field", .str t.field), ("match", strings t.phrases), ("strategy", .str t.strategy.name),
    ("case_sensitive", .bool t.caseSensitive), ("threshold", ofFinite t.threshold)]

def ofTree? (t : Tree) : Option PhraseTest :=
  match t.slots [["field"], ["match"], ["strategy"], ["case_sensitive"], ["threshold"]] with
  | some [field, phrases, strategy, caseSensitive, threshold] => do
    return {
      field := ← field.orElse Tree.asString? "value"
      phrases := ← phrases.required Tree.asStrings?
      strategy := ← strategy.orElse (namedChoice? PhraseStrategy.ofName?) .exact
      caseSensitive := ← caseSensitive.orElse Tree.asBool? false
      threshold := ← threshold.orElse Tree.asFinite? Options.fourFifths }
  | _ => none

end PhraseTest

end ChatPlan
