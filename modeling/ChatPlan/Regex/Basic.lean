import ChatPlan.Regex.CharSet

/-
Patterns and what they match. A pattern is a relation between places of a text; a set of places is a
number whose bit `i` stands for the place in front of character `i`. Matching carries the set of
places that can be reached through the pattern, so it takes no backtracking.
-/
namespace ChatPlan

namespace Regex

/-- A condition on the characters in front of a place and behind it. -/
inductive Look where
  | textStart
  | textEnd
  | lineStart (crlf : Bool)
  | lineEnd (crlf : Bool)
  | wordEdge (ascii : Bool)
  | noWordEdge (ascii : Bool)
  | wordStart (ascii : Bool)
  | wordEnd (ascii : Bool)
  | noWordBefore (ascii : Bool)
  | noWordAfter (ascii : Bool)

/-- A place: the character in front of it and the one behind it. -/
structure Place where
  before : Option Char
  after : Option Char

namespace Place

/-- The places of a text behind a given character. -/
def listFrom (before : Option Char) : List Char → List Place
  | [] => [⟨before, none⟩]
  | c :: cs => ⟨before, some c⟩ :: listFrom (some c) cs

/-- The places of a text: one more than it has characters. -/
def list (cs : List Char) : List Place := listFrom none cs

/-- The places that fulfil the condition, as a number. -/
def mask (p : Place → Bool) : List Place → Nat
  | [] => 0
  | b :: bs => 2 * mask p bs + (p b).toNat

end Place

/-- The character belongs to a word. -/
def inWord (ascii : Bool) (c : Option Char) : Bool :=
  c.any fun c => if ascii then CharSet.asciiWord.mem c else CharSet.word.mem c

/-- The condition holds at the place. -/
def Look.holds (p : Place) : Look → Bool
  | .textStart => p.before.isNone
  | .textEnd => p.after.isNone
  | .lineStart crlf =>
    p.before.isNone || p.before == some '\n' ||
      (crlf && p.before == some '\r' && p.after != some '\n')
  | .lineEnd crlf =>
    p.after.isNone || (crlf && p.after == some '\r') ||
      (p.after == some '\n' && !(crlf && p.before == some '\r'))
  | .wordEdge ascii => inWord ascii p.before != inWord ascii p.after
  | .noWordEdge ascii => inWord ascii p.before == inWord ascii p.after
  | .wordStart ascii => !inWord ascii p.before && inWord ascii p.after
  | .wordEnd ascii => inWord ascii p.before && !inWord ascii p.after
  | .noWordBefore ascii => !inWord ascii p.before
  | .noWordAfter ascii => !inWord ascii p.after

end Regex

/-- A pattern. -/
inductive Regex where
  | empty
  | chars (set : Regex.CharSet)
  | look (l : Regex.Look)
  | seq (a b : Regex)
  | alt (a b : Regex)
  | repeated (r : Regex) (min : Nat) (max : Option Nat)

namespace Regex

/-- A pattern on one text: every leaf knows the places where it applies. -/
inductive Walk where
  | stay (places : Nat)
  | advance (places : Nat)
  | seq (a b : Walk)
  | alt (a b : Walk)
  | repeated (w : Walk) (min : Nat) (max : Option Nat)

/-- The pattern on the text with these places. -/
def walk (places : List Place) : Regex → Walk
  | .empty => .stay (Nat.pow 2 places.length - 1)
  | .chars s => .advance (Place.mask (fun p => p.after.any s.mem) places)
  | .look l => .stay (Place.mask l.holds places)
  | .seq a b => .seq (a.walk places) (b.walk places)
  | .alt a b => .alt (a.walk places) (b.walk places)
  | .repeated r min max => .repeated (r.walk places) min max

/-- `n` steps, or fewer where a step changes nothing any more. -/
def iterate (step : Nat → Nat) : Nat → Nat → Nat
  | 0, s => s
  | n + 1, s =>
    let t := step s
    if t = s then s else iterate step n t

/-- The places that the walk reaches from some places, in a text with `size` places. A walk never
goes back, so after `size` rounds one more changes nothing. -/
def Walk.reach (size : Nat) : Walk → Nat → Nat
  | .stay m => fun s => s &&& m
  | .advance m => fun s => (s &&& m) <<< 1
  | .seq a b => fun s => b.reach size (a.reach size s)
  | .alt a b => fun s => a.reach size s ||| b.reach size s
  | .repeated w min max => fun s =>
    let more := match max with
      | none => size
      | some m => Nat.min (m - min) size
    iterate (fun s => s ||| w.reach size s) more
      (iterate (w.reach size) (Nat.min min (size + 1)) s)

/-- The pattern matches somewhere in the text. -/
def isMatch (r : Regex) (text : String) : Bool :=
  let places := Place.list text.toList
  (r.walk places).reach places.length (Nat.pow 2 places.length - 1) != 0

/-- The pattern of one character. -/
def char (c : Char) : Regex := .chars (.single c)

/-- The patterns one after another. -/
def concat : List Regex → Regex
  | [] => .empty
  | [r] => r
  | r :: rs => .seq r (concat rs)

/-- Any of the patterns. -/
def oneOf : List Regex → Regex
  | [] => .chars .nothing
  | [r] => r
  | r :: rs => .alt r (oneOf rs)

/-- The pattern of exactly this text. -/
def text (s : String) : Regex := concat (s.toList.map char)

/-- The memory that the compiled pattern takes, in bytes: 32 for every state. -/
def weight : Regex → Nat
  | .empty => 32
  | .chars s => 32 * s.weight
  | .look _ => 32
  | .seq a b => a.weight + b.weight
  | .alt a b => a.weight + b.weight + 32
  | .repeated r min none => r.weight * Nat.max min 1 + 32
  | .repeated r min (some max) => r.weight * min + (r.weight + 32) * (max - min)

/-- The memory that a compiled pattern may take. -/
def maxWeight : Nat := 10 * Nat.pow 2 20

end Regex

end ChatPlan
