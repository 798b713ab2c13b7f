import ChatPlan.Json.Basic

/-
Reading JSON text. What a text says is kept as it is written before it is read as a value of some
type: members stand in the order written and a repeated key stays repeated, so that a reader of a
record can refuse it. Well-formed text that no reader accepts (a number beyond all doubles, half a
surrogate pair, too deep a nesting) is kept as `unusable`: it is no error in a member that nobody
reads. Every step of the reader returns what it read and the rest of the text; at most 127 arrays
and objects may be open at once.
-/
namespace ChatPlan.Json

/-! ## Trees -/

/-- A JSON text as it is written. -/
inductive Tree where
  | null
  | bool (b : Bool)
  | num (n : JsonNumber)
  | str (s : String)
  | arr (items : List Tree)
  | obj (members : List (String × Tree))
  | unusable

mutual
/-- The value that the tree stands for, if all of it is usable. -/
def Tree.value? : Tree → Option Json
  | .null => some .null
  | .bool b => some (.bool b)
  | .num n => some (.num n)
  | .str s => some (.str s)
  | .arr ts => (valuesOf ts).map .arr
  | .obj ms => (membersOf ms).map object
  | .unusable => none
/-- The values of all items. -/
def valuesOf : List Tree → Option (List Json)
  | [] => some []
  | t :: ts =>
    match t.value?, valuesOf ts with
    | some v, some vs => some (v :: vs)
    | _, _ => none
/-- The values of all members. -/
def membersOf : List (String × Tree) → Option (List (String × Json))
  | [] => some []
  | (k, t) :: ms =>
    match t.value?, membersOf ms with
    | some v, some vs => some ((k, v) :: vs)
    | _, _ => none
end

mutual
/-- A value as a text would say it. -/
def tree : Json → Tree
  | .null => .null
  | .bool b => .bool b
  | .num n => .num n
  | .str s => .str s
  | .arr vs => .arr (treesOf vs)
  | .obj ms => .obj (treeMembers ms)
/-- The items of an array as a text would say them. -/
def treesOf : List Json → List Tree
  | [] => []
  | v :: vs => v.tree :: treesOf vs
/-- The members of an object as a text would say them. -/
def treeMembers : List (String × Json) → List (String × Tree)
  | [] => []
  | (k, v) :: ms => (k, v.tree) :: treeMembers ms
end

/-! ## Reading -/

/-- The deepest nesting that a reader follows. -/
def maxDepth : Nat := 127

/-- The blanks between tokens. -/
def isGap (c : Char) : Bool := c == ' ' || c == '\n' || c == '\t' || c == '\r'

def skipGaps (cs : List Char) : List Char := cs.dropWhile isGap

/-- The value of one hexadecimal digit. -/
def hexValue? (c : Char) : Option Nat :=
  if c.isDigit then some (c.toNat - '0'.toNat)
  else if 'a' ≤ c && c ≤ 'f' then some (c.toNat - 'a'.toNat + 10)
  else if 'A' ≤ c && c ≤ 'F' then some (c.toNat - 'A'.toNat + 10)
  else none

/-- The value of four hexadecimal digits. -/
def hex4? (a b c d : Char) : Option Nat :=
  match hexValue? a, hexValue? b, hexValue? c, hexValue? d with
  | some a, some b, some c, some d => some (((a * 16 + b) * 16 + c) * 16 + d)
  | _, _, _, _ => none

def isHighSurrogate (n : Nat) : Bool := 0xd800 ≤ n && n ≤ 0xdbff

def isLowSurrogate (n : Nat) : Bool := 0xdc00 ≤ n && n ≤ 0xdfff

/-- The character that a one-letter escape stands for. -/
def shortEscape? (c : Char) : Option Char :=
  if c = '"' || c = '\\' || c = '/' then some c
  else if c = 'n' then some '\n'
  else if c = 'r' then some '\r'
  else if c = 't' then some '\t'
  else if c = 'b' then some '\u0008'
  else if c = 'f' then some '\u000c'
  else none

/-- One character in front of what follows in a string; none where the string is unusable. -/
def consChar (c : Option Char) (r : Option (List Char) × List Char) :
    Option (List Char) × List Char :=
  (match c, r.1 with
    | some c, some cs => some (c :: cs)
    | _, _ => none, r.2)

/-- Reads the rest of a string up to its closing quote. The first part of the answer is `none` for
half a surrogate pair. -/
def readString : List Char → Option (Option (List Char) × List Char)
  | [] => none
  | '"' :: r => some (some [], r)
  | '\\' :: 'u' :: a :: b :: c :: d :: '\\' :: 'u' :: a' :: b' :: c' :: d' :: r =>
    match hex4? a b c d, hex4? a' b' c' d' with
    | some n, some m =>
      if isHighSurrogate n && isLowSurrogate m then
        (readString r).map
          (consChar (some (Char.ofNat (0x10000 + (n - 0xd800) * 0x400 + (m - 0xdc00)))))
      else
        (readString ('\\' :: 'u' :: a' :: b' :: c' :: d' :: r)).map
          (consChar (if isHighSurrogate n || isLowSurrogate n then none else some (Char.ofNat n)))
    | _, _ => none
  | '\\' :: 'u' :: a :: b :: c :: d :: r =>
    match hex4? a b c d with
    | some n =>
      (readString r).map
        (consChar (if isHighSurrogate n || isLowSurrogate n then none else some (Char.ofNat n)))
    | none => none
  | '\\' :: e :: r =>
    match shortEscape? e with
    | some c => (readString r).map (consChar (some c))
    | none => none
  | c :: r => if c.toNat < 0x20 || c = '\\' then none else (readString r).map (consChar (some c))

/-- A whole number if it fits a 64-bit word; minus zero and larger numbers are doubles. -/
def wholeNumber (negative : Bool) (n : Nat) : Tree :=
  if !negative && n < Nat.pow 2 64 then .num (.int n)
  else if negative && 0 < n && n ≤ Nat.pow 2 63 then .num (.int (-n))
  else
    match (Decimal.mk negative n 0).toDouble with
    | .finite x => .num (.float x)
    | _ => .unusable

/-- The digits of the whole part: a zero stands alone. -/
def wholeDigits (cs : List Char) : Option (List Char × List Char) :=
  match cs with
  | '0' :: r => some (['0'], r)
  | _ => if (Decimal.takeDigits cs).1.isEmpty then none else some (Decimal.takeDigits cs)

/-- The digits after a point, if there is one. -/
def fractionDigits (cs : List Char) : Option (Option (List Char) × List Char) :=
  match cs with
  | '.' :: r =>
    if (Decimal.takeDigits r).1.isEmpty then none
    else some (some (Decimal.takeDigits r).1, (Decimal.takeDigits r).2)
  | _ => some (none, cs)

/-- The exponent, if there is one. -/
def exponentDigits (cs : List Char) : Option (Option Int × List Char) :=
  match cs with
  | [] => some (none, [])
  | c :: r =>
    if c = 'e' || c = 'E' then
      let (negative, r) := Decimal.takeSign r
      let (ds, r) := Decimal.takeDigits r
      if ds.isEmpty then none
      else some (some (if negative then -(ofDigits ds : Int) else ofDigits ds), r)
    else some (none, cs)

/-- Reads a number without its sign. -/
def readUnsigned (negative : Bool) (cs : List Char) : Option (Tree × List Char) :=
  match wholeDigits cs with
  | none => none
  | some (whole, r) =>
    match fractionDigits r with
    | none => none
    | some (frac, r) =>
      match exponentDigits r with
      | none => none
      | some (e, r) =>
        match frac, e with
        | none, none => some (wholeNumber negative (ofDigits whole), r)
        | frac, e =>
          let ds := frac.getD []
          match (Decimal.mk negative (ofDigits (whole ++ ds)) (e.getD 0 - ds.length)).toDouble with
          | .finite x => some (.num (.float x), r)
          | _ => some (.unusable, r)

/-- Reads a number. -/
def readNumber (cs : List Char) : Option (Tree × List Char) :=
  match cs with
  | '-' :: r => readUnsigned true r
  | _ => readUnsigned false cs

/-- An array or object at a depth of nesting that is still allowed. -/
def atDepth (depth : Nat) (t : Tree) : Tree := if depth = 0 then .unusable else t

/-- An object is usable if all its keys are. -/
def objectOf (ms : List (Option String × Tree)) : Tree :=
  match ms.mapM fun m => m.1.map (·, m.2) with
  | some ms => .obj ms
  | none => .unusable

mutual
/-- Reads one value; `depth` more arrays and objects may be opened. -/
def readValue : Nat → Nat → List Char → Option (Tree × List Char)
  | 0, _, _ => none
  | fuel + 1, depth, cs =>
    match skipGaps cs with
    | 'n' :: 'u' :: 'l' :: 'l' :: r => some (.null, r)
    | 't' :: 'r' :: 'u' :: 'e' :: r => some (.bool true, r)
    | 'f' :: 'a' :: 'l' :: 's' :: 'e' :: r => some (.bool false, r)
    | '"' :: r =>
      match readString r with
      | some (some s, r) => some (.str (String.ofList s), r)
      | some (none, r) => some (.unusable, r)
      | none => none
    | '[' :: r =>
      match skipGaps r with
      | ']' :: r => some (atDepth depth (.arr []), r)
      | r =>
        match readItems fuel (depth - 1) r with
        | some (items, r) => some (atDepth depth (.arr items), r)
        | none => none
    | '{' :: r =>
      match skipGaps r with
      | '}' :: r => some (atDepth depth (.obj []), r)
      | r =>
        match readMembers fuel (depth - 1) r with
        | some (ms, r) => some (atDepth depth (objectOf ms), r)
        | none => none
    | r => readNumber r
/-- Reads the items of an array up to its closing bracket. -/
def readItems : Nat → Nat → List Char → Option (List Tree × List Char)
  | 0, _, _ => none
  | fuel + 1, depth, cs =>
    match readValue fuel depth cs with
    | none => none
    | some (v, r) =>
      match skipGaps r with
      | ']' :: r => some ([v], r)
      | ',' :: r =>
        match readItems fuel depth r with
        | some (vs, r) => some (v :: vs, r)
        | none => none
      | _ => none
/-- Reads the members of an object up to its closing brace. -/
def readMembers : Nat → Nat → List Char → Option (List (Option String × Tree) × List Char)
  | 0, _, _ => none
  | fuel + 1, depth, cs =>
    match skipGaps cs with
    | '"' :: r =>
      match readString r with
      | none => none
      | some (k, r) =>
        match skipGaps r with
        | ':' :: r =>
          match readValue fuel depth r with
          | none => none
          | some (v, r) =>
            match skipGaps r with
            | '}' :: r => some ([(k.map String.ofList, v)], r)
            | ',' :: r =>
              match readMembers fuel depth r with
              | some (ms, r) => some ((k.map String.ofList, v) :: ms, r)
              | none => none
            | _ => none
        | _ => none
    | _ => none
end

/-- Reads a whole text, which holds one value and nothing else. -/
def Tree.parse? (text : String) : Option Tree :=
  match readValue (2 * text.toList.length + 2) maxDepth text.toList with
  | some (t, r) => if (skipGaps r).isEmpty then some t else none
  | none => none

/-- Reads a whole text as an untyped value. -/
def parse? (text : String) : Option Json := (Tree.parse? text).bind Tree.value?

end ChatPlan.Json
