import ChatPlan.Number.Decimal
import ChatPlan.Regex.Syntax
import ChatPlan.Text.Alphabetic
import ChatPlan.Text.Basic

/-
Reading patterns. A reader takes the rest of the pattern and returns what it read and what is left.
In a verbose pattern, blanks and comments may stand between all parts.
-/
namespace ChatPlan.Regex

open Text

/-- Drops blanks, and comments up to the end of their line. -/
def skipBlanks : Bool → List Char → List Char
  | _, [] => []
  | true, c :: cs => skipBlanks (c != '\n') cs
  | false, c :: cs =>
    if isBlank c then skipBlanks false cs
    else if c = '#' then skipBlanks true cs
    else c :: cs

/-- Drops what a verbose pattern does not count. -/
def skip (verbose : Bool) (cs : List Char) : List Char :=
  if verbose then skipBlanks false cs else cs

theorem length_skipBlanks_le (inComment : Bool) (cs : List Char) :
    (skipBlanks inComment cs).length ≤ cs.length := by
  induction cs generalizing inComment with
  | nil => simp [skipBlanks]
  | cons c cs ih =>
    cases inComment <;> simp only [skipBlanks]
    · split
      · exact Nat.le_succ_of_le (ih false)
      · split
        · exact Nat.le_succ_of_le (ih true)
        · simp
    · exact Nat.le_succ_of_le (ih _)

theorem length_skip_le (verbose : Bool) (cs : List Char) :
    (skip verbose cs).length ≤ cs.length := by
  unfold skip
  split
  · exact length_skipBlanks_le false cs
  · simp

/-- The next character that counts behind the one in hand. A comment hides only its mark here. -/
def peek (verbose : Bool) (cs : List Char) : Option Char :=
  if verbose then
    match cs.dropWhile isBlank with
    | '#' :: r => (r.dropWhile isBlank).head?
    | r => r.head?
  else cs.head?

/-- Takes characters of a class; what does not count is dropped behind each of them. -/
def takeSpaced (verbose : Bool) (p : Char → Bool) : List Char → List Char × List Char
  | [] => ([], [])
  | c :: cs =>
    if p c then
      let (taken, rest) := takeSpaced verbose p (skip verbose cs)
      (c :: taken, rest)
    else ([], c :: cs)
termination_by cs => cs.length
decreasing_by have := length_skip_le verbose cs; simp only [List.length_cons]; omega

def isHexDigit (c : Char) : Bool :=
  c.isDigit || ('a' ≤ c && c ≤ 'f') || ('A' ≤ c && c ≤ 'F')

/-- The number that hexadecimal digits write. -/
def hexNumber (ds : List Char) : Nat :=
  ds.foldl (fun n d =>
    16 * n + (if d.isDigit then d.toNat - 0x30 else d.toLower.toNat - 0x61 + 10)) 0

/-- The character with this number. -/
def charOfNumber (n : Nat) : Except RegexError Char :=
  if h : n.isValidChar then .ok (Char.ofNatAux n h) else .error .invalidEscape

/-- Reads this many hexadecimal digits. -/
def readHexDigits (verbose : Bool) : Nat → List Char → Except RegexError (List Char × List Char)
  | 0, cs => .ok ([], cs)
  | _ + 1, [] => .error .invalidEscape
  | n + 1, c :: cs =>
    if isHexDigit c then
      (readHexDigits verbose n (skip verbose cs)).map fun (ds, cs) => (c :: ds, cs)
    else .error .invalidEscape

/-- Reads a character by its number: in braces, or with a fixed number of digits. -/
def readNumbered (verbose : Bool) (size : Nat) (cs : List Char) :
    Except RegexError (Ast × List Char) :=
  match skip verbose cs with
  | '{' :: r =>
    match takeSpaced verbose (· != '}') (skip verbose r) with
    | (ds, '}' :: r) =>
      if ds.isEmpty || !ds.all isHexDigit then .error .invalidEscape
      else do return (.char (← charOfNumber (hexNumber ds)) false, skip verbose r)
    | _ => .error .invalidEscape
  | r => do
    let (ds, r) ← readHexDigits verbose size r
    return (.char (← charOfNumber (hexNumber ds)) (size == 2), r)

/-- Cuts a text at the first occurrence of another one. -/
def cutAt (mark : List Char) : List Char → Option (List Char × List Char)
  | [] => none
  | c :: cs =>
    if mark.isPrefixOf (c :: cs) then some ([], (c :: cs).drop mark.length)
    else (cutAt mark cs).map fun (before, after) => (c :: before, after)

/-- A property between braces: a name, or a name and a value that it has or has not. -/
def propertyOf (negated : Bool) (cs : List Char) : Ast :=
  match cutAt ['!', '='] cs with
  | some (name, value) => .property (.valued name value) (!negated)
  | none =>
    match (cutAt [':'] cs).or (cutAt ['='] cs) with
    | some (name, value) => .property (.valued name value) negated
    | none => .property (.named cs) negated

/-- Reads a property: one letter, or a text in braces. -/
def readProperty (verbose negated : Bool) (cs : List Char) : Except RegexError (Ast × List Char) :=
  match skip verbose cs with
  | [] => .error .invalidEscape
  | '{' :: r =>
    match takeSpaced verbose (· != '}') (skip verbose r) with
    | (name, '}' :: r) => .ok (propertyOf negated name, r)
    | _ => .error .invalidEscape
  | '\\' :: _ => .error .invalidEscape
  | c :: r => .ok (.property (.named [c]) negated, skip verbose r)

def isEdgeChar (c : Char) : Bool := c.isAlpha || c == '-'

/-- Reads what follows `\b`: the name of a special edge in braces, or nothing. -/
def readEdge (verbose : Bool) (cs : List Char) : Except RegexError (Ast × List Char) :=
  match cs with
  | '{' :: r =>
    match skip verbose r with
    | [] => .error .invalidEscape
    | c :: r' =>
      if isEdgeChar c then
        match takeSpaced verbose isEdgeChar (c :: r') with
        | (name, '}' :: r) =>
          if name = "start".toList then .ok (.anchor .wordStart, r)
          else if name = "end".toList then .ok (.anchor .wordEnd, r)
          else if name = "start-half".toList then .ok (.anchor .noWordBefore, r)
          else if name = "end-half".toList then .ok (.anchor .noWordAfter, r)
          else .error .invalidEscape
        | _ => .error .invalidEscape
      else .ok (.anchor .wordEdge, cs)
  | _ => .ok (.anchor .wordEdge, cs)

/-- The character may stand for itself behind a backslash. -/
def isEscapable (c : Char) : Bool :=
  c.toNat < 0x80 && !isAsciiAlphanumeric c && c != '<' && c != '>'

/-- The controls that have a letter. -/
def controlEscape? (c : Char) : Option Char :=
  (List.lookup c [('a', '\x07'), ('f', '\x0c'), ('t', '\t'), ('n', '\n'), ('r', '\r'),
    ('v', '\x0b')])

/-- The conditions that have a letter or a sign. -/
def anchorEscape? (c : Char) : Option Anchor :=
  List.lookup c [('A', .textStart), ('z', .textEnd), ('B', .noWordEdge), ('<', .wordStart),
    ('>', .wordEnd)]

/-- The classes of one letter, and whether they are negated. -/
def shorthandEscape? (c : Char) : Option (Shorthand × Bool) :=
  List.lookup c [('d', .digit, false), ('D', .digit, true), ('s', .space, false),
    ('S', .space, true), ('w', .word, false), ('W', .word, true)]

/-- Reads what follows a backslash. -/
def readEscape (verbose : Bool) (cs : List Char) : Except RegexError (Ast × List Char) :=
  match cs with
  | [] => .error .invalidEscape
  | c :: r =>
    if c = 'x' then readNumbered verbose 2 r
    else if c = 'u' then readNumbered verbose 4 r
    else if c = 'U' then readNumbered verbose 8 r
    else if c = 'p' then readProperty verbose false r
    else if c = 'P' then readProperty verbose true r
    else if c = 'b' then readEdge verbose r
    else
      match shorthandEscape? c, controlEscape? c, anchorEscape? c with
      | some (kind, negated), _, _ => .ok (.shorthand kind negated, r)
      | _, some c, _ => .ok (.char c false, r)
      | _, _, some a => .ok (.anchor a, r)
      | none, none, none =>
        if isEscapable c then .ok (.char c false, r) else .error .invalidEscape

/-- The flag with this letter. -/
def flagOf? (c : Char) : Option Flag :=
  List.lookup c [('i', .ignoreCase), ('m', .multiLine), ('s', .dotAll), ('U', .swapGreed),
    ('u', .unicode), ('R', .crlf), ('x', .verbose)]

/-- The letters of a change of flags: no letter twice, at most one minus, and not at the end. -/
def flagChange (letters : List Char) : Except RegexError FlagChange :=
  match cutAt ['-'] letters with
  | none => do
    let on ← letters.mapM fun c => (flagOf? c).elim (.error .invalidFlags) .ok
    if on.eraseDups.length == on.length then return ⟨on, []⟩ else throw .invalidFlags
  | some (before, after) => do
    let on ← before.mapM fun c => (flagOf? c).elim (.error .invalidFlags) .ok
    let off ← after.mapM fun c => (flagOf? c).elim (.error .invalidFlags) .ok
    if after.isEmpty || (on ++ off).eraseDups.length != (on ++ off).length then
      throw .invalidFlags
    return ⟨on, off⟩

/-- What an opening parenthesis opens: a group, or a change of flags for what follows. -/
inductive Opening where
  | group (name : Option (List Char)) (f : FlagChange)
  | change (f : FlagChange)

def isNameChar (c : Char) : Bool :=
  c == '_' || c == '.' || c == '[' || c == ']' || isAlphanumeric c

/-- Reads the name of a group up to its closing bracket. -/
def readGroupName (cs : List Char) : Except RegexError (Opening × List Char) :=
  match cs.takeWhile (· != '>'), cs.dropWhile (· != '>') with
  | c :: name, '>' :: r =>
    if (c == '_' || isAlphabetic c) && name.all isNameChar then
      .ok (.group (some (c :: name)) ⟨[], []⟩, r)
    else .error .invalidGroupName
  | _, _ => .error .invalidGroupName

/-- Reads flags up to a colon or a closing parenthesis. -/
def readFlags (cs : List Char) : Except RegexError (Opening × List Char) :=
  let goesOn (c : Char) := c != ':' && c != ')'
  match cs.takeWhile goesOn, cs.dropWhile goesOn with
  | letters, ':' :: r => do return (.group none (← flagChange letters), r)
  | letters, ')' :: r =>
    if letters.isEmpty then .error .nothingToRepeat
    else do return (.change (← flagChange letters), r)
  | _, _ => .error .unclosedGroup

/-- Reads what follows an opening parenthesis. -/
def readOpening (cs : List Char) : Except RegexError (Opening × List Char) :=
  match cs with
  | '?' :: '=' :: _ => .error .lookAround
  | '?' :: '!' :: _ => .error .lookAround
  | '?' :: '<' :: '=' :: _ => .error .lookAround
  | '?' :: '<' :: '!' :: _ => .error .lookAround
  | '?' :: 'P' :: '<' :: r => readGroupName r
  | '?' :: '<' :: r => readGroupName r
  | '?' :: r => readFlags r
  | r => .ok (.group none ⟨[], []⟩, r)

/-- Reads a count of a repetition; blanks around it do not count. -/
def readCount (verbose : Bool) (cs : List Char) : Except RegexError (Option Nat × List Char) :=
  let (ds, r) := takeSpaced verbose Char.isDigit (cs.dropWhile isBlank)
  if ds.isEmpty then .ok (none, r.dropWhile isBlank)
  else if ofDigits ds < Nat.pow 2 32 then
    .ok (some (ofDigits ds), skip verbose (r.dropWhile isBlank))
  else .error .invalidCount

/-- Reads a repetition in braces: a count, a least count, or both counts. -/
def readBounds (verbose : Bool) (cs : List Char) :
    Except RegexError ((Nat × Option Nat) × List Char) := do
  let (low, r) ← readCount verbose (skip verbose cs)
  match low, r with
  | none, _ => throw .invalidCount
  | some n, '}' :: r => return ((n, some n), r)
  | some n, ',' :: r =>
    match skip verbose r with
    | '}' :: r => return ((n, none), r)
    | r =>
      match ← readCount verbose r with
      | (some m, '}' :: r) => if n ≤ m then return ((n, some m), r) else throw .invalidCount
      | _ => throw .invalidCount
  | _, _ => throw .invalidCount

/-- Repeats the last part that was read, if it can be repeated. -/
def repeatLast (min : Nat) (max : Option Nat) : List Ast → Except RegexError (List Ast)
  | [] => .error .nothingToRepeat
  | .change _ :: _ => .error .nothingToRepeat
  | a :: done => .ok (.repeated a min max :: done)

/-- Drops the mark that makes a repetition reluctant. -/
def dropReluctance : List Char → List Char
  | '?' :: r => r
  | r => r

/-- A part that stands in a class by itself. -/
def classPart : Ast → Except RegexError ClassSet
  | .char c byte => .ok (.char c byte)
  | .shorthand kind negated => .ok (.shorthand kind negated)
  | .property name negated => .ok (.property name negated)
  | _ => .error .invalidClass

/-- Reads one end of a range, or a part of a class. -/
def readClassAtom (verbose : Bool) : List Char → Except RegexError (Ast × List Char)
  | [] => .error .unclosedClass
  | '\\' :: r => readEscape verbose r
  | c :: r => .ok (.char c false, r)

/-- Reads a range or a single part of a class. A minus in front of the end of the class, or of
another minus, makes no range. -/
def readClassPart (verbose : Bool) (cs : List Char) : Except RegexError (ClassSet × List Char) := do
  let (first, r) ← readClassAtom verbose cs
  match skip verbose r with
  | [] => throw .unclosedClass
  | '-' :: r =>
    if peek verbose r == some ']' || peek verbose r == some '-' then
      return (← classPart first, '-' :: r)
    else
      let (last, r) ← readClassAtom verbose (skip verbose r)
      match first, last with
      | .char a abyte, .char b bbyte =>
        if a ≤ b then return (.range a b abyte bbyte, r) else throw .invalidClass
      | _, _ => throw .invalidClass
  | r => return (← classPart first, r)

/-- Reads an ASCII class such as `[:alpha:]`, if there is one behind a bracket. -/
def readAsciiClass? (cs : List Char) : Option (ClassSet × List Char) :=
  match cs with
  | ':' :: r =>
    let (negated, r) := match r with
      | '^' :: r => (true, r)
      | r => (false, r)
    match r.takeWhile (· != ':'), r.dropWhile (· != ':') with
    | name, ':' :: ']' :: r =>
      if ["alnum", "alpha", "ascii", "blank", "cntrl", "digit", "graph", "lower", "print", "punct",
          "space", "upper", "word", "xdigit"].contains (String.ofList name) then
        some (.ascii (String.ofList name) negated, r)
      else none
    | _, _ => none
  | _ => none

/-- Joins what was read of a class with what stands in front of its last operator. -/
def joinPending (pending : Option (ClassOp × ClassSet)) (done : List ClassSet) : ClassSet :=
  match pending with
  | none => .ofParts done.reverse
  | some (op, left) => .binary op left (.ofParts done.reverse)

/-- Reads the start of a class: its negation, and the signs that only here stand for themselves. -/
def readClassStart (verbose : Bool) (cs : List Char) : Bool × List ClassSet × List Char :=
  let (negated, r) := match skip verbose cs with
    | '^' :: r => (true, skip verbose r)
    | r => (false, r)
  let (minuses, r) := takeSpaced verbose (· == '-') r
  match minuses, r with
  | [], ']' :: r => (negated, [.char ']' false], skip verbose r)
  | ms, r => (negated, ms.map fun c => .char c false, r)

mutual
/-- Reads a class behind its opening bracket. -/
def readClass : Nat → Bool → List Char → Except RegexError (ClassSet × List Char)
  | 0, _, _ => .error .tooDeep
  | fuel + 1, verbose, cs => do
    let (negated, start, r) := readClassStart verbose cs
    let (set, r) ← readClassParts fuel verbose none start r
    return (.bracket set negated, r)
/-- Reads the parts of a class up to its closing bracket. -/
def readClassParts : Nat → Bool → Option (ClassOp × ClassSet) → List ClassSet → List Char →
    Except RegexError (ClassSet × List Char)
  | 0, _, _, _, _ => .error .tooDeep
  | fuel + 1, verbose, pending, done, cs =>
    let next (op : ClassOp) (r : List Char) :=
      readClassParts fuel verbose (some (op, joinPending pending done)) [] r
    match skip verbose cs with
    | [] => .error .unclosedClass
    | ']' :: r => .ok (joinPending pending done, r)
    | '&' :: '&' :: r => next .inter r
    | '-' :: '-' :: r => next .diff r
    | '~' :: '~' :: r => next .xor r
    | '[' :: r =>
      match readAsciiClass? r with
      | some (set, r) => readClassParts fuel verbose pending (set :: done) r
      | none => do
        let (set, r) ← readClass fuel verbose r
        readClassParts fuel verbose pending (set :: done) r
    | r => do
      let (set, r) ← readClassPart verbose r
      readClassParts fuel verbose pending (set :: done) r
end

mutual
/-- Reads branches up to a closing parenthesis or the end. -/
def readBranches : Nat → Bool → List Char → Except RegexError (List Ast × List Char)
  | 0, _, _ => .error .tooDeep
  | fuel + 1, verbose, cs => do
    let (branch, verbose, r) ← readBranch fuel verbose [] cs
    match r with
    | '|' :: r => do
      let (branches, r) ← readBranches fuel verbose r
      return (branch :: branches, r)
    | r => return ([branch], r)
/-- Reads the parts of a branch, and whether the pattern is verbose behind it. -/
def readBranch : Nat → Bool → List Ast → List Char → Except RegexError (Ast × Bool × List Char)
  | 0, _, _, _ => .error .tooDeep
  | fuel + 1, verbose, done, cs =>
    let repetition (min : Nat) (max : Option Nat) (r : List Char) := do
      readBranch fuel verbose (← repeatLast min max done) (dropReluctance r)
    match skip verbose cs with
    | [] => .ok (.ofParts done.reverse, verbose, [])
    | ')' :: r => .ok (.ofParts done.reverse, verbose, ')' :: r)
    | '|' :: r => .ok (.ofParts done.reverse, verbose, '|' :: r)
    | '(' :: r => do
      match ← readOpening (skip verbose r) with
      | (.change f, r) => readBranch fuel (f.apply .verbose verbose) (.change f :: done) r
      | (.group name f, r) => do
        match ← readBranches fuel (f.apply .verbose verbose) r with
        | (branches, ')' :: r) =>
          readBranch fuel verbose (.group name f (.ofBranches branches) :: done) r
        | _ => throw .unclosedGroup
    | '[' :: r => do
      let (set, r) ← readClass fuel verbose r
      readBranch fuel verbose (.bracket set :: done) r
    | '?' :: r => repetition 0 (some 1) r
    | '*' :: r => repetition 0 none r
    | '+' :: r => repetition 1 none r
    | '{' :: r => do
      let ((min, max), r) ← readBounds verbose r
      readBranch fuel verbose (← repeatLast min max done) (dropReluctance (skip verbose r))
    | '\\' :: r => do
      let (a, r) ← readEscape verbose r
      readBranch fuel verbose (a :: done) r
    | '.' :: r => readBranch fuel verbose (.dot :: done) r
    | '^' :: r => readBranch fuel verbose (.anchor .lineStart :: done) r
    | '$' :: r => readBranch fuel verbose (.anchor .lineEnd :: done) r
    | c :: r => readBranch fuel verbose (.char c false :: done) r
end

/-- The deepest nesting that is allowed. -/
def maxDepth : Nat := 250

/-- Reads a whole pattern. -/
def Ast.parse (pattern : String) : Except RegexError Ast := do
  let cs := pattern.toList
  match ← readBranches (2 * cs.length + 2) false cs with
  | (branches, []) =>
    let a := Ast.ofBranches branches
    if a.groupNames.eraseDups.length != a.groupNames.length then throw .invalidGroupName
    if maxDepth < a.depth then throw .tooDeep
    return a
  | _ => throw .unopenedGroup

end ChatPlan.Regex
