import ChatPlan.Issue
import ChatPlan.Text.Alphabetic
import ChatPlan.Text.Basic

/-
Template blocks in a text: output, statement and comment blocks with the variables and the filters
that each one uses. They are found from left to right, and nothing is evaluated. An output or
statement block has to be closed, and an output needs a body; a comment that is never closed is
plain text.
-/
namespace ChatPlan.Template

/-! ## Bodies of blocks -/

/-- The kinds of blocks. -/
inductive BlockKind where
  | output
  | statement
  | comment
deriving DecidableEq

namespace BlockKind

def name : BlockKind → String
  | .output => "output"
  | .statement => "statement"
  | .comment => "comment"

def all : List BlockKind := [.output, .statement, .comment]

def ofName? (s : String) : Option BlockKind := all.find? (·.name == s)

/-- The character that opens the kind behind a brace, and closes it in front of one. -/
def mark : BlockKind → Char
  | .output => '{'
  | .statement => '%'
  | .comment => '#'

/-- The character in front of the closing brace. -/
def closeMark : BlockKind → Char
  | .output => '}'
  | .statement => '%'
  | .comment => '#'

/-- The kind of block that the character opens behind a brace. -/
def ofMark? (c : Char) : Option BlockKind := all.find? (·.mark == c)

end BlockKind

/-- A block: its text with delimiters, what stands between them, and where it starts in bytes. -/
structure Block where
  kind : BlockKind
  raw : String
  body : String
  offset : Nat
  vars : List String
  filters : List String
deriving DecidableEq

/-- Words that are no variables. -/
def keywords : List String :=
  ["and", "or", "not", "in", "is", "if", "else", "elif", "endif", "for", "endfor", "set",
    "endset", "true", "false", "none", "null", "True", "False", "None", "with", "endwith",
    "macro", "endmacro", "raw", "endraw"]

/-- A dotted name in a body, and whether it is called. -/
structure Token where
  path : List Char
  isCall : Bool
deriving DecidableEq

def isQuote (c : Char) : Bool := c == '"' || c == '\x27'

def startsName (c : Char) : Bool := Text.isAlphabetic c || c == '_'

def continuesName (c : Char) : Bool := Text.isAlphanumeric c || c == '_' || c == '.'

def continuesNumber (c : Char) : Bool := Text.isAsciiAlphanumeric c || c == '.' || c == '_'

theorem length_dropWhile_le (p : Char → Bool) (cs : List Char) :
    (cs.dropWhile p).length ≤ cs.length :=
  (List.dropWhile_sublist p).length_le

/-- The names in a piece of a body. Quoted texts and numbers are skipped. -/
def tokens : List Char → List Token
  | [] => []
  | c :: cs =>
    if isQuote c then tokens ((cs.dropWhile (· != c)).drop 1)
    else if c.isDigit then tokens (cs.dropWhile continuesNumber)
    else if startsName c then
      let rest := cs.dropWhile continuesName
      ⟨Text.dropEndWhile (· == '.') (c :: cs.takeWhile continuesName),
        (rest.dropWhile Text.isBlank).head? == some '('⟩ :: tokens rest
    else tokens cs
termination_by cs => cs.length
decreasing_by
  all_goals simp only [List.length_cons, List.length_drop]
  · have := length_dropWhile_le (· != c) cs; omega
  · have := length_dropWhile_le continuesNumber cs; omega
  · have := length_dropWhile_le continuesName cs; omega
  · omega

/-- Cuts a body at every pipe outside quotes; two pipes in a row are no pipe. -/
def splitPipes : Option Char → List Char → List (List Char)
  | _, [] => [[]]
  | some q, c :: cs => Text.consPiece c (splitPipes (if c = q then none else some q) cs)
  | none, '|' :: '|' :: cs => Text.consPiece '|' (Text.consPiece '|' (splitPipes none cs))
  | none, '|' :: cs => [] :: splitPipes none cs
  | none, c :: cs => Text.consPiece c (splitPipes (if isQuote c then some c else none) cs)

/-- The filter that a piece behind a pipe starts with, and the names after it. -/
def takeFilter : List Token → Option String × List Token
  | [] => (none, [])
  | t :: ts => if t.path.contains '.' then (none, t :: ts) else (some (String.ofList t.path), ts)

/-- The names that a statement binds: those of a `for` up to its `in`, or the one that is `set`. -/
def boundNames : List Token → List (List Char)
  | [] => []
  | t :: ts =>
    if t.path = "for".toList then (ts.takeWhile (·.path != "in".toList)).map (·.path)
    else if t.path = "set".toList then (ts.take 1).map (·.path)
    else []

/-- The root of a dotted name. -/
def root (path : List Char) : List Char := path.takeWhile (· != '.')

/-- The variables among the names, each once, in order of appearance. -/
def variablesOf (bound : List (List Char)) (ts : List Token) : List String :=
  (ts.filter fun t =>
      !t.isCall && !keywords.contains (String.ofList t.path) && !bound.contains (root t.path)).foldl
    (fun vs t => if vs.contains (String.ofList t.path) then vs else vs ++ [String.ofList t.path])
    []

/-- What the body of a block uses, and the names that are bound after it. -/
structure Usage where
  vars : List String
  filters : List String
  bound : List (List Char)

/-- Reads the body of an output or statement block where some names are bound already. -/
def usage (kind : BlockKind) (bound : List (List Char)) (body : List Char) : Usage :=
  match splitPipes none body with
  | [] => ⟨[], [], bound⟩
  | first :: piped =>
    let steps := piped.map fun p => takeFilter (tokens p)
    let names := tokens first ++ steps.flatMap (·.2)
    let bound := if kind = .statement then boundNames names ++ bound else bound
    ⟨variablesOf bound names, steps.filterMap (·.1), bound⟩

/-! ## Finding blocks -/

/-- Why a text cannot be scanned, and at which byte. -/
inductive ScanError where
  | unterminated (offset : Nat) (kind : BlockKind)
  | emptyOutput (offset : Nat)
deriving DecidableEq

namespace ScanError

def offset : ScanError → Nat
  | .unterminated offset _ => offset
  | .emptyOutput offset => offset

/-- The error in words. -/
def message : ScanError → String
  | .unterminated _ kind =>
    "unterminated block, expected '" ++ String.ofList [kind.closeMark, '}'] ++ "'"
  | .emptyOutput _ => "empty output expression"

def toFailure (e : ScanError) : Failure := .templateScan e.offset e.message

end ScanError

/-- Cuts a text at the first place where the mark stands in front of a closing brace. -/
def cutClose (mark : Char) : List Char → Option (List Char × List Char)
  | [] => none
  | [_] => none
  | c :: d :: cs =>
    if c = mark && d = '}' then some ([], cs)
    else (cutClose mark (d :: cs)).map fun (inner, rest) => (c :: inner, rest)

theorem length_cutClose {mark : Char} {cs inner rest : List Char}
    (h : cutClose mark cs = some (inner, rest)) : rest.length < cs.length := by
  induction cs generalizing inner with
  | nil => simp [cutClose] at h
  | cons c cs ih =>
    cases cs with
    | nil => simp [cutClose] at h
    | cons d cs =>
      simp only [cutClose] at h
      split at h
      · cases h; grind
      · obtain ⟨⟨i, r⟩, h1, h2⟩ := Option.map_eq_some_iff.1 h
        cases h2
        have := ih h1
        simp at this ⊢; omega

/-- What stands between the delimiters, without blanks and trimming marks at its ends. -/
def bodyOf (inner : List Char) : List Char :=
  Text.trim (Text.trimWhile (· == '-') (Text.trim inner))

/-- The block of this kind with this inner text, at this place, and the names bound after it. -/
def blockOf (kind : BlockKind) (offset : Nat) (bound : List (List Char)) (inner : List Char) :
    Block × List (List Char) :=
  let body := bodyOf inner
  let raw := '{' :: kind.mark :: (inner ++ [kind.closeMark, '}'])
  let used := if kind = .comment then ⟨[], [], bound⟩ else usage kind bound body
  (⟨kind, String.ofList raw, String.ofList body, offset, used.vars, used.filters⟩, used.bound)

/-- The blocks of the rest of a text that starts at this byte. -/
def scanFrom (offset : Nat) (bound : List (List Char)) : List Char → Except ScanError (List Block)
  | [] => .ok []
  | [_] => .ok []
  | c :: d :: cs =>
    match if c = '{' then BlockKind.ofMark? d else none with
    | none => scanFrom (offset + c.utf8Size) bound (d :: cs)
    | some kind =>
      match _h : cutClose kind.closeMark cs with
      | none =>
        if kind = .comment then scanFrom (offset + 2) bound cs
        else .error (.unterminated offset kind)
      | some (inner, rest) =>
        if kind = .output && (bodyOf inner).isEmpty then .error (.emptyOutput offset)
        else
          let (block, bound) := blockOf kind offset bound inner
          (scanFrom (offset + Text.bytes inner + 4) bound rest).map (block :: ·)
termination_by cs => cs.length
decreasing_by
  · simp
  · grind
  · have := length_cutClose _h; simp; omega

/-- The blocks of a text, from left to right. -/
def scan (text : String) : Except ScanError (List Block) := scanFrom 0 [] text.toList

/-- How many characters stand outside the blocks. -/
def literalLength (text : String) (blocks : List Block) : Nat :=
  text.length - total (·.raw.length) blocks

/-- The text after the first comment opening. -/
def afterCommentMark : List Char → Option (List Char)
  | [] => none
  | [_] => none
  | c :: d :: cs => if c = '{' && d = '#' then some cs else afterCommentMark (d :: cs)

/-- A quick look whether a text is worth scanning: it opens an output or a statement, or a comment
that is closed somewhere after it. -/
def worthScanning (text : String) : Bool :=
  let cs := text.toList
  Text.occursIn ['{', '{'] cs || Text.occursIn ['{', '%'] cs ||
    (afterCommentMark cs).any (Text.occursIn ['#', '}'])

end ChatPlan.Template
