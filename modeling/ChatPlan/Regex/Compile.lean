import ChatPlan.Issue
import ChatPlan.Regex.Basic
import ChatPlan.Regex.Parser

/-
From the syntax of a pattern to the pattern: flags take effect on what follows them, up to the end
of their group. Without Unicode a pattern knows ASCII only, and what would match beyond it is
refused.
-/
namespace ChatPlan.Regex

/-- The flags in force. -/
structure Flags where
  ignoreCase : Bool
  multiLine : Bool
  dotAll : Bool
  unicode : Bool
  crlf : Bool

/-- The flags after a change. -/
def Flags.change (s : Flags) (f : FlagChange) : Flags :=
  { ignoreCase := f.apply .ignoreCase s.ignoreCase
    multiLine := f.apply .multiLine s.multiLine
    dotAll := f.apply .dotAll s.dotAll
    unicode := f.apply .unicode s.unicode
    crlf := f.apply .crlf s.crlf }

/-- The set with all case variants, where case is ignored. -/
def Flags.folded (s : Flags) (a : CharSet) : CharSet :=
  if s.ignoreCase then if s.unicode then .fold a else .foldAscii a else a

/-- The set with all case variants, or what is not in it. -/
def Flags.negated (s : Flags) (negated : Bool) (a : CharSet) : Except RegexError CharSet :=
  if negated then
    if s.unicode then .ok (.compl (s.folded a)) else .error .needsUnicode
  else .ok (s.folded a)

/-- A character as a part of a class. -/
def Flags.classChar (s : Flags) (c : Char) : Except RegexError Char :=
  if s.unicode || c.toNat < 0x80 then .ok c else .error .needsUnicode

/-- A class of one letter. It is closed under case as it is. -/
def shorthandSet (s : Flags) (kind : Shorthand) (negated : Bool) : Except RegexError CharSet :=
  let set := match kind, s.unicode with
    | .digit, true => CharSet.digit
    | .space, true => CharSet.space
    | .word, true => CharSet.word
    | .digit, false => CharSet.asciiDigit
    | .space, false => CharSet.asciiSpace
    | .word, false => CharSet.asciiWord
  if !negated then .ok set
  else if s.unicode then .ok (.compl set)
  else .error .needsUnicode

/-- A Unicode property. -/
def propertySet (s : Flags) (name : PropertyName) (negated : Bool) : Except RegexError CharSet :=
  if !s.unicode then .error .needsUnicode
  else
    let set := match name with
      | .named n => CharSet.ofName? n
      | .valued n v => CharSet.ofValue? n v
    match set with
    | some set => s.negated negated set
    | none => .error .unknownProperty

mutual
/-- The characters of a class. -/
def ClassSet.resolve (s : Flags) : ClassSet → Except RegexError CharSet
  | .char c _ => return .single (← s.classChar c)
  | .range a b _ _ => do
    return .ranges [((← s.classChar a).toNat, (← s.classChar b).toNat)]
  | .ascii name negated => s.negated negated ((CharSet.asciiClass? name).getD .nothing)
  | .shorthand kind negated => shorthandSet s kind negated
  | .property name negated => propertySet s name negated
  | .union parts => ClassSet.resolveAll s parts
  | .binary op a b => do
    let a := s.folded (← a.resolve s)
    let b := s.folded (← b.resolve s)
    return match op with
      | .inter => .inter a b
      | .diff => .diff a b
      | .xor => .xor a b
  | .bracket a negated => do s.negated negated (← a.resolve s)
/-- The characters of any of the classes. -/
def ClassSet.resolveAll (s : Flags) : List ClassSet → Except RegexError CharSet
  | [] => .ok .nothing
  | a :: as => return .union (← a.resolve s) (← ClassSet.resolveAll s as)
end

/-- A condition on a place under these flags. -/
def anchorLook (s : Flags) : Anchor → Look
  | .lineStart => if s.multiLine then .lineStart s.crlf else .textStart
  | .lineEnd => if s.multiLine then .lineEnd s.crlf else .textEnd
  | .textStart => .textStart
  | .textEnd => .textEnd
  | .wordEdge => .wordEdge !s.unicode
  | .noWordEdge => .noWordEdge !s.unicode
  | .wordStart => .wordStart !s.unicode
  | .wordEnd => .wordEnd !s.unicode
  | .noWordBefore => .noWordBefore !s.unicode
  | .noWordAfter => .noWordAfter !s.unicode

/-- What a dot matches. -/
def dotSet (s : Flags) : Except RegexError CharSet :=
  if !s.unicode then .error .needsUnicode
  else if s.dotAll then .ok .any
  else if s.crlf then .ok (.compl (.ranges [(0xa, 0xa), (0xd, 0xd)]))
  else .ok (.compl (.single '\n'))

/-- What a single character matches. Without Unicode no byte beyond ASCII is a character. -/
def charSet (s : Flags) (c : Char) (byte : Bool) : Except RegexError CharSet :=
  if !s.unicode && byte && 0x80 ≤ c.toNat then .error .needsUnicode
  else .ok (s.folded (.single c))

mutual
/-- The pattern under these flags, and the flags behind it. -/
def Ast.resolve (s : Flags) : Ast → Except RegexError (Regex × Flags)
  | .char c byte => return (.chars (← charSet s c byte), s)
  | .dot => return (.chars (← dotSet s), s)
  | .anchor kind => return (.look (anchorLook s kind), s)
  | .shorthand kind negated => return (.chars (← shorthandSet s kind negated), s)
  | .property name negated => return (.chars (← propertySet s name negated), s)
  | .bracket set => return (.chars (← set.resolve s), s)
  | .change f => return (.empty, s.change f)
  | .group _ f a => return ((← a.resolve (s.change f)).1, s)
  | .repeated a min max => do
    let (r, s) ← a.resolve s
    return (.repeated r min max, s)
  | .concat as => do
    let (rs, s) ← Ast.resolveAll s as
    return (Regex.concat rs, s)
  | .alt as => do
    let (rs, s) ← Ast.resolveAll s as
    return (Regex.oneOf rs, s)
/-- The patterns one after another; each is under the flags behind the one before it. -/
def Ast.resolveAll (s : Flags) : List Ast → Except RegexError (List Regex × Flags)
  | [] => .ok ([], s)
  | a :: as => do
    let (r, s) ← a.resolve s
    let (rs, s) ← Ast.resolveAll s as
    return (r :: rs, s)
end

/-- The flags of a pattern that sets none. -/
def Flags.initial : Flags := ⟨false, false, false, true, false⟩

/-- Reads a pattern under the given flags. -/
def compileWith (s : Flags) (pattern : String) : Except RegexError Regex := do
  let a ← Ast.parse pattern
  let (r, _) ← a.resolve s
  if maxWeight < r.weight then throw .tooLarge
  return r

/-- Switches on the flag with this letter: `i`, `m` or `s`. -/
def Flags.switch? (s : Flags) (c : Char) : Option Flags :=
  if c = 'i' then some { s with ignoreCase := true }
  else if c = 'm' then some { s with multiLine := true }
  else if c = 's' then some { s with dotAll := true }
  else none

/-- Switches on the flags with these letters, or returns the first letter that is none. -/
def Flags.ofLetters (s : Flags) : List Char → Except Char Flags
  | [] => .ok s
  | c :: cs =>
    match s.switch? c with
    | some s => s.ofLetters cs
    | none => .error c

/-- Reads a pattern with flags as letters. -/
def compile (pattern flags : String) : Except Failure Regex :=
  match Flags.initial.ofLetters flags.toList with
  | .error c => .error (.regexCompile pattern ("unknown flag '" ++ c.toString ++ "'"))
  | .ok s => (compileWith s pattern).mapError fun e => .regexCompile pattern e.message

end ChatPlan.Regex
