import ChatPlan.Classifier.Settings

/-
What a classifier depends on outside of itself: how hooks answer, what the clock shows, and how long
it takes to match a pattern. All of this is given as data, so that a statement about every outside
is a statement about all such data. A dialog is a computation that talks to the outside; it keeps
the session, which records what has been asked so far, also when it stops early.

A hook that keeps answers is asked only if there is no fresh one for its address; an answer is kept
when the hook was reached, had status 200 and sent a body that can be read.
-/
namespace ChatPlan

/-! ## The outside -/

/-- What is sent to a hook. -/
structure HookRequest where
  url : String
  method : String
  headers : Members String
  body : Json
  timeoutMillis : Nat

/-- What a hook sends back. -/
structure HookReply where
  status : Nat
  body : String
deriving DecidableEq

/-- How a request ends: with a reply or a failure, after some milliseconds. -/
structure Arrival where
  result : Except Failure HookReply
  delay : Nat

/-- How the work on a match ends: with a result after some milliseconds, or without one. -/
inductive Work where
  | takes (millis : Nat)
  | breaks (reason : String)
deriving DecidableEq

/-- The outside. A request is answered after those that were sent before it, the first one first.
The clock counts milliseconds, and readings and matches are numbered in order. -/
structure Outside where
  answer : List HookRequest → HookRequest → Arrival
  clock : Nat → Nat
  work : Nat → Work

/-- The judgement of a hook, with an output that it may ask for. -/
structure HookAnswer where
  valid : Bool
  message : Option String
  output : Option String
deriving DecidableEq

/-- An answer that is kept for some seconds from a moment on. -/
structure StoredAnswer where
  answer : HookAnswer
  storedAt : Nat
  seconds : Nat
deriving DecidableEq

/-- The answers that are kept, by the address of their hook. -/
abbrev HookCache := Members StoredAnswer

/-- What has been asked so far, the answers that are kept, and the milliseconds that were spent on
waiting for the text at hand. -/
structure Session where
  cache : HookCache := []
  sent : List HookRequest := []
  readings : Nat := 0
  works : Nat := 0
  spent : Nat := 0

/-- Why a dialog stops early. -/
inductive Stop where
  | failed (failure : Failure)
  | outOfTime
deriving DecidableEq

/-- A computation that talks to the outside. -/
abbrev Dialog (α : Type) := ExceptT Stop (StateM Session) α

namespace Dialog

/-- A result that may be a failure. -/
def ofExcept {α : Type} : Except Failure α → Dialog α
  | .ok a => pure a
  | .error f => throw (.failed f)

/-- Reads the clock. -/
def now (o : Outside) : Dialog Nat := do
  let s ← get
  set { s with readings := s.readings + 1 }
  return o.clock s.readings

/-- Begins the next match. -/
def nextWork (o : Outside) : Dialog Work := do
  let s ← get
  set { s with works := s.works + 1 }
  return o.work s.works

/-- Waits, and stops when that takes longer than the patience for the text at hand. -/
def wait (patience : Option Nat) (millis : Nat) : Dialog Unit := do
  let s ← get
  let spent := s.spent + millis
  set { s with spent }
  if patience.any (· < spent) then throw .outOfTime

/-- Sends a request. -/
def send (o : Outside) (r : HookRequest) : Dialog Arrival := do
  let s ← get
  set { s with sent := s.sent ++ [r] }
  return o.answer s.sent r

end Dialog

/-- The value, unless the work on the pattern breaks or takes longer than the limit. -/
def supervised {α : Type} (pattern : String) (limit : Nat) (w : Work) (value : α) :
    Except Failure α :=
  match w with
  | .takes millis => if limit < millis then .error (.regexTimeout pattern limit) else .ok value
  | .breaks reason => .error (.other s!"regex worker for '{pattern}' failed: {reason}")

/-- The time that supervised work takes. -/
def Work.millisWithin (limit : Nat) : Work → Nat
  | .takes millis => min millis limit
  | .breaks _ => 0

/-! ## Calls of hooks -/

open Json

namespace HookAnswer

def ofTree? (t : Tree) : Option HookAnswer :=
  match t.slots [["valid"], ["message"], ["route"]] with
  | some [valid, message, output] => do
    return {
      valid := ← valid.required Tree.asBool?
      message := ← message.optional Tree.asString?
      output := ← output.optional Tree.asString? }
  | _ => none

def parse? (body : String) : Option HookAnswer := (Tree.parse? body).bind ofTree?

end HookAnswer

/-- The first characters of a long text. -/
def Text.shortened (size : Nat) (s : String) : String :=
  if s.length ≤ size then s else String.ofList (s.toList.take size) ++ "..."

/-- The answer that a reply holds. -/
def HookReply.answer (url : String) (r : HookReply) : Except Failure HookAnswer :=
  if r.status ≠ 200 then .error (.hook url r.status (Text.shortened 200 r.body))
  else
    match HookAnswer.parse? r.body with
    | some a => .ok a
    | none => .error (.hook url r.status "malformed hook response: no answer")

/-- The answer may still be used at this moment. -/
def StoredAnswer.isFresh (now : Nat) (a : StoredAnswer) : Bool :=
  now - a.storedAt < 1000 * a.seconds

/-- Forgets all answers that are kept. -/
def Session.clear (s : Session) : Session := { s with cache := [] }

namespace Hook

/-- The time in which an answer has to come. -/
def timeout (defaultMillis : Nat) (h : Hook) : Nat := h.timeoutMillis.getD defaultMillis

/-- What the hook is asked about these variables. -/
def request (defaultMillis : Nat) (h : Hook) (vars : Members Json) : HookRequest where
  url := h.url
  method := h.method
  headers := h.headers
  body := .obj vars
  timeoutMillis := h.timeout defaultMillis

/-- A fresh answer that is kept for the address, if the hook keeps answers. -/
def kept? (o : Outside) (h : Hook) : Dialog (Option HookAnswer) := do
  if h.cacheSeconds.isNone then return none
  let now ← Dialog.now o
  let s ← get
  return ((Members.get? s.cache h.url).filter (·.isFresh now)).map (·.answer)

/-- Keeps an answer, if the hook keeps answers. -/
def keep (o : Outside) (h : Hook) (a : HookAnswer) : Dialog Unit := do
  match h.cacheSeconds with
  | none => return
  | some seconds =>
    let now ← Dialog.now o
    modify fun s => { s with cache := Members.insert h.url ⟨a, now, seconds⟩ s.cache }

/-- Asks the hook. An answer that comes after its time is a failure. -/
def ask (o : Outside) (patience : Option Nat) (defaultMillis : Nat) (h : Hook)
    (vars : Members Json) : Dialog HookAnswer := do
  let timeout := h.timeout defaultMillis
  let arrival ← Dialog.send o (h.request defaultMillis vars)
  Dialog.wait patience (min arrival.delay timeout)
  if timeout < arrival.delay then throw (.failed (.hookTimeout h.url timeout))
  let reply ← Dialog.ofExcept arrival.result
  Dialog.ofExcept (reply.answer h.url)

/-- The answer of the hook about these variables: a fresh one that is kept, or a new one. -/
def call (o : Outside) (patience : Option Nat) (defaultMillis : Nat) (h : Hook)
    (vars : Members Json) : Dialog HookAnswer := do
  match ← h.kept? o with
  | some a => return a
  | none =>
    let a ← h.ask o patience defaultMillis vars
    h.keep o a
    return a

end Hook

end ChatPlan
