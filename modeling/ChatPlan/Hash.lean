/-
Message digests: SHA-256 for checksums, and SHA-1 for the identifiers that name a text within a name
space (version 5 of universally unique identifiers). Both pad a text to blocks of sixteen words of
32 bits and mix in one block after the other; all words are written with their high byte first.
-/
namespace ChatPlan.Hash

/-! ## Words and blocks -/

abbrev Word := UInt32

/-- The word turned to the left. -/
def rotateLeft (w : Word) (n : Word) : Word := (w <<< n) ||| (w >>> (32 - n))

/-- The word turned to the right. -/
def rotateRight (w : Word) (n : Word) : Word := (w >>> n) ||| (w <<< (32 - n))

/-- The bytes of a text. -/
def bytesOfText (text : String) : List UInt8 := text.toUTF8.data.toList

/-- The bytes of a number, as many as wanted. -/
def bytesOfNat : Nat → Nat → List UInt8
  | 0, _ => []
  | k + 1, n => bytesOfNat k (n / 256) ++ [n.toUInt8]

/-- The bytes of a word. -/
def bytesOfWord (w : Word) : List UInt8 := bytesOfNat 4 w.toNat

/-- The words that bytes write. -/
def wordsOfBytes : List UInt8 → List Word
  | a :: b :: c :: d :: r =>
    ((a.toUInt32 <<< 24) ||| (b.toUInt32 <<< 16) ||| (c.toUInt32 <<< 8) ||| d.toUInt32) ::
      wordsOfBytes r
  | _ => []

/-- The message with a mark and its length in bits behind it, up to whole blocks of 64 bytes. -/
def padded (message : List UInt8) : List UInt8 :=
  message ++ 0x80 :: (List.replicate ((119 - message.length % 64) % 64) 0 ++
    bytesOfNat 8 (8 * message.length))

/-- Cuts words into blocks of sixteen. -/
def blocks (ws : List Word) : List (List Word) :=
  match ws with
  | [] => []
  | w :: ws => (w :: ws.take 15) :: blocks (ws.drop 15)
termination_by ws.length
decreasing_by simp only [List.length_drop, List.length_cons]; omega

/-- The blocks of a padded message. -/
def messageBlocks (message : List UInt8) : List (List Word) :=
  blocks (wordsOfBytes (padded message))

/-- Appends words to a schedule that is kept in reverse; each follows from those before it. -/
def extend (next : List Word → Word) : Nat → List Word → List Word
  | 0, ws => ws
  | n + 1, ws => extend next n (next ws :: ws)

/-- Bytes in hexadecimal digits of lower case. -/
def hex (bytes : List UInt8) : String :=
  String.ofList (bytes.flatMap fun b =>
    [Nat.digitChar (b.toNat / 16), Nat.digitChar (b.toNat % 16)])

end ChatPlan.Hash

namespace ChatPlan.Hash.Sha1

/-! ## SHA-1 -/

/-- The five words that a digest consists of. -/
structure State where
  a : Word
  b : Word
  c : Word
  d : Word
  e : Word

def initial : State := ⟨0x67452301, 0xefcdab89, 0x98badcfe, 0x10325476, 0xc3d2e1f0⟩

/-- The word of the schedule after these, which are in reverse. -/
def nextWord (ws : List Word) : Word :=
  rotateLeft (ws.getD 2 0 ^^^ ws.getD 7 0 ^^^ ws.getD 13 0 ^^^ ws.getD 15 0) 1

/-- The schedule of a block. -/
def schedule (block : List Word) : List Word := (extend nextWord 64 block.reverse).reverse

/-- The function and the constant of a round. -/
def mix (s : State) (index : Nat) : Word × Word :=
  if index < 20 then ((s.b &&& s.c) ||| (~~~s.b &&& s.d), 0x5a827999)
  else if index < 40 then (s.b ^^^ s.c ^^^ s.d, 0x6ed9eba1)
  else if index < 60 then ((s.b &&& s.c) ||| (s.b &&& s.d) ||| (s.c &&& s.d), 0x8f1bbcdc)
  else (s.b ^^^ s.c ^^^ s.d, 0xca62c1d6)

/-- One round with its word of the schedule. -/
def round (s : State) (w : Word) (index : Nat) : State :=
  let (f, k) := mix s index
  ⟨rotateLeft s.a 5 + f + s.e + k + w, s.a, rotateLeft s.b 30, s.c, s.d⟩

/-- The state after one more block. -/
def compress (s : State) (block : List Word) : State :=
  let t := (schedule block).zipIdx.foldl (fun t wi => round t wi.1 wi.2) s
  ⟨s.a + t.a, s.b + t.b, s.c + t.c, s.d + t.d, s.e + t.e⟩

/-- The digest of a message. -/
def digest (message : List UInt8) : List UInt8 :=
  let s := (messageBlocks message).foldl compress initial
  [s.a, s.b, s.c, s.d, s.e].flatMap bytesOfWord

/-- The name space of object identifiers. -/
def objectNamespace : List UInt8 := [
  0x6b, 0xa7, 0xb8, 0x12, 0x9d, 0xad, 0x11, 0xd1, 0x80, 0xb4, 0x00, 0xc0, 0x4f, 0xd4, 0x30, 0xc8]

/-- Sixteen bytes with the marks of version 5. -/
def marked (bytes : List UInt8) : List UInt8 :=
  bytes.mapIdx fun i b =>
    if i = 6 then (b &&& 0x0f) ||| 0x50 else if i = 8 then (b &&& 0x3f) ||| 0x80 else b

/-- Sixteen bytes in five groups. -/
def grouped (bytes : List UInt8) : String :=
  let group (start size : Nat) := hex ((bytes.drop start).take size)
  "-".intercalate [group 0 4, group 4 2, group 6 2, group 8 2, group 10 6]

/-- The identifier of a name among object identifiers. -/
def identifier (name : String) : String :=
  grouped (marked ((digest (objectNamespace ++ bytesOfText name)).take 16))

end ChatPlan.Hash.Sha1

namespace ChatPlan.Hash.Sha256

/-! ## SHA-256 -/

/-- The first bits of the cube roots of the first primes. -/
def constants : List Word := [
  0x428a2f98, 0x71374491, 0xb5c0fbcf, 0xe9b5dba5, 0x3956c25b, 0x59f111f1, 0x923f82a4, 0xab1c5ed5,
  0xd807aa98, 0x12835b01, 0x243185be, 0x550c7dc3, 0x72be5d74, 0x80deb1fe, 0x9bdc06a7, 0xc19bf174,
  0xe49b69c1, 0xefbe4786, 0x0fc19dc6, 0x240ca1cc, 0x2de92c6f, 0x4a7484aa, 0x5cb0a9dc, 0x76f988da,
  0x983e5152, 0xa831c66d, 0xb00327c8, 0xbf597fc7, 0xc6e00bf3, 0xd5a79147, 0x06ca6351, 0x14292967,
  0x27b70a85, 0x2e1b2138, 0x4d2c6dfc, 0x53380d13, 0x650a7354, 0x766a0abb, 0x81c2c92e, 0x92722c85,
  0xa2bfe8a1, 0xa81a664b, 0xc24b8b70, 0xc76c51a3, 0xd192e819, 0xd6990624, 0xf40e3585, 0x106aa070,
  0x19a4c116, 0x1e376c08, 0x2748774c, 0x34b0bcb5, 0x391c0cb3, 0x4ed8aa4a, 0x5b9cca4f, 0x682e6ff3,
  0x748f82ee, 0x78a5636f, 0x84c87814, 0x8cc70208, 0x90befffa, 0xa4506ceb, 0xbef9a3f7, 0xc67178f2]

/-- The eight words that a digest consists of. -/
structure State where
  a : Word
  b : Word
  c : Word
  d : Word
  e : Word
  f : Word
  g : Word
  h : Word

/-- The first bits of the square roots of the first primes. -/
def initial : State :=
  ⟨0x6a09e667, 0xbb67ae85, 0x3c6ef372, 0xa54ff53a, 0x510e527f, 0x9b05688c,
    0x1f83d9ab, 0x5be0cd19⟩

/-- The word of the schedule after these, which are in reverse. -/
def nextWord (ws : List Word) : Word :=
  let x := ws.getD 14 0
  let y := ws.getD 1 0
  let s0 := rotateRight x 7 ^^^ rotateRight x 18 ^^^ (x >>> 3)
  let s1 := rotateRight y 17 ^^^ rotateRight y 19 ^^^ (y >>> 10)
  ws.getD 15 0 + s0 + ws.getD 6 0 + s1

/-- The schedule of a block. -/
def schedule (block : List Word) : List Word := (extend nextWord 48 block.reverse).reverse

/-- One round with its constant and its word of the schedule. -/
def round (s : State) (k w : Word) : State :=
  let s1 := rotateRight s.e 6 ^^^ rotateRight s.e 11 ^^^ rotateRight s.e 25
  let choice := (s.e &&& s.f) ^^^ (~~~s.e &&& s.g)
  let t1 := s.h + s1 + choice + k + w
  let s0 := rotateRight s.a 2 ^^^ rotateRight s.a 13 ^^^ rotateRight s.a 22
  let majority := (s.a &&& s.b) ^^^ (s.a &&& s.c) ^^^ (s.b &&& s.c)
  ⟨t1 + (s0 + majority), s.a, s.b, s.c, s.d + t1, s.e, s.f, s.g⟩

/-- The state after one more block. -/
def compress (s : State) (block : List Word) : State :=
  let t := (constants.zip (schedule block)).foldl (fun t kw => round t kw.1 kw.2) s
  ⟨s.a + t.a, s.b + t.b, s.c + t.c, s.d + t.d, s.e + t.e, s.f + t.f, s.g + t.g, s.h + t.h⟩

/-- The digest of a message. -/
def digest (message : List UInt8) : List UInt8 :=
  let s := (messageBlocks message).foldl compress initial
  [s.a, s.b, s.c, s.d, s.e, s.f, s.g, s.h].flatMap bytesOfWord

end ChatPlan.Hash.Sha256
