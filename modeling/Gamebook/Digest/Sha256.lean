import Gamebook.Decimal.Numeral

/-!
# SHA-256 digests

The digest that is told of a written document.  The message is padded to whole blocks of sixty-four
bytes, by a one bit, zeros, and its length in bits.  Every block is spread over sixty-four words, and
the words stir eight words of state that started from fixed values and are added up from block to
block.  The digest is the final state, written in hexadecimal digits.

All arithmetic is on words of thirty-two bits and wraps around; the length takes sixty-four bits.
-/

namespace Gamebook.Digest

/-! ### Constants -/

/-- The words that the rounds add: the fractions of the cube roots of the first sixty-four primes. -/
def roundConstants : List UInt32 :=
  [0x428A2F98, 0x71374491, 0xB5C0FBCF, 0xE9B5DBA5, 0x3956C25B, 0x59F111F1,
   0x923F82A4, 0xAB1C5ED5, 0xD807AA98, 0x12835B01, 0x243185BE, 0x550C7DC3,
   0x72BE5D74, 0x80DEB1FE, 0x9BDC06A7, 0xC19BF174, 0xE49B69C1, 0xEFBE4786,
   0x0FC19DC6, 0x240CA1CC, 0x2DE92C6F, 0x4A7484AA, 0x5CB0A9DC, 0x76F988DA,
   0x983E5152, 0xA831C66D, 0xB00327C8, 0xBF597FC7, 0xC6E00BF3, 0xD5A79147,
   0x06CA6351, 0x14292967, 0x27B70A85, 0x2E1B2138, 0x4D2C6DFC, 0x53380D13,
   0x650A7354, 0x766A0ABB, 0x81C2C92E, 0x92722C85, 0xA2BFE8A1, 0xA81A664B,
   0xC24B8B70, 0xC76C51A3, 0xD192E819, 0xD6990624, 0xF40E3585, 0x106AA070,
   0x19A4C116, 0x1E376C08, 0x2748774C, 0x34B0BCB5, 0x391C0CB3, 0x4ED8AA4A,
   0x5B9CCA4F, 0x682E6FF3, 0x748F82EE, 0x78A5636F, 0x84C87814, 0x8CC70208,
   0x90BEFFFA, 0xA4506CEB, 0xBEF9A3F7, 0xC67178F2]

/-! ### Padding -/

/-- The big-endian bytes of a number, as many as asked for. -/
def bigEndian : (count n : Nat) → List UInt8
  | 0, _ => []
  | count + 1, n => bigEndian count (n / 256) ++ [UInt8.ofNat (n % 256)]

@[simp] theorem length_bigEndian (count n : Nat) : (bigEndian count n).length = count := by
  induction count generalizing n with
  | zero => rfl
  | succ count ih => rw [bigEndian, List.length_append, ih, List.length_singleton]

/-- The number of zero bytes that fill up a message of that many bytes, its mark and its length. -/
def zeroCount (size : Nat) : Nat := (119 - size % 64) % 64

/-- A message filled up to whole blocks. -/
def padded (message : List UInt8) : List UInt8 :=
  message ++ 0x80 :: List.replicate (zeroCount message.length) 0
    ++ bigEndian 8 (8 * message.length)

/-- **A padded message consists of whole blocks.** -/
theorem length_padded_mod (message : List UInt8) : (padded message).length % 64 = 0 := by
  have zeros : (List.replicate (zeroCount message.length) (0 : UInt8)).length
      = (119 - message.length % 64) % 64 := List.length_replicate
  rw [padded, List.length_append, List.length_append, List.length_cons, zeros, length_bigEndian]
  omega

/-! ### Words -/

/-- The words of a list of bytes, four bytes each with the most significant first. -/
def wordsOf : List UInt8 → List UInt32
  | a :: b :: c :: d :: rest =>
    (a.toUInt32 <<< 24 ||| b.toUInt32 <<< 16 ||| c.toUInt32 <<< 8 ||| d.toUInt32) :: wordsOf rest
  | _ => []

/-- The word with its bits moved to the right, those that fall out coming back on the left. -/
def rotateRight (w n : UInt32) : UInt32 := w >>> n ||| w <<< (32 - n)

/-- What the word two places back adds to a new word of the schedule. -/
def stirLate (w : UInt32) : UInt32 := rotateRight w 17 ^^^ rotateRight w 19 ^^^ w >>> 10

/-- What the word fifteen places back adds to a new word of the schedule. -/
def stirEarly (w : UInt32) : UInt32 := rotateRight w 7 ^^^ rotateRight w 18 ^^^ w >>> 3

/-- The next `count` words of a schedule of which `window` are the sixteen words to come. -/
def scheduleFrom : (count : Nat) → (window : List UInt32) → List UInt32
  | 0, _ => []
  | count + 1, window =>
    let next := stirLate (window.getD 14 0) + window.getD 9 0 + stirEarly (window.getD 1 0)
      + window.getD 0 0
    window.getD 0 0 :: scheduleFrom count (window.drop 1 ++ [next])

/-- The sixty-four words that a block is spread over. -/
def schedule (block : List UInt8) : List UInt32 := scheduleFrom 64 (wordsOf block)

@[simp] theorem length_scheduleFrom (count : Nat) (window : List UInt32) :
    (scheduleFrom count window).length = count := by
  induction count generalizing window with
  | zero => rfl
  | succ count ih => rw [scheduleFrom, List.length_cons, ih]

/-! ### State -/

/-- Eight words that are stirred. -/
structure State where
  a : UInt32
  b : UInt32
  c : UInt32
  d : UInt32
  e : UInt32
  f : UInt32
  g : UInt32
  h : UInt32
  deriving DecidableEq, Repr

namespace State

/-- The state before the first block: the fractions of the square roots of the first eight primes. -/
def initial : State :=
  ⟨0x6A09E667, 0xBB67AE85, 0x3C6EF372, 0xA54FF53A,
   0x510E527F, 0x9B05688C, 0x1F83D9AB, 0x5BE0CD19⟩

/-- The state after a round with a constant and a word of the schedule. -/
def round (s : State) (constant word : UInt32) : State :=
  let spread := rotateRight s.e 6 ^^^ rotateRight s.e 11 ^^^ rotateRight s.e 25
  let choice := (s.e &&& s.f) ^^^ (~~~s.e &&& s.g)
  let first := s.h + spread + choice + constant + word
  let turn := rotateRight s.a 2 ^^^ rotateRight s.a 13 ^^^ rotateRight s.a 22
  let majority := (s.a &&& s.b) ^^^ (s.a &&& s.c) ^^^ (s.b &&& s.c)
  ⟨first + (turn + majority), s.a, s.b, s.c, s.d + first, s.e, s.f, s.g⟩

/-- The sum of two states, word by word. -/
def add (s t : State) : State :=
  ⟨s.a + t.a, s.b + t.b, s.c + t.c, s.d + t.d, s.e + t.e, s.f + t.f, s.g + t.g, s.h + t.h⟩

/-- The state after a block. -/
def absorb (s : State) (block : List UInt8) : State :=
  s.add ((roundConstants.zip (schedule block)).foldl (fun t step => t.round step.1 step.2) s)

/-- The words of a state in order. -/
def words (s : State) : List UInt32 := [s.a, s.b, s.c, s.d, s.e, s.f, s.g, s.h]

end State

/-! ### Digests -/

/-- The state after all blocks of a list of bytes. -/
def absorbAll (s : State) (bytes : List UInt8) : State :=
  if bytes = [] then s
  else absorbAll (s.absorb (bytes.take 64)) (bytes.drop 64)
termination_by bytes.length
decreasing_by
  next some =>
  have positive : 0 < bytes.length := List.length_pos_iff.2 some
  rw [List.length_drop]
  omega

/-- The last `count` hexadecimal digits of a number. -/
def hexDigits : (count n : Nat) → List Char
  | 0, _ => []
  | count + 1, n => hexDigits count (n / 16) ++ [Numeral.hexDigit (n % 16)]

/-- The digest of a message in hexadecimal digits. -/
def sha256 (message : List UInt8) : String :=
  String.ofList ((absorbAll .initial (padded message)).words.flatMap fun w => hexDigits 8 w.toNat)

/-- A hexadecimal digit, letters being lower-case. -/
def isLowerHex (c : Char) : Bool := ('0' ≤ c && c ≤ '9') || ('a' ≤ c && c ≤ 'f')

@[simp] theorem length_hexDigits (count n : Nat) : (hexDigits count n).length = count := by
  induction count generalizing n with
  | zero => rfl
  | succ count ih => rw [hexDigits, List.length_append, ih, List.length_singleton]

theorem isLowerHex_of_mem_hexDigits {c : Char} :
    ∀ {count n : Nat}, c ∈ hexDigits count n → isLowerHex c = true
  | 0, _, member => absurd member List.not_mem_nil
  | count + 1, n, member => by
    rw [hexDigits, List.mem_append, List.mem_singleton] at member
    rcases member with member | rfl
    · exact isLowerHex_of_mem_hexDigits member
    · have digits : ∀ d < 16, isLowerHex (Numeral.hexDigit d) = true := by decide
      exact digits _ (Nat.mod_lt n (by decide))

/-- **A digest is a text of sixty-four digits.** -/
theorem length_sha256 (message : List UInt8) : (sha256 message).toList.length = 64 := by
  simp [sha256, State.words]

theorem isLowerHex_of_mem_sha256 {message : List UInt8} {c : Char}
    (member : c ∈ (sha256 message).toList) : isLowerHex c = true := by
  rw [sha256, String.toList_ofList, List.mem_flatMap] at member
  obtain ⟨word, -, member⟩ := member
  exact isLowerHex_of_mem_hexDigits member

-- a message of two blocks
example : sha256 "abcdbcdecdefdefgefghfghighijhijkijkljklmklmnlmnomnopnopq".toUTF8.toList =
    "248d6a61d20638b8e5c026930c3e6039a33ce45964ff2167f6ecedd419db06c1" := by
  decide +kernel

end Gamebook.Digest
