import Signet.Text.Utf8

/-! The hash functions with digests of 256, 384 and 512 bits. The three share one design over words
of 32 or 64 bits: a message is padded to whole blocks, and each block is mixed into eight words. -/

namespace Signet.Hash

variable {ω : Type}

/-- The eight words that blocks are mixed into. -/
structure State (ω : Type) where
  a : ω
  b : ω
  c : ω
  d : ω
  e : ω
  f : ω
  g : ω
  h : ω

/-- What the members of the family differ in, the start and the length of the digest apart. -/
structure Design (ω : Type) where
  /-- Bytes of a word. -/
  width : Nat
  constants : List ω
  upperA : ω → ω
  upperE : ω → ω
  lowerEarly : ω → ω
  lowerLate : ω → ω
  ofBytes : Bytes → ω
  toBytes : ω → Bytes

namespace Design

/-- Bytes of a block. -/
def blockWidth (design : Design ω) : Nat := 16 * design.width

/-- The message followed by a one bit, zeros and its length in bits, in whole blocks. -/
def padded (design : Design ω) (message : Bytes) : Bytes :=
  let counter := 2 * design.width
  let rest := (message.length + 1 + counter) % design.blockWidth
  let zeros := (design.blockWidth - rest) % design.blockWidth
  let bits := message.length * 8
  message ++ 0x80 :: List.replicate zeros 0 ++
    (List.range counter).map fun index => UInt8.ofNat (bits >>> (8 * (counter - 1 - index)))

/-- Cuts a byte string into pieces of this many bytes. -/
def pieces (size : Nat) : Nat → Bytes → List Bytes
  | 0, _ => []
  | _ + 1, [] => []
  | fuel + 1, bytes => bytes.take size :: pieces size fuel (bytes.drop size)

/-- The words of a byte string. -/
def words (design : Design ω) (bytes : Bytes) : List ω :=
  (pieces design.width bytes.length bytes).map design.ofBytes

variable [Add ω] [AndOp ω] [XorOp ω] [Complement ω]

/-- One round with its constant and its word of the message. -/
@[specialize] def round (design : Design ω) (state : State ω) (constant word : ω) : State ω :=
  let choice := (state.e &&& state.f) ^^^ (~~~state.e &&& state.g)
  let majority := (state.a &&& state.b) ^^^ (state.a &&& state.c) ^^^ (state.b &&& state.c)
  let first := state.h + design.upperE state.e + choice + constant + word
  let second := design.upperA state.a + majority
  ⟨first + second, state.a, state.b, state.c, state.d + first, state.e, state.f, state.g⟩

/-- The word that follows sixteen words of the message schedule. -/
@[specialize] def scheduled (design : Design ω) : List ω → List ω
  | first :: second :: rest =>
    match rest[7]?, rest[12]? with
    | some ninth, some last => [first + design.lowerEarly second + ninth + design.lowerLate last]
    | _, _ => []
  | _ => []

/-- The rounds of one block; the window holds the next sixteen words of the schedule. -/
@[specialize] def rounds (design : Design ω) : List ω → List ω → State ω → State ω
  | constant :: constants, word :: window, state =>
    rounds design constants (window ++ design.scheduled (word :: window))
      (design.round state constant word)
  | _, _, state => state

/-- Mixes one block into the words. -/
@[specialize] def compress (design : Design ω) (state : State ω) (block : Bytes) : State ω :=
  let mixed := design.rounds design.constants (design.words block) state
  ⟨state.a + mixed.a, state.b + mixed.b, state.c + mixed.c, state.d + mixed.d,
    state.e + mixed.e, state.f + mixed.f, state.g + mixed.g, state.h + mixed.h⟩

/-- The eight words one after the other. -/
def stateBytes (design : Design ω) (state : State ω) : Bytes :=
  [state.a, state.b, state.c, state.d, state.e, state.f, state.g, state.h].flatMap design.toBytes

/-- The first bytes of the words that the whole message is mixed into. -/
@[specialize] def digest (design : Design ω) (start : State ω) (size : Nat) (message : Bytes) :
    Bytes :=
  let padded := design.padded message
  let blocks := pieces design.blockWidth padded.length padded
  (design.stateBytes (blocks.foldl design.compress start)).take size

end Design

/-- The bits of a word of 32 bits moved round to the right. -/
def rotate32 (word amount : UInt32) : UInt32 := (word >>> amount) ||| (word <<< (32 - amount))

/-- The bits of a word of 64 bits moved round to the right. -/
def rotate64 (word amount : UInt64) : UInt64 := (word >>> amount) ||| (word <<< (64 - amount))

/-- The first 32 bits of the fractional parts of the cube roots of the first 64 primes. -/
def constants32 : List UInt32 := [
  0x428a2f98, 0x71374491, 0xb5c0fbcf, 0xe9b5dba5, 0x3956c25b, 0x59f111f1, 0x923f82a4,
  0xab1c5ed5, 0xd807aa98, 0x12835b01, 0x243185be, 0x550c7dc3, 0x72be5d74, 0x80deb1fe,
  0x9bdc06a7, 0xc19bf174, 0xe49b69c1, 0xefbe4786, 0x0fc19dc6, 0x240ca1cc, 0x2de92c6f,
  0x4a7484aa, 0x5cb0a9dc, 0x76f988da, 0x983e5152, 0xa831c66d, 0xb00327c8, 0xbf597fc7,
  0xc6e00bf3, 0xd5a79147, 0x06ca6351, 0x14292967, 0x27b70a85, 0x2e1b2138, 0x4d2c6dfc,
  0x53380d13, 0x650a7354, 0x766a0abb, 0x81c2c92e, 0x92722c85, 0xa2bfe8a1, 0xa81a664b,
  0xc24b8b70, 0xc76c51a3, 0xd192e819, 0xd6990624, 0xf40e3585, 0x106aa070, 0x19a4c116,
  0x1e376c08, 0x2748774c, 0x34b0bcb5, 0x391c0cb3, 0x4ed8aa4a, 0x5b9cca4f, 0x682e6ff3,
  0x748f82ee, 0x78a5636f, 0x84c87814, 0x8cc70208, 0x90befffa, 0xa4506ceb, 0xbef9a3f7,
  0xc67178f2]

/-- The first 64 bits of the fractional parts of the cube roots of the first 80 primes. -/
def constants64 : List UInt64 := [
  0x428a2f98d728ae22, 0x7137449123ef65cd, 0xb5c0fbcfec4d3b2f, 0xe9b5dba58189dbbc,
  0x3956c25bf348b538, 0x59f111f1b605d019, 0x923f82a4af194f9b, 0xab1c5ed5da6d8118,
  0xd807aa98a3030242, 0x12835b0145706fbe, 0x243185be4ee4b28c, 0x550c7dc3d5ffb4e2,
  0x72be5d74f27b896f, 0x80deb1fe3b1696b1, 0x9bdc06a725c71235, 0xc19bf174cf692694,
  0xe49b69c19ef14ad2, 0xefbe4786384f25e3, 0x0fc19dc68b8cd5b5, 0x240ca1cc77ac9c65,
  0x2de92c6f592b0275, 0x4a7484aa6ea6e483, 0x5cb0a9dcbd41fbd4, 0x76f988da831153b5,
  0x983e5152ee66dfab, 0xa831c66d2db43210, 0xb00327c898fb213f, 0xbf597fc7beef0ee4,
  0xc6e00bf33da88fc2, 0xd5a79147930aa725, 0x06ca6351e003826f, 0x142929670a0e6e70,
  0x27b70a8546d22ffc, 0x2e1b21385c26c926, 0x4d2c6dfc5ac42aed, 0x53380d139d95b3df,
  0x650a73548baf63de, 0x766a0abb3c77b2a8, 0x81c2c92e47edaee6, 0x92722c851482353b,
  0xa2bfe8a14cf10364, 0xa81a664bbc423001, 0xc24b8b70d0f89791, 0xc76c51a30654be30,
  0xd192e819d6ef5218, 0xd69906245565a910, 0xf40e35855771202a, 0x106aa07032bbd1b8,
  0x19a4c116b8d2d0c8, 0x1e376c085141ab53, 0x2748774cdf8eeb99, 0x34b0bcb5e19b48a8,
  0x391c0cb3c5c95a63, 0x4ed8aa4ae3418acb, 0x5b9cca4f7763e373, 0x682e6ff3d6b2b8a3,
  0x748f82ee5defb2fc, 0x78a5636f43172f60, 0x84c87814a1f0ab72, 0x8cc702081a6439ec,
  0x90befffa23631e28, 0xa4506cebde82bde9, 0xbef9a3f7b2c67915, 0xc67178f2e372532b,
  0xca273eceea26619c, 0xd186b8c721c0c207, 0xeada7dd6cde0eb1e, 0xf57d4f7fee6ed178,
  0x06f067aa72176fba, 0x0a637dc5a2c898a6, 0x113f9804bef90dae, 0x1b710b35131c471b,
  0x28db77f523047d84, 0x32caab7b40c72493, 0x3c9ebe0a15c9bebc, 0x431d67c49c100d4c,
  0x4cc5d4becb3e42b6, 0x597f299cfc657e2a, 0x5fcb6fab3ad6faec, 0x6c44198c4a475817]

/-- The design over words of 32 bits. -/
def design32 : Design UInt32 where
  width := 4
  constants := constants32
  upperA := fun word => rotate32 word 2 ^^^ rotate32 word 13 ^^^ rotate32 word 22
  upperE := fun word => rotate32 word 6 ^^^ rotate32 word 11 ^^^ rotate32 word 25
  lowerEarly := fun word => rotate32 word 7 ^^^ rotate32 word 18 ^^^ (word >>> 3)
  lowerLate := fun word => rotate32 word 17 ^^^ rotate32 word 19 ^^^ (word >>> 10)
  ofBytes := fun bytes => bytes.foldl (fun word byte => (word <<< 8) ||| byte.toUInt32) 0
  toBytes := fun word =>
    [(word >>> 24).toUInt8, (word >>> 16).toUInt8, (word >>> 8).toUInt8, word.toUInt8]

/-- The design over words of 64 bits. -/
def design64 : Design UInt64 where
  width := 8
  constants := constants64
  upperA := fun word => rotate64 word 28 ^^^ rotate64 word 34 ^^^ rotate64 word 39
  upperE := fun word => rotate64 word 14 ^^^ rotate64 word 18 ^^^ rotate64 word 41
  lowerEarly := fun word => rotate64 word 1 ^^^ rotate64 word 8 ^^^ (word >>> 7)
  lowerLate := fun word => rotate64 word 19 ^^^ rotate64 word 61 ^^^ (word >>> 6)
  ofBytes := fun bytes => bytes.foldl (fun word byte => (word <<< 8) ||| byte.toUInt64) 0
  toBytes := fun word =>
    [(word >>> 56).toUInt8, (word >>> 48).toUInt8, (word >>> 40).toUInt8, (word >>> 32).toUInt8,
      (word >>> 24).toUInt8, (word >>> 16).toUInt8, (word >>> 8).toUInt8, word.toUInt8]

/-- The first bits of the fractional parts of the square roots of the first eight primes. -/
def start256 : State UInt32 :=
  ⟨0x6a09e667, 0xbb67ae85, 0x3c6ef372, 0xa54ff53a,
    0x510e527f, 0x9b05688c, 0x1f83d9ab, 0x5be0cd19⟩

/-- The first bits of the fractional parts of the square roots of the ninth to sixteenth primes. -/
def start384 : State UInt64 :=
  ⟨0xcbbb9d5dc1059ed8, 0x629a292a367cd507, 0x9159015a3070dd17, 0x152fecd8f70e5939,
    0x67332667ffc00b31, 0x8eb44a8768581511, 0xdb0c2e0d64f98fa7, 0x47b5481dbefa4fa4⟩

/-- The first bits of the fractional parts of the square roots of the first eight primes. -/
def start512 : State UInt64 :=
  ⟨0x6a09e667f3bcc908, 0xbb67ae8584caa73b, 0x3c6ef372fe94f82b, 0xa54ff53a5f1d36f1,
    0x510e527fade682d1, 0x9b05688c2b3e6c1f, 0x1f83d9abfb41bd6b, 0x5be0cd19137e2179⟩

/-- The digest of 32 bytes. -/
def sha256 (message : Bytes) : Bytes := design32.digest start256 32 message

/-- The digest of 48 bytes. -/
def sha384 (message : Bytes) : Bytes := design64.digest start384 48 message

/-- The digest of 64 bytes. -/
def sha512 (message : Bytes) : Bytes := design64.digest start512 64 message

@[simp] theorem length_sha256 (message : Bytes) : (sha256 message).length = 32 := by
  simp [sha256, Design.digest, Design.stateBytes, design32]

@[simp] theorem length_sha384 (message : Bytes) : (sha384 message).length = 48 := by
  simp [sha384, Design.digest, Design.stateBytes, design64]

@[simp] theorem length_sha512 (message : Bytes) : (sha512 message).length = 64 := by
  simp [sha512, Design.digest, Design.stateBytes, design64]

end Signet.Hash
