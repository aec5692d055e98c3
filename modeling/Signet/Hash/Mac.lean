import Signet.Hash.Sha2

/-! Keyed digests: a message hashed under a key, then hashed once more under the same key. -/

namespace Signet.Hash

/-- A hash function and the bytes of its block. -/
structure Function where
  blockWidth : Nat
  digest : Bytes → Bytes

namespace Function

/-- The key filled up with zeros to a block; a longer key is hashed first. -/
def blockKey (hash : Function) (key : Bytes) : Bytes :=
  let short := if hash.blockWidth < key.length then hash.digest key else key
  short ++ List.replicate (hash.blockWidth - short.length) 0

/-- The tag of a message under a key. -/
def mac (hash : Function) (key message : Bytes) : Bytes :=
  let block := hash.blockKey key
  hash.digest (block.map (· ^^^ 0x5c) ++ hash.digest (block.map (· ^^^ 0x36) ++ message))

end Function
end Signet.Hash
