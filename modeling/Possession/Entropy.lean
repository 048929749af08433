import Possession.Digest

/-!
# Entropy

A source of octets that nobody can foresee without its seed: the hash values of the seed with a
counter behind it. A source is a value; drawing from it answers the source to draw from next.
-/

namespace Possession

/-- A seed, and how many blocks have been drawn from it. -/
structure Entropy where
  seed : Bytes
  drawn : Nat

namespace Entropy

def ofSeed (seed : Bytes) : Entropy := ⟨seed, 0⟩

def block (source : Entropy) (index : Nat) : Bytes :=
  Digest.sha256.hash (source.seed ++ Bytes.ofNatPadded 8 index)

/-- Draws `count` octets. -/
def bytes (source : Entropy) (count : Nat) : Bytes × Entropy :=
  let blocks := (count + 31) / 32
  let drawn := (List.range blocks).flatMap fun index => source.block (source.drawn + index)
  (drawn.take count, { source with drawn := source.drawn + blocks })

/-- Draws a number under `2 ^ bits`. -/
def bits (source : Entropy) (bits : Nat) : Nat × Entropy :=
  let (drawn, next) := source.bytes ((bits + 7) / 8)
  (Bytes.toNat drawn % Nat.pow 2 bits, next)

/-- A source for one purpose, named by a label, apart from all sources with other labels. -/
def fork (source : Entropy) (label : Bytes) : Entropy × Entropy :=
  let (seed, next) := source.bytes 32
  (ofSeed (seed ++ label), next)

end Entropy

end Possession
