import Possession.Bytes

/-!
# Padding of messages

A message is followed by a one bit, as many zero bits as bring it to whole blocks, and its length
in bits.
-/

namespace Possession
namespace Digest

/-- The consecutive pieces of `size` octets; the last one may be shorter. Fuel counts pieces. -/
def chunksFrom (size : Nat) : (fuel : Nat) → Bytes → List Bytes
  | 0, _ => []
  | _ + 1, [] => []
  | fuel + 1, bytes => bytes.take size :: chunksFrom size fuel (bytes.drop size)

/-- The consecutive pieces of `size` octets; the last one may be shorter. -/
def chunks (size : Nat) (bytes : Bytes) : List Bytes :=
  chunksFrom size (bytes.length / size + 1) bytes

/-- The message padded to whole blocks; `lengthSize` octets hold its length in bits. -/
def pad (blockSize lengthSize : Nat) (message : Bytes) : Bytes :=
  let used := (message.length + 1 + lengthSize) % blockSize
  let zeros := (blockSize - used) % blockSize
  message ++ 128 :: List.replicate zeros 0 ++ Bytes.ofNatPadded lengthSize (8 * message.length)

end Digest
end Possession
