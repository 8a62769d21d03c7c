import Reduct.Digest

namespace Reduct

/-- A stream is a seed and the number of draws so far. -/
structure RandomStream where
  seed : UInt64
  position : UInt64
  deriving DecidableEq, Repr

namespace RandomStream

def start (seed : UInt64) : RandomStream := ⟨seed, 0⟩

/-- A word is written as eight bytes, the lowest first. -/
def littleEndian (word : UInt64) : List UInt8 :=
  (List.range 8).map fun index => (word.toNat / Nat.pow 256 index).toUInt8

/-- Bytes are read with the lowest first. -/
def ofLittleEndian (bytes : List UInt8) : Nat :=
  bytes.foldr (fun byte value => byte.toNat + 256 * value) 0

/-- A draw digests seed and position and keeps fifty-three bits as a fraction of one. -/
def draw (stream : RandomStream) : Float :=
  let digest := Digest.sha256 (littleEndian stream.seed ++ littleEndian stream.position)
  Float.ofNat (ofLittleEndian (digest.take 8) / Nat.pow 2 11) / 9007199254740992.0

def next (stream : RandomStream) : Float × RandomStream :=
  (stream.draw, { stream with position := stream.position + 1 })

end RandomStream

end Reduct
