/- Padding of messages and their division into blocks and words, common to the SHA digests. -/
import CertAudit.Bytes
namespace CertAudit.Digest

/-- Cuts a list into pieces of a length; the last may be shorter. -/
def pieces {α : Type} (size : Nat) (xs : List α) : List (List α) :=
  if _h : size = 0 ∨ xs = [] then []
  else xs.take size :: pieces size (xs.drop size)
termination_by xs.length
decreasing_by
  simp only [not_or] at _h
  have : 0 < xs.length := List.length_pos_iff.mpr _h.2
  simp only [List.length_drop]
  omega

/-- A message with a one bit, zeros, and its length in bits in the last `tail` bytes of a block
of `size` bytes. -/
def padded (size tail : Nat) (message : Bytes) : Bytes :=
  let used := (message.length + 1 + tail) % size
  let zeros := if used = 0 then 0 else size - used
  message ++ 0x80 :: (List.replicate zeros 0 ++ Bytes.ofNat tail (message.length * 8))

/-- The blocks of a padded message. -/
def blocks (size tail : Nat) (message : Bytes) : List Bytes :=
  pieces size (padded size tail message)

/-- The big-endian words of a block. -/
def words (width : Nat) (block : Bytes) : List Nat := (pieces width block).map Bytes.toNat

end CertAudit.Digest
