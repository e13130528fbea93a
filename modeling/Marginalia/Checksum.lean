import Marginalia.Text.Utf8

/-!
# Checksums

The cyclic redundancy check of 32 bits with the reversed polynomial 0xEDB88320: a remainder that
every bit of the input shifts by one place.
-/

namespace Marginalia

namespace Checksum

/-- Shift a remainder by one place. -/
def shift (remainder : UInt32) : UInt32 :=
  if remainder &&& 1 = 1 then (remainder >>> 1) ^^^ 0xEDB88320 else remainder >>> 1

/-- Shift a remainder by several places. -/
def shiftBy : Nat → UInt32 → UInt32
  | 0, remainder => remainder
  | places + 1, remainder => shiftBy places (shift remainder)

/-- Take a byte into a remainder. -/
def update (remainder : UInt32) (byte : Nat) : UInt32 :=
  shiftBy 8 (remainder ^^^ UInt32.ofNat byte)

/-- The checksum of bytes. -/
def ofBytes (bytes : List Nat) : UInt32 :=
  bytes.foldl update 0xFFFFFFFF ^^^ 0xFFFFFFFF

end Checksum

/-- The number below one hundred that decides whether a repository takes part in a rollout. -/
def rolloutBucket (repository : Text) : Nat :=
  (Checksum.ofBytes (Utf8.encode repository)).toNat % 100

theorem rolloutBucket_lt (repository : Text) : rolloutBucket repository < 100 :=
  Nat.mod_lt _ (by decide)

end Marginalia
