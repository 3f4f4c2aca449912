/-!
# The hash of a text

The 64-bit FNV-1a hash takes in one byte after another. It tells short texts apart well, but there
are more texts than hashes, and pairs of texts with one hash are easily found.
-/

namespace HealthPanel.Text

/-- The hash of bytes: each byte is added without carry, and then the hash is multiplied. -/
def fnv1a (bytes : List UInt8) : UInt64 :=
  bytes.foldl (fun hash b => (hash ^^^ b.toUInt64) * 0x100000001b3) 0xcbf29ce484222325

end HealthPanel.Text
