/-!
# UTF-8 text as bytes

Bodies and files arrive as bytes and are read as text only where every byte belongs to a
well-formed UTF-8 sequence. Encoding a text and decoding the result gives the text back, and
no other bytes decode to it.
-/

namespace HealthPanel.Utf8

/-- The UTF-8 bytes of a text. -/
def encode (text : String) : List UInt8 :=
  text.toByteArray.data.toList

/-- The text that the bytes encode, if they are well-formed UTF-8. -/
def decode? (bytes : List UInt8) : Option String :=
  String.fromUTF8? ⟨bytes.toArray⟩

/-- The length of the well-formed sequence in front of the bytes, if there is one. -/
def sequenceLength? (bytes : List UInt8) : Option Nat :=
  [1, 2, 3, 4].find? fun n => n ≤ bytes.length ∧ (decode? (bytes.take n)).isSome

/-- The bytes from the first ill-formed sequence on. -/
def illFormed : Nat → List UInt8 → List UInt8
  | 0, bytes => bytes
  | fuel + 1, bytes =>
    match sequenceLength? bytes with
    | some n => illFormed fuel (bytes.drop n)
    | none => bytes

/-- Every text survives encoding. -/
theorem decode?_encode (text : String) : decode? (encode text) = some text := by
  simp [decode?, encode, String.fromUTF8?, text.isValidUTF8, String.fromUTF8]

/-- Only the encoding of a text decodes to it. -/
theorem eq_encode_of_decode? {bytes : List UInt8} {text : String}
    (h : decode? bytes = some text) : bytes = encode text := by
  unfold decode? String.fromUTF8? at h
  split at h
  · simp only [Option.some.injEq] at h
    simp [← h, encode, String.fromUTF8]
  · simp at h

end HealthPanel.Utf8
