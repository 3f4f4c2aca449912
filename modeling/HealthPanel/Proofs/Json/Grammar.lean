import HealthPanel.Proofs.Json.Text

/-!
# The grammar of JSON

Which bytes spell which value. A document is a value with blanks around it; blanks may stand
around every bracket, brace, colon and comma inside it too. Lists and objects nest only so deep. The
grammar leaves open what number a numeral means. An object keeps, sorted by key, the last member of
each key.
-/

namespace HealthPanel.Json

variable {α : Type}

/-! ## Blanks -/

/-- Bytes that are all blanks. -/
def IsGap (bytes : List UInt8) : Prop :=
  ∀ b ∈ bytes, isBlank b

/-- A byte with any blanks around it. -/
def IsToken (token : UInt8) (bytes : List UInt8) : Prop :=
  ∃ front back, IsGap front ∧ IsGap back ∧ bytes = front ++ token :: back

/-! ## Numerals -/

/-- Bytes that are all digits, at least one, and what each is worth. -/
def SpellsDigits (digits : List Nat) (bytes : List UInt8) : Prop :=
  bytes ≠ [] ∧ (∀ b ∈ bytes, isDigit b) ∧ digits = bytes.map digitValue

/-- The digits before the point do not start with a zero, unless they are one zero. -/
def SpellsWhole (digits : List Nat) (bytes : List UInt8) : Prop :=
  SpellsDigits digits bytes ∧ (bytes.head? = some 0x30 → bytes = [0x30])

/-- The digits after the point, if there is a point. -/
inductive SpellsFraction : List Nat → List UInt8 → Prop
  | absent : SpellsFraction [] []
  | point {digits : List Nat} {bytes : List UInt8} (spelled : SpellsDigits digits bytes) :
    SpellsFraction digits (0x2E :: bytes)

/-- The sign of an exponent. -/
inductive SpellsSign : Bool → List UInt8 → Prop
  | absent : SpellsSign false []
  | plus : SpellsSign false [0x2B]
  | minus : SpellsSign true [0x2D]

/-- The exponent, if there is one. -/
inductive SpellsExponent : Option Exponent → List UInt8 → Prop
  | absent : SpellsExponent none []
  | mark {negative : Bool} {digits : List Nat} {letter : UInt8} {sign bytes : List UInt8}
    (either : letter = 0x65 ∨ letter = 0x45) (signed : SpellsSign negative sign)
    (spelled : SpellsDigits digits bytes) :
    SpellsExponent (some ⟨negative, digits⟩) (letter :: (sign ++ bytes))

/-- A numeral: its minus sign if it has one, its digits, its fraction and its exponent. -/
def SpellsNumeral (numeral : Numeral) (bytes : List UInt8) : Prop :=
  ∃ whole fraction exponent, SpellsWhole numeral.whole whole ∧
    SpellsFraction numeral.fraction fraction ∧ SpellsExponent numeral.exponent exponent ∧
    bytes = (if numeral.negative then [0x2D] else []) ++ (whole ++ (fraction ++ exponent))

/-- The number that digits write. -/
def decimalValue (digits : List Nat) : Nat :=
  digits.foldl (fun n d => n * 10 + d) 0

/-- Numerals without point and exponent, other than a negative zero, that fit 64 bits without a sign
or with one, and the integers that they mean. -/
inductive Numeral.MeansInteger : Numeral → Number → Prop
  | unsigned {whole : List Nat} (fits : decimalValue whole < UInt64.size) :
    MeansInteger ⟨false, whole, [], none⟩ (.integer (decimalValue whole))
  | negative {whole : List Nat} (nonzero : decimalValue whole ≠ 0)
    (fits : decimalValue whole ≤ UInt64.size / 2) :
    MeansInteger ⟨true, whole, [], none⟩ (.integer (-decimalValue whole))

/-- The number that a numeral is read as. -/
def Numeral.Means (numeral : Numeral) (number : Number) : Prop :=
  numeral.number = .ok number

/-! ## Values -/

/-- A text between its quotes. -/
def SpellsText (text : String) (bytes : List UInt8) : Prop :=
  ∃ inner, SpellsChars text.toList inner ∧ bytes = 0x22 :: (inner ++ [0x22])

/-- A value that holds no other. -/
inductive SpellsScalar (means : Numeral → Number → Prop) : Value → List UInt8 → Prop
  | null : SpellsScalar means .null [0x6E, 0x75, 0x6C, 0x6C]
  | ofTrue : SpellsScalar means (.bool true) [0x74, 0x72, 0x75, 0x65]
  | ofFalse : SpellsScalar means (.bool false) [0x66, 0x61, 0x6C, 0x73, 0x65]
  | number {numeral : Numeral} {number : Number} {bytes : List UInt8}
    (spelled : SpellsNumeral numeral bytes) (meant : means numeral number) :
    SpellsScalar means (.number number) bytes
  | text {text : String} {bytes : List UInt8} (spelled : SpellsText text bytes) :
    SpellsScalar means (.text text) bytes

/-- Items, at least one, with commas between them. -/
inductive Separated (spells : α → List UInt8 → Prop) : List α → List UInt8 → Prop
  | last {item : α} {bytes : List UInt8} (spelled : spells item bytes) :
    Separated spells [item] bytes
  | next {item : α} {items : List α} {bytes comma rest : List UInt8} (spelled : spells item bytes)
    (isComma : IsToken 0x2C comma) (others : Separated spells items rest) :
    Separated spells (item :: items) (bytes ++ (comma ++ rest))

/-- What stands behind an opening byte: the items, if there are any, and the closing byte. -/
inductive Enclosed (close : UInt8) (spells : α → List UInt8 → Prop) : List α → List UInt8 → Prop
  | empty {gap : List UInt8} (isGap : IsGap gap) : Enclosed close spells [] (gap ++ [close])
  | items {items : List α} {front bytes back : List UInt8} (isFront : IsGap front)
    (separated : Separated spells items bytes) (isBack : IsGap back) :
    Enclosed close spells items (front ++ (bytes ++ (back ++ [close])))

/-- A colon and what stands behind it. -/
def SpellsContent (spells : α → List UInt8 → Prop) (value : α) (bytes : List UInt8) : Prop :=
  ∃ colon content, IsToken 0x3A colon ∧ spells value content ∧ bytes = colon ++ content

/-- A key, a colon, and a value. -/
def SpellsMember (spells : α → List UInt8 → Prop) (member : String × α) (bytes : List UInt8) :
    Prop :=
  ∃ key content, SpellsText member.1 key ∧ SpellsContent spells member.2 content ∧
    bytes = key ++ content

/-- What an object keeps of its members as they stand in the text: sorted by key, each key once,
with the last of its values. -/
def Keeps (members kept : List (String × Value)) : Prop :=
  kept.Pairwise (fun a b => a.1 < b.1) ∧ ∀ key, kept.lookup key = members.reverse.lookup key

/-- A list or an object of values that are spelled in some way. -/
inductive SpellsContainer (spells : Value → List UInt8 → Prop) : Value → List UInt8 → Prop
  | list {items : List Value} {bytes : List UInt8} (enclosed : Enclosed 0x5D spells items bytes) :
    SpellsContainer spells (.list items) (0x5B :: bytes)
  | object {members kept : List (String × Value)} {bytes : List UInt8}
    (enclosed : Enclosed 0x7D (SpellsMember spells) members bytes) (keeps : Keeps members kept) :
    SpellsContainer spells (.object kept) (0x7B :: bytes)

/-- A value whose lists and objects nest at most so deep. -/
def SpellsValue (means : Numeral → Number → Prop) : Nat → Value → List UInt8 → Prop
  | 0, value, bytes => SpellsScalar means value bytes
  | depth + 1, value, bytes =>
    SpellsScalar means value bytes ∨ SpellsContainer (SpellsValue means depth) value bytes

/-- A value with any blanks around it, of lists and objects that nest at most 127 deep. -/
def SpellsDocument (means : Numeral → Number → Prop) (value : Value) (bytes : List UInt8) : Prop :=
  ∃ front inner back, IsGap front ∧ SpellsValue means 127 value inner ∧ IsGap back ∧
    bytes = front ++ (inner ++ back)

/-! ## Other meanings -/

variable {means means' : Numeral → Number → Prop} {spells spells' : α → List UInt8 → Prop}
  {items : List α} {depth : Nat} {value : Value} {bytes : List UInt8}

/-- What spells each item in one way and thereby in another spells all of them so. -/
theorem Separated.mono (h : Separated spells items bytes)
    (implies : ∀ item bytes, spells item bytes → spells' item bytes) :
    Separated spells' items bytes := by
  induction h with
  | last spelled => exact .last (implies _ _ spelled)
  | next spelled isComma _ ih => exact .next (implies _ _ spelled) isComma ih

/-- What spells each item in one way and thereby in another spells a list of them so. -/
theorem Enclosed.mono {close : UInt8} (h : Enclosed close spells items bytes)
    (implies : ∀ item bytes, spells item bytes → spells' item bytes) :
    Enclosed close spells' items bytes := by
  cases h with
  | empty isGap => exact .empty isGap
  | items isFront separated isBack => exact .items isFront (separated.mono implies) isBack

/-- What spells the value in one way and thereby in another spells the member so. -/
theorem SpellsMember.mono {named : String × α} (h : SpellsMember spells named bytes)
    (implies : ∀ item bytes, spells item bytes → spells' item bytes) :
    SpellsMember spells' named bytes := by
  obtain ⟨key, content, hkey, ⟨colon, inside, isColon, spelled, rfl⟩, rfl⟩ := h
  exact ⟨key, _, hkey, ⟨colon, inside, isColon, implies _ _ spelled, rfl⟩, rfl⟩

/-- A scalar is spelled as well where numerals may mean more. -/
theorem SpellsScalar.mono (h : SpellsScalar means value bytes)
    (implies : ∀ numeral number, means numeral number → means' numeral number) :
    SpellsScalar means' value bytes := by
  cases h with
  | null => exact .null
  | ofTrue => exact .ofTrue
  | ofFalse => exact .ofFalse
  | number spelled meant => exact .number spelled (implies _ _ meant)
  | text spelled => exact .text spelled

/-- What is spelled with numerals in one meaning is spelled with numerals in a wider one. -/
theorem SpellsValue.mono (h : SpellsValue means depth value bytes)
    (implies : ∀ numeral number, means numeral number → means' numeral number) :
    SpellsValue means' depth value bytes := by
  induction depth generalizing value bytes with
  | zero => exact SpellsScalar.mono h implies
  | succ depth ih =>
    rcases h with scalar | container
    · exact .inl (scalar.mono implies)
    · refine .inr ?_
      cases container with
      | list enclosed => exact .list (enclosed.mono fun _ _ => ih)
      | object enclosed keeps =>
        exact .object (enclosed.mono fun _ _ h => h.mono fun _ _ => ih) keeps

end HealthPanel.Json
