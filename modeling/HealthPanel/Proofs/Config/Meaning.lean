import HealthPanel.Config.Format.Json
import HealthPanel.Proofs.Config.Spelling
import HealthPanel.Proofs.Json.Skipping

/-!
# What a JSON file means apart from its blanks

A document without blanks has a meaning of its own: what its tokens are read as, and for an object
what its members make of a draft one after another. The reader gives just this meaning to every text
that the document can be written as, so it depends on no blanks, and what an unknown member holds
has no part in it.
-/

namespace HealthPanel.JsonFile

open HealthPanel.Json (Cause EndsNumeral Enclosed IsGap IsScalar IsText Reader Renders
  RendersContainer RendersMember Separated SpellsContent Tree isGap_nil peek peek_append textOf?)

/-- What trees mean, unless they do not fit. -/
def Meaning (α : Type) := Tree → Option α

instance : Functor Meaning where
  map f meaning tree := (meaning tree).map f

namespace Meaning

variable {Draft α : Type}

/-- What a reader makes of a token. Lists and objects do not fit. -/
def ofToken (reader : Reader α) : Meaning α
  | .scalar token => (reader token).toOption.map Prod.fst
  | .list _ | .object _ => none

/-- A named value: its name, or an object of one member that has null beside the name. -/
def choice (choices : List (String × α)) : Meaning α
  | .scalar token => ofToken (readChoice choices) (.scalar token)
  | .object [(key, content)] => do
    let name ← textOf? key
    let value ← choices.lookup name
    let _ ← ofToken readNull content
    return value
  | .list _ | .object _ => none

/-- What a value makes of a draft under the name of a field. Under an unknown name it makes nothing
of it, whatever it is. -/
def takeNamed (fields : List (Field Meaning Draft)) (draft : Draft) (name : String) (value : Tree) :
    Option Draft :=
  match fields.find? (·.name = name) with
  | none => some draft
  | some field => if field.isSet draft then none else field.read draft value

/-- What a member makes of a draft. -/
def takeMember (fields : List (Field Meaning Draft)) (draft : Draft) (member : List UInt8 × Tree) :
    Option Draft :=
  (textOf? member.1).bind fun name => takeNamed fields draft name member.2

/-- What the items of a list make of a draft. There may be fewer of them than fields. -/
def takeItems : List (Field Meaning Draft) → List Tree → Draft → Option Draft
  | _, [], draft => some draft
  | [], _ :: _, _ => none
  | field :: fields, item :: items, draft => (field.read draft item).bind (takeItems fields items)

/-- A record, as an object or as a list. -/
def record (record : Record Meaning Draft α) : Meaning α
  | .scalar _ => none
  | .list items =>
    (takeItems record.fields items record.blank).bind fun draft => (record.complete draft).toOption
  | .object members =>
    (members.foldlM (takeMember record.fields) record.blank).bind fun draft =>
      (record.complete draft).toOption

/-- What trees mean as configuration files. -/
def format : FileFormat Meaning :=
  { natural := ofToken readNatural
    text := ofToken (readText "a string")
    choice := choice
    record := record }

end Meaning

/-- A reader gives to every tree its meaning, however it is rendered and whatever comes next that
does not go on with a numeral. -/
def Agrees {α : Type} (reader : Reader α) (meaning : Meaning α) : Prop :=
  ∀ depth tree bytes, Renders depth tree bytes → ∀ gap rest, IsGap gap → EndsNumeral rest →
    (reader (gap ++ (bytes ++ rest))).toOption = (meaning tree).map (·, rest)

variable {Draft α : Type} {depth : Nat} {bytes token key inner gap front back rest s : List UInt8}

/-! ## Tokens -/

/-- A reader makes the same of a token wherever it stands. -/
def TakesToken (reader : Reader α) (token : List UInt8) : Prop :=
  ∃ outcome : Option α, ∀ gap rest, IsGap gap → EndsNumeral rest →
    (reader (gap ++ (token ++ rest))).toOption = outcome.map (·, rest)

/-- What a reader makes of a token everywhere it makes of the token alone. -/
theorem TakesToken.toOption_eq {reader : Reader α} (h : TakesToken reader token) (isGap : IsGap gap)
    (ends : EndsNumeral rest) :
    (reader (gap ++ (token ++ rest))).toOption =
      (Meaning.ofToken reader (.scalar token)).map (·, rest) := by
  obtain ⟨outcome, houtcome⟩ := h
  have halone := houtcome [] [] isGap_nil isGap_nil.endsNumeral
  rw [List.nil_append, List.append_nil] at halone
  rw [houtcome gap rest isGap ends, Meaning.ofToken, halone]
  cases outcome <;> rfl

/-- A reader that takes all tokens that begin as it expects, and nothing that begins otherwise,
gives to tokens their meaning. -/
theorem agrees_ofToken {reader : Reader α} (expects : UInt8 → Prop) [DecidablePred expects]
    (refuses : ∀ b gap s, ¬expects b → Json.isBlank b = false → IsGap gap →
      (reader (gap ++ b :: s)).toOption = none)
    (noList : ¬expects 0x5B) (noObject : ¬expects 0x7B)
    (takes : ∀ b tail, expects b → IsScalar (b :: tail) → TakesToken reader (b :: tail)) :
    Agrees reader (.ofToken reader) := by
  intro depth tree bytes h gap rest isGap ends
  rcases h.shape with ⟨isScalar, rfl⟩ | ⟨less, -, container⟩
  · obtain ⟨b, tail, rfl, hblank, -⟩ := isScalar.exists_head
    have htakes : TakesToken reader (b :: tail) := by
      by_cases hb : expects b
      · exact takes b tail hb isScalar
      · exact ⟨none, fun gap rest isGap _ => refuses b gap _ hb hblank isGap⟩
    exact htakes.toOption_eq isGap ends
  · cases container with
    | list enclosed => exact refuses _ gap _ noList (by decide) isGap
    | object enclosed => exact refuses _ gap _ noObject (by decide) isGap

/-- What is read as a text between quotes depends on nothing around it. -/
theorem toOption_readText (h : IsText token) (expected : String) (isGap : IsGap gap)
    (rest : List UInt8) :
    (readText expected (gap ++ (token ++ rest))).toOption = (textOf? token).map (·, rest) := by
  obtain ⟨inner, hinner, rfl⟩ := h
  rw [← hinner.toOption_readText rest]
  simp only [List.cons_append, List.append_assoc, List.nil_append, readText,
    peek_append isGap (show Json.isBlank 0x22 = false by decide)]

/-- A text is read as what it means. -/
theorem agrees_text (expected : String) :
    Agrees (readText expected) (.ofToken (readText expected)) := by
  refine agrees_ofToken (· = 0x22) (fun b gap s hb hblank isGap => ?_) (by decide) (by decide) ?_
  · simp only [readText, peek_append isGap hblank]
    rfl
  · rintro b tail rfl isScalar
    exact ⟨_, fun gap rest isGap _ => toOption_readText isScalar.isText expected isGap rest⟩

/-- An integer from zero that fits 64 bits is read as what it means. -/
theorem agrees_natural : Agrees readNatural (.ofToken readNatural) := by
  refine agrees_ofToken (fun b => b = 0x2D ∨ Json.isDigit b) (fun b gap s hb hblank isGap => ?_)
    (by decide) (by decide) fun b tail hb isScalar => ?_
  · simp only [readNatural, peek_append isGap hblank, if_neg hb]
    rfl
  · obtain ⟨numeral, spelled⟩ := isScalar.exists_numeral hb
    have hread {gap rest : List UInt8} (isGap : IsGap gap) (ends : EndsNumeral rest) :
        (readNatural (gap ++ (b :: tail ++ rest))).toOption =
          ((readNatural (b :: tail)).toOption.map Prod.fst).map (·, rest) := by
      have hblank := (Json.not_other_of_sign_or_digit hb).1
      have hnumeral (rest : List UInt8) (ends : EndsNumeral rest) :
          Json.readNumeral .endOfValue (b :: (tail ++ rest)) = .ok (numeral, rest) :=
        spelled.readNumeral_eq ends
      have halone := hnumeral [] isGap_nil.endsNumeral
      rw [List.append_nil] at halone
      have hpeek : Json.peek .endOfValue (b :: tail) = .ok (b, tail) := peek_append isGap_nil hblank
      simp only [List.cons_append, readNatural, peek_append isGap hblank, hpeek, if_pos hb,
        Json.readNumber, hnumeral rest ends, halone]
      rcases numeral.number with unread | (n | n) | x <;> rfl
    exact ⟨_, fun gap rest => hread⟩

/-- Null is read as what it means. -/
theorem agrees_null : Agrees readNull (.ofToken readNull) := by
  refine agrees_ofToken (· = 0x6E) (fun b gap s hb hblank isGap => ?_) (by decide) (by decide) ?_
  · simp only [readNull, peek_append isGap hblank]
    rfl
  · rintro b tail rfl isScalar
    obtain rfl := isScalar.isNull
    refine ⟨some (), fun gap rest isGap _ => ?_⟩
    simp only [List.cons_append, readNull,
      peek_append isGap (show Json.isBlank 0x6E = false by decide)]
    rfl

/-! ## Named values -/

/-- Of a success its value is left. -/
theorem toOption_ok {ε : Type} (value : α) :
    (Except.ok value : Except ε α).toOption = some value := rfl

/-- A name has the value that stands beside it among the choices. -/
theorem toOption_named (choices : List (String × α)) (name : String) (rest : List UInt8) :
    (named choices (name, rest)).toOption = (choices.lookup name).map (·, rest) := by
  simp only [named]
  cases choices.lookup name <;> rfl

/-- The name of a value is read as a text. -/
theorem toOption_readChoice_text (h : IsText token) (choices : List (String × α))
    (isGap : IsGap gap) (rest : List UInt8) :
    (readChoice choices (gap ++ (token ++ rest))).toOption =
      ((textOf? token).bind fun name => choices.lookup name).map (·, rest) := by
  obtain ⟨inner, hinner, rfl⟩ := h
  have hread := toOption_bind (Json.readText (inner ++ 0x22 :: rest)) (named choices)
  simp only [List.cons_append, List.append_assoc, List.nil_append, readChoice,
    peek_append isGap (show Json.isBlank 0x22 = false by decide)]
  rw [hinner.toOption_readText] at hread
  refine hread.trans ?_
  cases textOf? (0x22 :: (inner ++ [0x22])) with
  | none => rfl
  | some name => exact toOption_named choices name rest

/-- An object that names a value is read member by member, but only one is taken. -/
theorem toOption_readNamedMember {key : List UInt8} {content : Tree} (choices : List (String × α))
    (h : RendersMember (Renders depth) (key, content) bytes) (isFront : IsGap front)
    (ends : EndsNumeral rest) :
    (readNamedMember choices (front ++ (bytes ++ rest))).toOption = (do
      let name ← textOf? key
      let value ← choices.lookup name
      let _ ← Meaning.ofToken readNull content
      match Json.skipBlanks rest with
      | 0x7D :: rest => return (value, rest)
      | _ => none) := by
  obtain ⟨inside, isText, hcontent, rfl⟩ := h
  obtain ⟨colon, inside, ⟨before, after, isBefore, isAfter, rfl⟩, rendered, rfl⟩ := hcontent
  have hnull := agrees_null _ _ _ rendered after rest isAfter ends
  simp only [List.append_assoc, List.cons_append, readNamedMember, toOption_bind,
    toOption_readText isText _ isFront]
  cases textOf? key with
  | none => rfl
  | some name =>
    simp only [Option.map_some, Option.bind_some, toOption_named, Option.bind_eq_bind]
    cases choices.lookup name with
    | none => rfl
    | some value =>
      simp only [Option.map_some, Option.bind_some, Json.readColon_append isBefore, toOption_ok,
        hnull]
      cases Meaning.ofToken readNull content with
      | none => rfl
      | some null =>
        simp only [Option.map_some, Option.bind_some]
        split <;> simp_all [Except.toOption]

/-- An object that names a value is taken if it has one member. -/
theorem toOption_readNamedMember_enclosed {members : List (List UInt8 × Tree)}
    (choices : List (String × α)) (h : Enclosed 0x7D (RendersMember (Renders depth)) members bytes)
    (rest : List UInt8) :
    (readNamedMember choices (bytes ++ rest)).toOption =
      (Meaning.choice choices (.object members)).map (·, rest) := by
  cases h with
  | empty isGap =>
    simp only [List.append_assoc, List.singleton_append, readNamedMember, readText,
      peek_append isGap (show Json.isBlank 0x7D = false by decide)]
    rfl
  | @items members front bytes back isFront separated isBack =>
    simp only [List.append_assoc, List.singleton_append]
    cases separated with
    | @last member _ rendered =>
      obtain ⟨key, content⟩ := member
      have hclose : Json.skipBlanks (back ++ 0x7D :: rest) = 0x7D :: rest :=
        Json.skipBlanks_append isBack (by decide)
      rw [toOption_readNamedMember choices rendered isFront
        (isBack.endsNumeral_append (.inr (.inr rfl))), hclose]
      simp [Meaning.choice, Option.map_bind]
    | @next member others bytes comma more rendered isComma separated =>
      obtain ⟨key, content⟩ := member
      obtain ⟨before, after, isBefore, isAfter, rfl⟩ := isComma
      have hcomma (s : List UInt8) : Json.skipBlanks (before ++ 0x2C :: s) = 0x2C :: s :=
        Json.skipBlanks_append isBefore (by decide)
      have hmany : Meaning.choice choices (.object ((key, content) :: others)) = none := by
        cases separated <;> rfl
      simp only [List.append_assoc, List.cons_append]
      rw [toOption_readNamedMember choices rendered isFront
        (isBefore.endsNumeral_append (.inl rfl)), hcomma, hmany]
      simp

/-- A choice is read as what it means, in either form. -/
theorem agrees_choice (choices : List (String × α)) :
    Agrees (readChoice choices) (.choice choices) := by
  intro depth tree bytes h gap rest isGap ends
  rcases h.shape with ⟨isScalar, rfl⟩ | ⟨less, -, container⟩
  · have htakes : TakesToken (readChoice choices) bytes := by
      obtain ⟨b, tail, rfl, hblank, -, hobject, -⟩ := isScalar.exists_head
      by_cases hquote : b = 0x22
      · subst hquote
        have htext := isScalar.isText
        exact ⟨_, fun gap rest isGap _ => toOption_readChoice_text htext choices isGap rest⟩
      · refine ⟨none, fun gap rest isGap _ => ?_⟩
        simp only [List.cons_append, readChoice, peek_append isGap hblank]
        rfl
    exact htakes.toOption_eq isGap ends
  · cases container with
    | list enclosed =>
      simp only [List.cons_append, readChoice,
        peek_append isGap (show Json.isBlank 0x5B = false by decide)]
      rfl
    | object enclosed =>
      simp only [List.cons_append, readChoice,
        peek_append isGap (show Json.isBlank 0x7B = false by decide)]
      exact toOption_readNamedMember_enclosed choices enclosed rest

/-! ## Records -/

/-- A field that reads what its counterpart means. -/
structure FieldAgrees (field : Field Reader Draft) (meaning : Field Meaning Draft) : Prop where
  name : field.name = meaning.name
  isSet : field.isSet = meaning.isSet
  read : ∀ draft, Agrees (field.read draft) (meaning.read draft)

variable {fields : List (Field Reader Draft)} {meanings : List (Field Meaning Draft)}
  {draft : Draft} {bound : List UInt8} {member : List UInt8 × Tree}

/-- Fields that agree are found under the same names. -/
theorem rel_find? (agree : List.Forall₂ FieldAgrees fields meanings) (name : String) :
    Option.Rel FieldAgrees (fields.find? (·.name = name)) (meanings.find? (·.name = name)) := by
  induction agree with
  | nil => exact .none
  | cons hfirst _ ih =>
    rw [List.find?_cons, List.find?_cons, hfirst.name]
    split
    · exact .some hfirst
    · exact ih

/-- What is read of a member behind its key is what it means. -/
theorem toOption_readMember (agree : List.Forall₂ FieldAgrees fields meanings) {value : Tree}
    (h : SpellsContent (Renders depth) value bytes) (ends : EndsNumeral rest) (draft : Draft)
    (name : String) :
    (readMember fields draft name (bytes ++ rest)).toOption =
      (Meaning.takeNamed meanings draft name value).map (·, rest) := by
  obtain ⟨colon, inside, ⟨before, after, isBefore, isAfter, rfl⟩, rendered, rfl⟩ := h
  have hfind := rel_find? agree name
  rw [readMember, Meaning.takeNamed]
  simp only [List.append_assoc, List.cons_append, Json.readColon_append isBefore]
  cases hfield : fields.find? (·.name = name) with
  | none =>
    rw [hfield] at hfind
    generalize meanings.find? (·.name = name) = found at hfind
    cases hfind
    simp only [toOption_bind, toOption_ok, Option.bind_some, rendered.skipValue_eq isAfter ends]
    rfl
  | some field =>
    rw [hfield] at hfind
    generalize meanings.find? (·.name = name) = found at hfind
    cases hfind with
    | some hagree =>
      simp only [hagree.isSet]
      split
      · rfl
      · exact hagree.read draft _ _ _ rendered after rest isAfter ends

/-- The loop over members takes the first one and goes on with what comes next. -/
theorem toOption_readMembers_cons (agree : List.Forall₂ FieldAgrees fields meanings)
    (h : RendersMember (Renders depth) member bytes) (isFront : IsGap front)
    (ends : EndsNumeral rest) (first : UInt8) :
    (Json.readMembers (readMember fields) (first :: bound) draft
        (front ++ (bytes ++ rest))).toOption =
      (Meaning.takeMember meanings draft member).bind fun draft =>
        match peek .endOfObject rest with
        | .ok (0x7D, s) => some (draft, s)
        | .ok (0x2C, s) => (Json.readMembers (readMember fields) bound draft s).toOption
        | _ => none := by
  obtain ⟨key, value⟩ := member
  obtain ⟨content, ⟨inner, hinner, rfl⟩, hcontent, rfl⟩ := h
  have hread := hinner.toOption_readText (content ++ rest)
  simp only [List.append_assoc, List.cons_append, List.nil_append, Json.readMembers,
    peek_append isFront (show Json.isBlank 0x22 = false by decide), Meaning.takeMember]
  cases hkey : textOf? (0x22 :: (inner ++ [0x22])) with
  | none =>
    rw [hkey] at hread
    obtain ⟨fault, hfault⟩ := exists_eq_error_of_toOption hread
    rw [hfault]
    rfl
  | some name =>
    rw [hkey] at hread
    have hmember := toOption_readMember agree hcontent ends draft name
    simp only [eq_ok_of_toOption hread, Option.bind_some]
    cases htake : Meaning.takeNamed meanings draft name value with
    | none =>
      rw [htake] at hmember
      obtain ⟨fault, hfault⟩ := exists_eq_error_of_toOption hmember
      rw [hfault]
      rfl
    | some filled =>
      rw [htake] at hmember
      simp only [eq_ok_of_toOption hmember, Option.bind_some]
      split <;> simp_all [Except.toOption]

/-- The loop over members makes of a draft what they mean, whatever comes behind the closing
brace. -/
theorem toOption_readMembers {members : List (List UInt8 × Tree)}
    (h : Separated (RendersMember (Renders depth)) members bytes)
    (agree : List.Forall₂ FieldAgrees fields meanings) (isFront : IsGap front) (isBack : IsGap back)
    (enough : members.length ≤ bound.length) :
    (Json.readMembers (readMember fields) bound draft
        (front ++ (bytes ++ (back ++ 0x7D :: rest)))).toOption =
      (members.foldlM (Meaning.takeMember meanings) draft).map (·, rest) := by
  induction h generalizing bound draft front with
  | last rendered =>
    obtain _ | ⟨first, bound⟩ := bound
    · simp at enough
    · rw [toOption_readMembers_cons agree rendered isFront
        (isBack.endsNumeral_append (.inr (.inr rfl))), peek_append isBack (by decide)]
      simp only [List.foldlM_cons, List.foldlM_nil, Option.bind_eq_bind, Option.pure_def]
      cases Meaning.takeMember meanings draft _ <;> rfl
  | next rendered isComma _ ih =>
    obtain _ | ⟨first, bound⟩ := bound
    · simp at enough
    · obtain ⟨gap, later, isGap, isLater, rfl⟩ := isComma
      simp only [List.append_assoc, List.cons_append]
      rw [toOption_readMembers_cons agree rendered isFront (isGap.endsNumeral_append (.inl rfl)),
        peek_append isGap (by decide), List.foldlM_cons]
      cases Meaning.takeMember meanings draft _ with
      | none => rfl
      | some filled => exact ih isLater (Nat.le_of_succ_le_succ enough)

/-- An object makes of a draft what its members mean. -/
theorem toOption_readObject {members : List (List UInt8 × Tree)}
    (h : Enclosed 0x7D (RendersMember (Renders depth)) members bytes)
    (agree : List.Forall₂ FieldAgrees fields meanings) (draft : Draft) (rest : List UInt8) :
    (Json.readObject (readMember fields) draft (bytes ++ rest)).toOption =
      (members.foldlM (Meaning.takeMember meanings) draft).map (·, rest) := by
  cases h with
  | empty isGap =>
    simp only [List.append_assoc, List.singleton_append, Json.readObject,
      peek_append isGap (show Json.isBlank 0x7D = false by decide)]
    rfl
  | @items members front bytes back isFront separated isBack =>
    have hlength := separated.length_le RendersMember.beginsItem
    obtain ⟨b, tail, rfl, hblank, -, hclose⟩ := separated.beginsItem RendersMember.beginsItem
    simp only [List.append_assoc, List.cons_append, List.nil_append, Json.readObject,
      peek_append isFront hblank]
    refine toOption_readMembers separated agree isGap_nil isBack ?_
    simp only [List.length_cons, List.length_append] at hlength ⊢
    omega

/-- The reader of a list's end takes nothing but the closing bracket. -/
theorem toOption_readListEnd_eq_none {b : UInt8} (isGap : IsGap gap)
    (hblank : Json.isBlank b = false) (hclose : b ≠ 0x5D) (s : List UInt8) :
    (readListEnd (gap ++ b :: s)).toOption = none := by
  simp only [readListEnd, peek_append isGap hblank]
  split
  case h_1 => rfl
  case h_2 heq => exact absurd (Prod.mk.inj (Except.ok.inj heq)).1 hclose
  case h_3 => split <;> rfl
  case h_4 => rfl

/-- The closing bracket is found behind blanks. -/
theorem readListEnd_append (isGap : IsGap gap) : readListEnd (gap ++ 0x5D :: s) = .ok ((), s) := by
  simp only [readListEnd, peek_append isGap (show Json.isBlank 0x5D = false by decide)]

/-- No field follows where a list ends. -/
theorem readSeparator_close (isGap : IsGap gap) :
    readSeparator (gap ++ 0x5D :: s) = .ok (false, 0x5D :: s) := by
  simp only [readSeparator, peek_append isGap (show Json.isBlank 0x5D = false by decide)]

/-- A field follows behind a comma. -/
theorem readSeparator_comma {b : UInt8} (isGap : IsGap gap) (isBack : IsGap back)
    (hblank : Json.isBlank b = false) (hclose : b ≠ 0x5D) :
    readSeparator (gap ++ 0x2C :: (back ++ b :: s)) = .ok (true, b :: s) := by
  simp only [readSeparator, peek_append isGap (show Json.isBlank 0x2C = false by decide),
    peek_append isBack hblank]

/-- The items of a list make of a draft what they mean, up to the closing bracket. -/
theorem toOption_readFields {items : List Tree} (h : Separated (Renders depth) items bytes)
    (agree : List.Forall₂ FieldAgrees fields meanings) (isBack : IsGap back) :
    ((readFields fields draft (bytes ++ (back ++ 0x5D :: rest))).toOption.bind fun read =>
        (readListEnd read.2).toOption.map fun finish => (read.1, finish.2)) =
      (Meaning.takeItems meanings items draft).map (·, rest) := by
  induction agree generalizing items bytes draft with
  | nil =>
    -- There is no field for the first item, and it closes no list.
    have hnone : Meaning.takeItems [] items draft = none := by cases h <;> rfl
    obtain ⟨b, tail, rfl, hblank, hclose, -⟩ := h.beginsItem Renders.beginsItem
    have hend := toOption_readListEnd_eq_none isGap_nil hblank hclose
      (tail ++ (back ++ 0x5D :: rest))
    rw [List.nil_append] at hend
    simp only [List.cons_append, readFields, toOption_ok, Option.bind_some, hend, hnone]
    rfl
  | @cons field meaning fields meanings hfield agree ih =>
    have hread {item : Tree} {bytes rest : List UInt8} (rendered : Renders depth item bytes)
        (ends : EndsNumeral rest) : (field.read draft (bytes ++ rest)).toOption =
          (meaning.read draft item).map (·, rest) :=
      hfield.read draft _ _ _ rendered [] rest isGap_nil ends
    cases h with
    | @last item _ rendered =>
      simp only [readFields, toOption_bind,
        hread rendered (isBack.endsNumeral_append (.inr (.inl rfl))), Meaning.takeItems]
      cases meaning.read draft item with
      | none => rfl
      | some filled =>
        have hclose := readListEnd_append (s := rest) isGap_nil
        rw [List.nil_append] at hclose
        simp only [Option.map_some, Option.bind_some]
        split
        · simp only [toOption_ok, Option.bind_some, readListEnd_append isBack]
          rfl
        · simp only [readSeparator_close isBack, toOption_bind, toOption_ok, Option.bind_some,
            hclose]
          rfl
    | @next item items first comma others rendered isComma separated =>
      obtain ⟨gap, later, isGap, isLater, rfl⟩ := isComma
      simp only [List.append_assoc, List.cons_append, readFields, toOption_bind,
        hread rendered (isGap.endsNumeral_append (.inl rfl)), Meaning.takeItems]
      cases meaning.read draft item with
      | none => rfl
      | some filled =>
        have hrest := @ih others filled items separated
        have hnone : Meaning.takeItems [] items filled = none := by cases separated <;> rfl
        obtain ⟨b, tail, rfl, hblank, hclose, -⟩ := separated.beginsItem Renders.beginsItem
        simp only [Option.map_some, Option.bind_some]
        split
        case isTrue hempty =>
          obtain rfl := List.isEmpty_iff.mp hempty
          cases agree
          simp only [toOption_ok, Option.bind_some, hnone,
            toOption_readListEnd_eq_none isGap (show Json.isBlank 0x2C = false by decide)
              (by decide)]
          rfl
        case isFalse =>
          simp only [List.cons_append, readSeparator_comma isGap isLater hblank hclose,
            toOption_bind, toOption_ok, Option.bind_some]
          exact hrest

/-- A record of which the fields read what those of its counterpart mean. -/
structure RecordAgrees (record : Record Reader Draft α) (meaning : Record Meaning Draft α) :
    Prop where
  fields : List.Forall₂ FieldAgrees record.fields meaning.fields
  blank : record.blank = meaning.blank
  complete : record.complete = meaning.complete

variable {record : Record Reader Draft α} {meaning : Record Meaning Draft α}

/-- An object is read as what its members mean. -/
theorem RecordAgrees.toOption_readObject (agree : RecordAgrees record meaning)
    {members : List (List UInt8 × Tree)}
    (h : Enclosed 0x7D (RendersMember (Renders depth)) members bytes) (rest : List UInt8) :
    (readObject record (bytes ++ rest)).toOption =
      (Meaning.record meaning (.object members)).map (·, rest) := by
  simp only [readObject, toOption_bind, JsonFile.toOption_readObject h agree.fields, Meaning.record,
    agree.blank, agree.complete]
  cases members.foldlM (Meaning.takeMember meaning.fields) meaning.blank with
  | none => rfl
  | some draft => cases hcomplete : meaning.complete draft <;> simp [hcomplete, Except.toOption]

/-- A draft that is taken with the end of its list is completed, and needs both. -/
theorem toOption_complete (complete : Draft → Except String α) (fault : String → Json.Fault)
    (read : Draft × List UInt8) :
    (match complete read.1 with
      | .ok value => do
        let (_, s) ← readListEnd read.2
        return (value, s)
      | .error name => .error (fault name)).toOption =
      ((readListEnd read.2).toOption.map fun finish => (read.1, finish.2)).bind fun taken =>
        (complete taken.1).toOption.map (·, taken.2) := by
  cases hend : readListEnd read.2 <;> cases hcomplete : complete read.1 <;>
    simp [hcomplete, Except.toOption, bind, Except.bind, pure, Except.pure]

/-- A list is read as what its items mean. -/
theorem RecordAgrees.toOption_readList (agree : RecordAgrees record meaning) {items : List Tree}
    (h : Enclosed 0x5D (Renders depth) items bytes) (rest : List UInt8) :
    (readList record (bytes ++ rest)).toOption =
      (Meaning.record meaning (.list items)).map (·, rest) := by
  rw [Meaning.record]
  cases h with
  | empty isGap =>
    have hend := readListEnd_append (s := rest) isGap_nil
    rw [List.nil_append] at hend
    simp only [List.append_assoc, List.singleton_append, readList,
      peek_append isGap (show Json.isBlank 0x5D = false by decide), agree.blank, agree.complete,
      toOption_bind, toOption_ok, Option.bind_some, hend, Meaning.takeItems]
    cases meaning.complete meaning.blank <;> rfl
  | @items items front bytes back isFront separated isBack =>
    have hfields := @toOption_readFields _ _ _ _ rest _ _ meaning.blank _ separated agree.fields
      isBack
    obtain ⟨b, tail, rfl, hblank, hclose, -⟩ := separated.beginsItem Renders.beginsItem
    simp only [List.cons_append] at hfields
    simp only [List.append_assoc, List.cons_append, List.nil_append, readList,
      peek_append isFront hblank, agree.blank, agree.complete, toOption_bind, toOption_ok,
      Option.bind_some]
    refine (congrArg (Option.bind _)
      (funext fun read => toOption_complete meaning.complete _ read)).trans ?_
    rw [← Option.bind_assoc, hfields]
    cases Meaning.takeItems meaning.fields items meaning.blank <;> rfl

/-- A record means what its fields mean. -/
theorem agrees_record (agree : RecordAgrees record meaning) :
    Agrees (readRecord record) (.record meaning) := by
  intro depth tree bytes h gap rest isGap ends
  rcases h.shape with ⟨isScalar, rfl⟩ | ⟨less, -, container⟩
  · obtain ⟨b, tail, rfl, hblank, hlist, hobject, -⟩ := isScalar.exists_head
    simp only [List.cons_append, readRecord, peek_append isGap hblank]
    rfl
  · cases container with
    | list enclosed =>
      simp only [List.cons_append, readRecord,
        peek_append isGap (show Json.isBlank 0x5B = false by decide)]
      exact agree.toOption_readList enclosed rest
    | object enclosed =>
      simp only [List.cons_append, readRecord,
        peek_append isGap (show Json.isBlank 0x7B = false by decide)]
      exact agree.toOption_readObject enclosed rest

/-! ## The configuration -/

/-- What is made of a value that is read is made of what it means. -/
theorem agrees_map {β : Type} {reader : Reader α} {meaning : Meaning α} (f : α → β)
    (agree : Agrees reader meaning) : Agrees (f <$> reader) (f <$> meaning) := by
  intro depth tree bytes h gap rest isGap ends
  change ((reader _).map fun result => (f result.1, result.2)).toOption =
    ((meaning tree).map f).map (·, rest)
  rw [toOption_map, agree depth tree bytes h gap rest isGap ends]
  cases meaning tree <;> rfl

/-- A field agrees if its contents do. -/
theorem fieldAgrees {reader : Reader α} {meaning : Meaning α} {name : String}
    {get : Draft → Option α} {set : Draft → Option α → Draft} (agree : Agrees reader meaning) :
    FieldAgrees (FileFormat.field name get set reader) (FileFormat.field name get set meaning) :=
  ⟨rfl, rfl, fun draft => agrees_map (fun value => set draft (some value)) agree⟩

/-- The section of the endpoint is read as what it means. -/
theorem agrees_endpoint : Agrees format.endpoint Meaning.format.endpoint :=
  agrees_record ⟨.cons (fieldAgrees (agrees_text _)) .nil, rfl, rfl⟩

/-- The section of the limits is read as what it means. -/
theorem agrees_probe : Agrees format.probe Meaning.format.probe :=
  agrees_record ⟨.cons (fieldAgrees agrees_natural) .nil, rfl, rfl⟩

/-- The section of the log is read as what it means. -/
theorem agrees_logging : Agrees format.logging Meaning.format.logging :=
  agrees_record ⟨.cons (fieldAgrees (agrees_text _))
    (.cons (fieldAgrees (agrees_choice _)) .nil), rfl, rfl⟩

/-- A configuration is read as what it means. -/
theorem agrees_config : Agrees format.config Meaning.format.config :=
  agrees_record ⟨.cons (fieldAgrees agrees_endpoint)
    (.cons (fieldAgrees agrees_probe) (.cons (fieldAgrees agrees_logging) .nil)), rfl, rfl⟩

/-- A file holds what its tree means, whichever blanks stand between its tokens. -/
theorem toOption_config_of_tree {contents : String} {tree : Tree}
    (h : tree.IsRenderedBy (Utf8.encode contents)) :
    (config contents).toOption = Meaning.format.config tree := by
  obtain ⟨depth, front, inner, back, isFront, rendered, isBack, hcontents⟩ := h
  rw [config, hcontents]
  exact isBack.toOption_readAll
    (agrees_config depth tree inner rendered front back isFront isBack.endsNumeral)

end HealthPanel.JsonFile
