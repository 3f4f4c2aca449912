import HealthPanel.Config.Format.Json
import HealthPanel.Proofs.Config.Spelling
import HealthPanel.Proofs.Json.Natural
import HealthPanel.Proofs.Json.Text

/-!
# Configuration files spelled in JSON

A record is spelled as an object: its members with a colon after each key and commas between
them. Blanks may stand before every token.
-/

namespace HealthPanel.JsonFile

open HealthPanel.Json (Cause EndsValue Reader SpellsChars isBlank peek peek_append)

/-! ## Spelling -/

/-- Bytes that are all blanks. -/
def AreBlanks (bytes : List UInt8) : Prop := ∀ b ∈ bytes, isBlank b

/-- No bytes are blanks. -/
theorem areBlanks_nil : AreBlanks [] := fun _ hb => nomatch hb

/-- A text between its quotes, after any blanks. -/
def IsText (content : List UInt8) (text : String) : Prop :=
  ∃ blanks bytes, AreBlanks blanks ∧ SpellsChars text.toList bytes ∧
    content = blanks ++ (0x22 :: bytes ++ [0x22])

/-- A number in decimal digits, after any blanks. -/
def IsNatural (content : List UInt8) (n : Nat) : Prop :=
  ∃ blanks, AreBlanks blanks ∧ content = blanks ++ Utf8.encode (toString n)

/-- A key, a colon, and the contents of the member. -/
def IsMember (member : String × List UInt8) (bytes : List UInt8) : Prop :=
  ∃ key blanks, IsText key member.1 ∧ AreBlanks blanks ∧ bytes = key ++ (blanks ++ 0x3A :: member.2)

/-- Members with commas between them. -/
inductive AreMembers : List (String × List UInt8) → List UInt8 → Prop
  | last {member : String × List UInt8} {bytes : List UInt8} (spelled : IsMember member bytes) :
    AreMembers [member] bytes
  | next {member : String × List UInt8} {members : List (String × List UInt8)}
    {bytes blanks rest : List UInt8} (spelled : IsMember member bytes)
    (areBlanks : AreBlanks blanks) (others : AreMembers members rest) :
    AreMembers (member :: members) (bytes ++ (blanks ++ 0x2C :: rest))

/-- Members between braces, after any blanks. -/
def IsRecord (content : List UInt8) (members : List (String × List UInt8)) : Prop :=
  ∃ blanks inner gap, AreBlanks blanks ∧ AreBlanks gap ∧
    (members = [] ∧ inner = [] ∨ AreMembers members inner) ∧
      content = blanks ++ 0x7B :: (inner ++ (gap ++ [0x7D]))

/-- What a reader makes of contents that are followed by what may come after a value. -/
def Reads {α : Type} (reader : Reader α) (content : List UInt8) (outcome : Option α) : Prop :=
  ∀ rest, EndsValue rest → (reader (content ++ rest)).toOption = outcome.map (·, rest)

/-! ## Reading -/

variable {α : Type} {blanks content rest s : List UInt8}

/-- What is left after a value ends it, if blanks and then a comma or a brace come next. -/
theorem endsValue_of_areBlanks {b : UInt8} (h : AreBlanks blanks) (hb : b = 0x2C ∨ b = 0x7D) :
    EndsValue (blanks ++ b :: s) := by
  intro first hfirst
  cases blanks with
  | nil =>
    obtain rfl : b = first := by simpa using hfirst
    exact .inr hb
  | cons blank blanks =>
    obtain rfl : blank = first := by simpa using hfirst
    exact .inl (h blank List.mem_cons_self)

/-- A text is read from its quote on. -/
theorem exists_peek_of_isText {text : String} (h : IsText content text) (ended : Cause)
    (rest : List UInt8) :
    ∃ s, peek ended (content ++ rest) = .ok (0x22, s) ∧ Json.readText s = .ok (text, rest) := by
  obtain ⟨blanks, bytes, hblanks, hbytes, rfl⟩ := h
  refine ⟨bytes ++ 0x22 :: rest, ?_, Json.readText_of_spellsChars hbytes⟩
  rw [List.append_assoc, List.append_assoc, List.cons_append, List.singleton_append]
  exact peek_append hblanks (by decide)

/-- A text is read as what it spells. -/
theorem reads_text {expected : String} {text : String} (h : IsText content text) :
    Reads (readText expected) content (some text) := by
  intro rest _
  obtain ⟨s, hpeek, hread⟩ := exists_peek_of_isText h .endOfValue rest
  simp only [readText, hpeek, hread]
  rfl

/-- A name is read as the value that stands beside it among the choices. -/
theorem reads_choice {choices : List (String × α)} {name : String} {value : α}
    (h : IsText content name) (known : choices.lookup name = some value) :
    Reads (readChoice choices) content (some value) := by
  intro rest _
  obtain ⟨s, hpeek, hread⟩ := exists_peek_of_isText h .endOfValue rest
  simp only [readChoice, hpeek, hread, Except.bind, named, known]
  rfl

/-- A positive integer that fits 64 bits is read. -/
theorem reads_natural {n : Nat} (h : IsNatural content n) (hpos : 0 < n) (hlt : n < UInt64.size) :
    Reads readNatural content (some n) := by
  intro rest ends
  obtain ⟨blanks, hblanks, rfl⟩ := h
  have hnumber := Json.readNumber_toDigits hlt ends
  obtain ⟨c, digits, hdigits, hc, -⟩ := Json.exists_digits_eq_cons hpos
  have hdigit := Json.isDigit_digitByte hc
  have hblank := Json.isBlank_of_isDigit hdigit
  rw [Text.encode_toString, hdigits, List.map_cons, List.append_assoc, List.cons_append]
  rw [hdigits, List.map_cons, List.cons_append] at hnumber
  simp only [readNatural, peek_append hblanks hblank, hdigit, or_true, if_true, hnumber]
  rfl

/-! ## Records -/

variable {Draft : Type} {fields : List (Field Reader Draft)} {draft : Draft}
  {field : Field Reader Draft} {name : String}

/-- A field that the draft does not have yet is read after its colon. -/
theorem readMember_eq (known : fields.find? (·.name = name) = some field)
    (unset : field.isSet draft = false) (h : AreBlanks blanks) :
    readMember fields draft name (blanks ++ 0x3A :: s) = field.read draft s := by
  have hcolon : Json.readColon (blanks ++ 0x3A :: s) = .ok ((), s) := Json.readColon_append h
  simp only [readMember, known, unset, Bool.false_eq_true, if_false, hcolon, bind, Except.bind]

/-- A member is read up to the contents of its field. -/
theorem readMembers_eq (known : fields.find? (·.name = name) = some field)
    (unset : field.isSet draft = false) {bytes : List UInt8} (h : IsMember (name, content) bytes)
    (first : UInt8) (bound : List UInt8) :
    Json.readMembers (readMember fields) (first :: bound) draft (bytes ++ s) =
      match field.read draft (content ++ s) with
      | .error fault => .error fault
      | .ok (draft, s) =>
        match peek .endOfObject s with
        | .error fault => .error fault
        | .ok (0x7D, s) => .ok (draft, s)
        | .ok (0x2C, s) => Json.readMembers (readMember fields) bound draft s
        | .ok (_, s) => .error (.here .objectCommaOrEndExpected s) := by
  obtain ⟨key, blanks, hkey, hblanks, rfl⟩ := h
  obtain ⟨afterQuote, hpeek, hread⟩ :=
    exists_peek_of_isText hkey .endOfValue (blanks ++ 0x3A :: (content ++ s))
  have hsplit : key ++ (blanks ++ 0x3A :: content) ++ s =
      key ++ (blanks ++ 0x3A :: (content ++ s)) := by simp
  rw [hsplit]
  simp only [Json.readMembers, hpeek, hread]
  rewrite [readMember_eq known unset hblanks]
  rfl

/-- No members are read if the contents of the first one are refused. -/
theorem readMembers_eq_none (known : fields.find? (·.name = name) = some field)
    (unset : field.isSet draft = false) (reads : Reads (field.read draft) content none)
    {bytes : List UInt8} (h : IsMember (name, content) bytes) (ends : EndsValue s) (first : UInt8)
    (bound : List UInt8) :
    (Json.readMembers (readMember fields) (first :: bound) draft (bytes ++ s)).toOption = none := by
  obtain ⟨fault, hfault⟩ := exists_eq_error_of_toOption (reads s ends)
  rw [readMembers_eq known unset h, hfault]
  rfl

/-- The members of an object fill the draft, up to the closing brace. -/
theorem readMembers_fillsTo {members : List (String × List UInt8)} {bytes : List UInt8}
    {outcome : Option Draft} (spelled : AreMembers members bytes)
    (fills : FillsTo @Reads fields draft members outcome) {bound gap : List UInt8}
    (enough : bytes.length < bound.length) (h : AreBlanks gap) (rest : List UInt8) :
    (Json.readMembers (readMember fields) bound draft (bytes ++ (gap ++ 0x7D :: rest))).toOption =
      outcome.map (·, rest) := by
  induction spelled generalizing draft bound with
  | last hmember =>
    obtain _ | ⟨first, bound⟩ := bound
    · simp at enough
    have hends : EndsValue (gap ++ 0x7D :: rest) := endsValue_of_areBlanks h (.inr rfl)
    cases fills with
    | next known unset reads others =>
      cases others
      have hread := eq_ok_of_toOption (reads _ hends)
      have hpeek : peek .endOfObject (gap ++ 0x7D :: rest) = .ok (0x7D, rest) :=
        peek_append h (by decide)
      simp only [readMembers_eq known unset hmember, hread, hpeek]
      rfl
    | fails known unset reads =>
      exact readMembers_eq_none known unset reads hmember hends first bound
  | @next member members bytes blanks others hmember hblanks _ ih =>
    obtain _ | ⟨first, bound⟩ := bound
    · simp at enough
    rw [List.append_assoc, List.append_assoc, List.cons_append]
    have hends : EndsValue (blanks ++ 0x2C :: (others ++ (gap ++ 0x7D :: rest))) :=
      endsValue_of_areBlanks hblanks (.inl rfl)
    cases fills with
    | next known unset reads hothers =>
      have hread := eq_ok_of_toOption (reads _ hends)
      have hpeek : peek .endOfObject (blanks ++ 0x2C :: (others ++ (gap ++ 0x7D :: rest))) =
          .ok (0x2C, others ++ (gap ++ 0x7D :: rest)) := peek_append hblanks (by decide)
      simp only [readMembers_eq known unset hmember, hread, hpeek]
      refine ih hothers ?_
      simp only [List.length_append, List.length_cons] at enough
      omega
    | fails known unset reads =>
      exact readMembers_eq_none known unset reads hmember hends first bound

/-- Members start with the quote of a key, after any blanks. -/
theorem IsMember.exists_quote {member : String × List UInt8} {bytes : List UInt8}
    (h : IsMember member bytes) : ∃ blanks rest, AreBlanks blanks ∧
      bytes = blanks ++ 0x22 :: rest ∧ IsMember member (0x22 :: rest) := by
  obtain ⟨key, gap, ⟨blanks, text, hblanks, htext, rfl⟩, hgap, rfl⟩ := h
  refine ⟨blanks, text ++ 0x22 :: (gap ++ 0x3A :: member.2), hblanks, by simp, ?_⟩
  exact ⟨0x22 :: text ++ [0x22], gap, ⟨[], text, areBlanks_nil, htext, rfl⟩, hgap, by simp⟩

/-- Members begin with a quote, behind blanks. -/
theorem AreMembers.exists_quote {members : List (String × List UInt8)} {bytes : List UInt8}
    (h : AreMembers members bytes) : ∃ blanks rest, AreBlanks blanks ∧
      bytes = blanks ++ 0x22 :: rest ∧ AreMembers members (0x22 :: rest) := by
  cases h with
  | last hmember =>
    obtain ⟨blanks, rest, hblanks, rfl, hquote⟩ := hmember.exists_quote
    exact ⟨blanks, rest, hblanks, rfl, .last hquote⟩
  | next hmember hgap others =>
    obtain ⟨blanks, rest, hblanks, rfl, hquote⟩ := hmember.exists_quote
    exact ⟨blanks, _, hblanks, by simp, .next hquote hgap others⟩

/-- An object is read as what its members fill the draft with. -/
theorem readObject_fillsTo {members : List (String × List UInt8)} {inner gap : List UInt8}
    {outcome : Option Draft} (spelled : members = [] ∧ inner = [] ∨ AreMembers members inner)
    (fills : FillsTo @Reads fields draft members outcome) (h : AreBlanks gap) (rest : List UInt8) :
    (Json.readObject (readMember fields) draft (inner ++ (gap ++ 0x7D :: rest))).toOption =
      outcome.map (·, rest) := by
  rcases spelled with ⟨rfl, rfl⟩ | hmembers
  · cases fills
    have hpeek : peek .endOfObject (gap ++ 0x7D :: rest) = .ok (0x7D, rest) :=
      peek_append h (by decide)
    simp only [List.nil_append, Json.readObject, hpeek]
    rfl
  · obtain ⟨blanks, inner, hblanks, rfl, hquote⟩ := hmembers.exists_quote
    have hpeek : peek .endOfObject (blanks ++ 0x22 :: (inner ++ (gap ++ 0x7D :: rest))) =
        .ok (0x22, inner ++ (gap ++ 0x7D :: rest)) := peek_append hblanks (by decide)
    have henough : (0x22 :: inner).length < (0x22 :: (inner ++ (gap ++ 0x7D :: rest))).length := by
      simp only [List.length_cons, List.length_append]
      omega
    have hread := readMembers_fillsTo hquote fills henough h rest
    rw [List.append_assoc, List.cons_append]
    simp only [Json.readObject, hpeek]
    exact hread

/-- A record is read as what its members fill the draft to. -/
theorem reads_record {α : Type} {record : Record Reader Draft α}
    {members : List (String × List UInt8)} {outcome : Option Draft} (h : IsRecord content members)
    (fills : FillsTo @Reads record.fields record.blank members outcome) :
    Reads (readRecord record) content
      (outcome.bind fun draft => (record.complete draft).toOption) := by
  intro rest _
  obtain ⟨blanks, inner, gap, hblanks, hgap, hinner, rfl⟩ := h
  have hread := readObject_fillsTo hinner fills hgap rest
  have hpeek : peek .endOfValue (blanks ++ 0x7B :: (inner ++ (gap ++ 0x7D :: rest))) =
      .ok (0x7B, inner ++ (gap ++ 0x7D :: rest)) := peek_append hblanks (by decide)
  have hsplit : blanks ++ 0x7B :: (inner ++ (gap ++ [0x7D])) ++ rest =
      blanks ++ 0x7B :: (inner ++ (gap ++ 0x7D :: rest)) := by simp
  rw [hsplit]
  simp only [readRecord, hpeek, readObject, toOption_bind, hread]
  cases outcome with
  | none => rfl
  | some draft => cases hcomplete : record.complete draft <;> simp [hcomplete, Except.toOption]

/-- What is made of a value is made of what is read. -/
theorem reads_map {α β : Type} {reader : Reader α} {outcome : Option α} (f : α → β)
    (h : Reads reader content outcome) : Reads (f <$> reader) content (outcome.map f) := by
  intro rest ends
  change ((reader (content ++ rest)).map fun result => (f result.1, result.2)).toOption = _
  rw [toOption_map, h rest ends]
  cases outcome <;> rfl

/-- How JSON spells a configuration. -/
def spelling : Spelling format (List UInt8) :=
  { Reads := Reads
    IsText := IsText
    IsNatural := IsNatural
    IsRecord := IsRecord
    reads_map := reads_map
    reads_text := reads_text
    reads_natural := reads_natural
    reads_choice := reads_choice
    reads_record := reads_record }

/-! ## Whole files -/

variable {contents : String} {sections : List Section}

/-- A file that is made of exactly the given sections. Blanks may stand at its end. -/
def IsMadeOf (contents : String) (sections : List Section) : Prop :=
  ∃ content blanks, AreBlanks blanks ∧ spelling.IsMadeOf content sections ∧
    Utf8.encode contents = content ++ blanks

/-- A file that is made of valid sections holds what these give, unless there is a section of the
endpoint without a base URL. -/
theorem toOption_config (made : IsMadeOf contents sections) (valid : ValidSections sections) :
    (config contents).toOption =
      if .endpoint none ∈ sections then none else some (Config.ofSections sections) := by
  obtain ⟨content, blanks, hblanks, hmade, hcontents⟩ := made
  have hends : EndsValue blanks := fun b hb => .inl (hblanks b (List.mem_of_mem_head? hb))
  rw [config, hcontents]
  refine Json.IsGap.toOption_readAll hblanks ?_
  exact Spelling.reads_config hmade valid blanks hends

/-! ## Writing -/

/-- A field of the section of the log as a member of an object. -/
def loggingMember (entry : LoggingEntry) : String × Json.Value :=
  (entry.name,
    match entry with
    | .level text => .text text
    | .format form => .text form.name)

/-- A section as a member of an object. -/
def sectionMember (given : Section) : String × Json.Value :=
  (given.name, .object
    (match given with
    | .endpoint baseUrl => baseUrl.toList.map fun url => ("base_url", .text url)
    | .probe timeoutSecs =>
      timeoutSecs.toList.map fun n => ("timeout_secs", .number (.integer n))
    | .logging entries => entries.map loggingMember))

/-- A file that is made of the given sections. -/
def write (sections : List Section) : String :=
  (Json.Value.object (sections.map sectionMember)).compact

/-- A member as it is written. -/
def written (member : String × Json.Value) : String × List UInt8 :=
  (member.1, Utf8.encode member.2.compact)

/-- A text is written as a text. -/
theorem isText_compact (text : String) :
    IsText (Utf8.encode (Json.Value.text text).compact) text := by
  obtain ⟨bytes, hbytes, hquoted⟩ := Json.exists_encode_quoted text
  exact ⟨[], bytes, areBlanks_nil, hbytes, by simpa [Json.Value.compact] using hquoted⟩

/-- An integer is written as its digits. -/
theorem isNatural_compact (n : Nat) :
    IsNatural (Utf8.encode (Json.Value.number (.integer n)).compact) n :=
  ⟨[], areBlanks_nil, rfl⟩

/-- A member is written as a member. -/
theorem isMember_compact (key : String) (value : Json.Value) :
    IsMember (written (key, value))
      (Utf8.encode (Json.quoted key ++ ":" ++ value.compact)) := by
  have hcolon : Utf8.encode ":" = [0x3A] := rfl
  refine ⟨Utf8.encode (Json.quoted key), [], isText_compact key, areBlanks_nil, ?_⟩
  rw [Utf8.encode_append, Utf8.encode_append, hcolon]
  simp [written]

/-- Members are written as members. -/
theorem areMembers_compact (first : String × Json.Value) (members : List (String × Json.Value)) :
    AreMembers ((first :: members).map written)
      (Utf8.encode (Json.Value.compactMembers (first :: members))) := by
  induction members generalizing first with
  | nil =>
    rw [Json.Value.compactMembers]
    exact .last (isMember_compact first.1 first.2)
  | cons second members ih =>
    have hcomma : Utf8.encode "," = [0x2C] := rfl
    have hcompact : Json.Value.compactMembers (first :: second :: members) =
        Json.quoted first.1 ++ ":" ++ first.2.compact ++ "," ++
          Json.Value.compactMembers (second :: members) := by
      rw [Json.Value.compactMembers]
      exact fun h => nomatch h
    have hmembers := AreMembers.next (isMember_compact first.1 first.2) areBlanks_nil (ih second)
    rw [hcompact, Utf8.encode_append, Utf8.encode_append, hcomma, List.append_assoc]
    exact hmembers

/-- An object is written as a record of its members. -/
theorem isRecord_compact (members : List (String × Json.Value)) :
    IsRecord (Utf8.encode (Json.Value.object members).compact) (members.map written) := by
  have hopen : Utf8.encode "\x7b" = [0x7B] := rfl
  have hclose : Utf8.encode "\x7d" = [0x7D] := rfl
  refine ⟨[], Utf8.encode (Json.Value.compactMembers members), [], areBlanks_nil,
    areBlanks_nil, ?_, ?_⟩
  · cases members with
    | nil => exact .inl ⟨rfl, rfl⟩
    | cons first members => exact .inr (areMembers_compact first members)
  · rw [Json.Value.compact, Utf8.encode_append, Utf8.encode_append, hopen, hclose]
    simp

/-- What is written of a field of the log spells this field. -/
theorem isLoggingEntry_write (entry : LoggingEntry) :
    spelling.IsLoggingEntry entry (written (loggingMember entry)) :=
  ⟨rfl, by cases entry <;> exact isText_compact _⟩

/-- What is written of a section spells this section. -/
theorem isSection_write (given : Section) :
    spelling.IsSection given (written (sectionMember given)) := by
  refine ⟨rfl, _, isRecord_compact _, ?_⟩
  cases given with
  | endpoint baseUrl =>
    cases baseUrl with
    | none => exact .nil
    | some url => exact .cons ⟨rfl, isText_compact url⟩ .nil
  | probe timeoutSecs =>
    cases timeoutSecs with
    | none => exact .nil
    | some n => exact .cons ⟨rfl, isNatural_compact n⟩ .nil
  | logging entries =>
    change List.Forall₂ spelling.IsLoggingEntry entries ((entries.map loggingMember).map written)
    rw [List.map_map, List.forall₂_map_right_iff, List.forall₂_same]
    exact fun entry _ => isLoggingEntry_write entry

/-- What is written is made of the sections. -/
theorem isMadeOf_write (sections : List Section) : IsMadeOf (write sections) sections := by
  refine ⟨_, [], areBlanks_nil, ⟨_, isRecord_compact _, ?_⟩, (List.append_nil _).symm⟩
  rw [List.map_map, List.forall₂_map_right_iff, List.forall₂_same]
  exact fun given _ => isSection_write given

example : write [.probe (some 7), .endpoint none] =
    "\x7b\"probe\":\x7b\"timeout_secs\":7\x7d,\"endpoint\":\x7b\x7d\x7d" := by
  decide

end HealthPanel.JsonFile
