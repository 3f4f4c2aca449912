import HealthPanel.Config.Format.Yaml
import HealthPanel.Proofs.Config.Spelling
import HealthPanel.Proofs.Text.Digits
import HealthPanel.Proofs.Yaml.Nodes

/-!
# Configuration files spelled in YAML

A record is spelled as a mapping, or as nothing at all if it has no members; a text as any scalar,
and a number as a plain one. Nodes have no tags and are no aliases.
-/

namespace HealthPanel.YamlFile

open HealthPanel.Yaml (Document Head Meaning Node IsKey LineRecord LineValue)

/-! ## Spelling -/

/-- A scalar without a tag. -/
def IsText (node : Node) (text : String) : Prop :=
  ∃ head style, head.tag = none ∧ node = .scalar head style text

/-- A plain scalar of decimal digits. -/
def IsNatural (node : Node) (n : Nat) : Prop :=
  ∃ head, node = .scalar head .plain (toString n)

/-- An entry whose key is the name of the member. -/
def IsEntry (entry : Node × Node) (member : String × Node) : Prop :=
  IsText entry.1 member.1 ∧ entry.2 = member.2

/-- A mapping of the members, or nothing if there are none. -/
def IsRecord (node : Node) (members : List (String × Node)) : Prop :=
  (∃ head, node = .scalar head .plain "" ∧ members = []) ∨
    ∃ head entries, node = .mapping head entries ∧ List.Forall₂ IsEntry entries members

/-- What a reader makes of a node, wherever that stands. -/
def Reads {α : Type} (reader : Reader α) (node : Node) (outcome : Option α) : Prop :=
  ∀ document path, (reader ⟨document, some node, path⟩).toOption = outcome

/-! ## Reading -/

variable {α : Type} {node : Node}

/-- A node that is a text is read as this text, wherever it stands. -/
theorem readText_of_isText {expected : String} {text : String} (h : IsText node text)
    (document : Document) (path : List String) :
    readText expected ⟨document, some node, path⟩ = .ok text := by
  obtain ⟨head, style, -, rfl⟩ := h
  rfl

/-- A text is read as what it spells. -/
theorem reads_text {expected : String} {text : String} (h : IsText node text) :
    Reads (readText expected) node (some text) := by
  intro document path
  rw [readText_of_isText h]
  rfl

/-- A name is read as the value that stands beside it among the choices. -/
theorem reads_choice {choices : List (String × α)} {name : String} {value : α}
    (h : IsText node name) (known : choices.lookup name = some value) :
    Reads (readChoice choices) node (some value) := by
  intro document path
  obtain ⟨head, style, htag, rfl⟩ := h
  have hname : tagName? head = none := by simp [tagName?, htag]
  simp only [readChoice, Place.target, hname, named, known]
  rfl

/-- A decimal digit has its value. -/
theorem digit?_of_isDigit {c : Char} (h : c.isDigit) :
    Meaning.digit? 10 c = some (c.toNat - 0x30) := by
  have hdigit := Char.isDigit_iff_toNat.mp h
  simp only [Char.reduceToNat] at hdigit
  have hascii : c.toNat < 128 := by omega
  have hbyte : c.toNat.toUInt8.toNat = c.toNat :=
    UInt8.toNat_ofNat_of_lt' (hascii.trans (by decide))
  have hvalue : Text.hexValue? c.toNat.toUInt8 = some (c.toNat - 0x30) := by
    simp [Text.hexValue?, UInt8.le_iff_toNat_le, hbyte, hdigit]
  have hlt : c.toNat - 0x30 < 10 := by omega
  simp [Meaning.digit?, hascii, hvalue, hlt]

/-- Decimal digits write a number after another. -/
theorem foldlM_digit? {chars : List Char} (h : ∀ c ∈ chars, c.isDigit) (start : Nat) :
    chars.foldlM (fun n c => return n * 10 + (← Meaning.digit? 10 c)) start =
      some (Nat.ofDigitChars 10 chars start) := by
  refine Text.foldlM_digits (fun n c hc => ?_) h start
  rw [digit?_of_isDigit hc]
  rfl

/-- Decimal digits are read as the number they write. -/
theorem natural?_toString {n : Nat} (hpos : 0 < n) : Meaning.natural? (toString n) = some n := by
  have hall : ∀ c ∈ Nat.toDigits 10 n, c.isDigit := fun c =>
    Nat.isDigit_of_mem_toDigits (by decide) (by decide)
  have hvalue := foldlM_digit? hall 0
  have hzero := Text.head?_toDigits_ne hpos
  rw [Nat.ofDigitChars_ten_toDigits] at hvalue
  rw [Meaning.natural?, Nat.toString_eq_ofList_toDigits, String.toList_ofList]
  cases hdigits : Nat.toDigits 10 n with
  | nil => exact absurd hdigits Nat.toDigits_ne_nil
  | cons c digits =>
    rw [hdigits] at hall hzero hvalue
    have hc : c.isDigit := hall c List.mem_cons_self
    have hplus : c ≠ '+' := by
      rintro rfl
      exact absurd hc (by decide)
    have hminus : c ≠ '-' := by
      rintro rfl
      exact absurd hc (by decide)
    have hc0 : c ≠ '0' := fun heq => hzero (congrArg some heq)
    have hbody : Meaning.dropSign '+' (c :: digits) = c :: digits := by
      simp [Meaning.dropSign, hplus]
    have hbase : Meaning.splitBase (c :: digits) = none := by
      unfold Meaning.splitBase
      split <;> simp_all
    have hpadded : Meaning.isPadded (c :: digits) = false := by
      simp [Meaning.isPadded, hminus, hbody, hc0]
    simp only [hbody, hbase, hpadded, Bool.false_eq_true, if_false, Meaning.digits?, guard,
      ne_eq, reduceCtorEq, not_false_eq_true, if_true]
    exact hvalue

/-- A positive integer that fits 64 bits is read. -/
theorem reads_natural {n : Nat} (h : IsNatural node n) (hpos : 0 < n) (hlt : n < UInt64.size) :
    Reads readNatural node (some n) := by
  intro document path
  obtain ⟨head, rfl⟩ := h
  have hplain : mayBeInteger head .plain = true := rfl
  simp only [readNatural, Place.target, natural?_toString hpos, hplain, hlt, and_self, if_true]
  rfl

/-- What is made of a value is made of what is read. -/
theorem reads_map {α β : Type} {reader : Reader α} {outcome : Option α} (f : α → β)
    (h : Reads reader node outcome) : Reads (f <$> reader) node (outcome.map f) := by
  intro document path
  change ((reader ⟨document, some node, path⟩).map f).toOption = outcome.map f
  rw [toOption_map, h document path]

/-! ## Records -/

variable {Draft : Type} {fields : List (Field Reader Draft)} {draft : Draft}

/-- A field that the draft does not have yet is read. -/
theorem readEntry_eq {field : Field Reader Draft} {name : String} {key value : Node}
    (known : fields.find? (·.name = name) = some field) (unset : field.isSet draft = false)
    (h : IsText key name) (place : Place) :
    readEntry fields place draft (key, value) =
      field.read draft ⟨place.document, some value, place.pathTo key name⟩ := by
  have hkey : readText "field identifier" ⟨place.document, some key, place.path⟩ = .ok name :=
    readText_of_isText h place.document place.path
  simp only [readEntry, hkey, known, unset, bind, Except.bind]
  rfl

/-- The entries of a mapping fill the draft. -/
theorem foldlM_fillsTo {entries : List (Node × Node)} {members : List (String × Node)}
    {outcome : Option Draft} (spelled : List.Forall₂ IsEntry entries members)
    (fills : FillsTo @Reads fields draft members outcome) (place : Place) :
    (entries.foldlM (readEntry fields place) draft).toOption = outcome := by
  induction spelled generalizing draft with
  | nil =>
    cases fills
    rfl
  | @cons entry member entries members hentry _ ih =>
    obtain ⟨key, value⟩ := entry
    obtain ⟨name, content⟩ := member
    obtain ⟨hkey, rfl⟩ := hentry
    rw [List.foldlM_cons]
    cases fills with
    | next known unset reads others =>
      have hread := reads place.document (place.pathTo key name)
      rw [readEntry_eq known unset hkey, eq_ok_of_toOption hread]
      exact ih others
    | fails known unset reads =>
      obtain ⟨fault, hfault⟩ :=
        exists_eq_error_of_toOption (reads place.document (place.pathTo key name))
      rw [readEntry_eq known unset hkey, hfault]
      rfl

/-- A record is read from the entries that fill its draft. -/
theorem readEntries_fillsTo {record : Record Reader Draft α} {entries : List (Node × Node)}
    {members : List (String × Node)} {outcome : Option Draft}
    (spelled : List.Forall₂ IsEntry entries members)
    (fills : FillsTo @Reads record.fields record.blank members outcome) (place : Place) :
    (readEntries record place entries).toOption =
      outcome.bind fun draft => (record.complete draft).toOption := by
  simp only [readEntries, toOption_bind, foldlM_fillsTo spelled fills place]
  cases outcome with
  | none => rfl
  | some draft =>
    cases hcomplete : record.complete draft <;>
      simp [hcomplete, Except.toOption, pure, Except.pure]

/-- A record is read as what its members fill the draft to. -/
theorem reads_record {record : Record Reader Draft α} {members : List (String × Node)}
    {outcome : Option Draft} (h : IsRecord node members)
    (fills : FillsTo @Reads record.fields record.blank members outcome) :
    Reads (readRecord record) node
      (outcome.bind fun draft => (record.complete draft).toOption) := by
  intro document path
  obtain ⟨head, rfl, rfl⟩ | ⟨head, entries, rfl, hentries⟩ := h
  · exact (toOption_mapError _ _).trans (readEntries_fillsTo .nil fills _)
  · exact (toOption_mapError _ _).trans (readEntries_fillsTo hentries fills _)

/-- How YAML spells a configuration. -/
def spelling : Spelling format Node :=
  { Reads := Reads
    IsText := IsText
    IsNatural := IsNatural
    IsRecord := IsRecord
    reads_map := reads_map
    reads_text := reads_text
    reads_natural := reads_natural
    reads_choice := reads_choice
    reads_record := reads_record }

/-! ## Whole files -/

variable {contents : String} {sections : List Section}

/-- A file that is made of exactly the given sections: its only document is a mapping of these, or
empty if there are none. -/
def IsMadeOf (contents : String) (sections : List Section) : Prop :=
  ∃ document, Document.ofText? contents = some document ∧
    match document.root with
    | some node => spelling.IsMadeOf node sections
    | none => sections = []

/-- A document that is made of valid sections holds what these give, unless there is a section of
the endpoint without a base URL. -/
theorem toOption_config (made : IsMadeOf contents sections) (valid : ValidSections sections) :
    ∃ document, Document.ofText? contents = some document ∧ (config document).toOption =
      if .endpoint none ∈ sections then none else some (Config.ofSections sections) := by
  obtain ⟨document, hdocument, hmade⟩ := made
  refine ⟨document, hdocument, ?_⟩
  obtain ⟨root⟩ := document
  cases root with
  | none =>
    obtain rfl : sections = [] := hmade
    rfl
  | some node => exact Spelling.reads_config hmade valid _ _

/-! ## Writing -/

/-- A field of the section of the log as it is laid out. -/
def loggingLine (entry : LoggingEntry) : String × LineValue :=
  (entry.name,
    match entry with
    | .level text => .quoted text
    | .format form => .quoted form.name)

/-- A section as it is laid out: texts between double quotes, numbers as words. -/
def sectionLines (given : Section) : String × LineRecord :=
  (given.name,
    match given with
    | .endpoint baseUrl => baseUrl.toList.map fun url => ("base_url", .quoted url)
    | .probe timeoutSecs => timeoutSecs.toList.map fun n => ("timeout_secs", .word (toString n))
    | .logging entries => entries.map loggingLine)

/-- A file that is made of the given sections. -/
def write (sections : List Section) : String :=
  .ofList (Yaml.layout (Yaml.recordLines (sections.map sectionLines)))

/-- The names of sections and fields may be keys. -/
theorem isKey_of_mem :
    ∀ name ∈ ["endpoint", "base_url", "probe", "timeout_secs", "logging", "level", "format"],
      IsKey name := by
  decide

/-- The name of a section is a key. -/
theorem isKey_name (given : Section) : IsKey given.name :=
  isKey_of_mem _ (by cases given <;> simp [Section.name])

/-- The line of a field of the log can be written, key and value. -/
theorem isWritten_loggingLine (entry : LoggingEntry) :
    IsKey (loggingLine entry).1 ∧ (loggingLine entry).2.IsWritten :=
  ⟨isKey_of_mem _ (by cases entry <;> simp [loggingLine, LoggingEntry.name]),
    by cases entry <;> trivial⟩

/-- All that is laid out may be read. -/
theorem isWritten_sectionLines (given : Section) : (sectionLines given).2.IsWritten := by
  intro entry hentry
  cases given with
  | endpoint baseUrl =>
    obtain ⟨url, -, rfl⟩ := List.mem_map.mp hentry
    exact ⟨isKey_of_mem _ (by simp), trivial⟩
  | probe timeoutSecs =>
    obtain ⟨n, -, rfl⟩ := List.mem_map.mp hentry
    exact ⟨isKey_of_mem _ (by simp), Yaml.isWord_toString n, Nat.zero_le _⟩
  | logging entries =>
    obtain ⟨found, -, rfl⟩ := List.mem_map.mp hentry
    exact isWritten_loggingLine found

/-- A member with the given name and value. -/
def IsMemberOf {α : Type} (IsValue : α → Node → Prop) (entry : String × α)
    (member : String × Node) : Prop :=
  member.1 = entry.1 ∧ IsValue entry.2 member.2

/-- A mapping of given entries is a record of these. -/
theorem exists_isRecord_of_isMappingOf {α : Type} {IsValue : α → Node → Prop}
    {entries : List (String × α)} (h : Yaml.IsMappingOf IsValue entries node) :
    ∃ members, IsRecord node members ∧ List.Forall₂ (IsMemberOf IsValue) entries members := by
  obtain ⟨head, nodes, rfl, hnodes⟩ := h
  suffices hmembers : ∃ members, List.Forall₂ IsEntry nodes members ∧
      List.Forall₂ (IsMemberOf IsValue) entries members by
    obtain ⟨members, hspelled, hmembers⟩ := hmembers
    exact ⟨members, .inr ⟨head, nodes, rfl, hspelled⟩, hmembers⟩
  induction hnodes with
  | nil => exact ⟨[], .nil, .nil⟩
  | @cons entry node entries nodes hentry _ ih =>
    obtain ⟨members, hspelled, hmembers⟩ := ih
    obtain ⟨⟨head, htag, hkey⟩, hvalue⟩ := hentry
    exact ⟨(entry.1, node.2) :: members, .cons ⟨⟨head, _, htag, hkey⟩, rfl⟩ hspelled,
      .cons ⟨rfl, hvalue⟩ hmembers⟩

/-- The node of a record on lines has its members one by one. -/
theorem exists_isRecord_of_isNode {record : LineRecord} (h : record.IsNode node) :
    ∃ members, IsRecord node members ∧
      List.Forall₂ (IsMemberOf LineValue.IsNode) record members := by
  obtain ⟨rfl, head, -, rfl⟩ | hmapping := h
  · exact ⟨[], .inl ⟨head, rfl, rfl⟩, .nil⟩
  · exact exists_isRecord_of_isMappingOf hmapping

/-- The node of a text in quotes is this text. -/
theorem isText_quoted {text : String} (h : (LineValue.quoted text).IsNode node) :
    IsText node text := by
  obtain ⟨head, htag, rfl⟩ := h
  exact ⟨head, _, htag, rfl⟩

/-- The node of an integer is this integer. -/
theorem isNatural_word {n : Nat} (h : (LineValue.word (toString n)).IsNode node) :
    IsNatural node n := by
  obtain ⟨head, -, rfl⟩ := h
  exact ⟨head, rfl⟩

/-- The lines of a section spell this section. -/
theorem isSection_write (given : Section) {member : String × Node}
    (h : IsMemberOf LineRecord.IsNode (sectionLines given) member) :
    spelling.IsSection given member := by
  obtain ⟨hname, hvalue⟩ := h
  obtain ⟨members, hrecord, hmembers⟩ := exists_isRecord_of_isNode hvalue
  refine ⟨hname, members, hrecord, ?_⟩
  cases given with
  | endpoint baseUrl =>
    exact (List.forall₂_map_left_iff.mp hmembers).imp fun _ _ ⟨hkey, htext⟩ =>
      ⟨hkey, isText_quoted htext⟩
  | probe timeoutSecs =>
    exact (List.forall₂_map_left_iff.mp hmembers).imp fun _ _ ⟨hkey, hnumber⟩ =>
      ⟨hkey, isNatural_word hnumber⟩
  | logging entries =>
    exact (List.forall₂_map_left_iff.mp hmembers).imp fun entry _ ⟨hkey, htext⟩ =>
      ⟨hkey, by cases entry <;> exact isText_quoted htext⟩

/-- What is written is made of the sections. -/
theorem isMadeOf_write (sections : List Section) : IsMadeOf (write sections) sections := by
  have hwritten : ∀ record ∈ sections.map sectionLines, IsKey record.1 ∧ record.2.IsWritten := by
    intro record hrecord
    obtain ⟨given, -, rfl⟩ := List.mem_map.mp hrecord
    exact ⟨isKey_name given, isWritten_sectionLines given⟩
  obtain ⟨⟨root⟩, hdocument, hroot⟩ := Yaml.exists_ofText?_recordLines hwritten
  refine ⟨⟨root⟩, hdocument, ?_⟩
  cases root with
  | none => exact List.map_eq_nil_iff.mp hroot
  | some node =>
    obtain ⟨members, hrecord, hmembers⟩ := exists_isRecord_of_isMappingOf hroot
    exact ⟨members, hrecord,
      (List.forall₂_map_left_iff.mp hmembers).imp fun given _ => isSection_write given⟩

example : write [.probe (some 7), .logging [.level "a b"], .endpoint none] =
    "probe:\n  timeout_secs: 7\nlogging:\n  level: \"a\\U00000020b\"\nendpoint:\n" := by
  decide

end HealthPanel.YamlFile
