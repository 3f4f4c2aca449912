import HealthPanel.Yaml.Node
import HealthPanel.Proofs.Yaml.Scanning
import Mathlib.Data.List.Forall2

/-!
# The node of a layout

A record of records is laid out with one key a line, the keys of the inner records two columns to
the right. Its text is read as the mapping that it lays out: the tokens are taken one after
another, whatever their places are.
-/

namespace HealthPanel.Yaml

/-! ## Readers that take tokens -/

/-- Where tokens of some kinds are left, a reader gives something and leaves tokens of other
kinds. -/
def Takes {α : Type} (reader : NodeReader α) (before after : List TokenKind) (P : α → Prop) :
    Prop :=
  ∀ reading : Reading, reading.tokens.map Token.kind = before →
    ∃ result left, reader reading = some (result, left) ∧
      left.tokens.map Token.kind = after ∧ P result

namespace Takes

open NodeReader (orMissing)

variable {α β : Type} {reader : NodeReader α} {kind : TokenKind}
  {before middle after kinds : List TokenKind} {P : α → Prop} {Q : β → Prop}

/-- A result takes no tokens. -/
theorem pure {a : α} (h : P a) : Takes (Pure.pure a) kinds kinds P :=
  fun reading hreading => ⟨a, reading, rfl, hreading, h⟩

/-- What is taken as one result is taken as any that it is. -/
theorem mono {Q : α → Prop} (read : Takes reader before after P) (weaker : ∀ a, P a → Q a) :
    Takes reader before after Q := by
  intro reading hreading
  obtain ⟨result, left, hread, hleft, hresult⟩ := read reading hreading
  exact ⟨result, left, hread, hleft, weaker result hresult⟩

/-- Two readers take their tokens one after the other. -/
theorem bind {next : α → NodeReader β} (first : Takes reader before middle P)
    (rest : ∀ a, P a → Takes (next a) middle after Q) : Takes (reader >>= next) before after Q := by
  intro reading hreading
  obtain ⟨a, between, hread, hbetween, ha⟩ := first reading hreading
  obtain ⟨b, left, hnext, hleft, hb⟩ := rest a ha between hbetween
  refine ⟨b, left, ?_, hleft, hb⟩
  change (reader reading).bind _ = _
  rw [hread]
  exact hnext

/-- The first of some tokens, and those after it. -/
theorem exists_tokens_eq {reading : Reading} (h : reading.tokens.map Token.kind = kind :: kinds) :
    ∃ mark others, reading.tokens = ⟨kind, mark⟩ :: others ∧ others.map Token.kind = kinds := by
  obtain ⟨first, others, htokens, hfirst, hothers⟩ := List.map_eq_cons_iff.mp h
  exact ⟨first.mark, others, by rw [htokens, ← hfirst], hothers⟩

/-- The next token is seen without taking it. -/
theorem peek {next : Token → NodeReader β}
    (rest : ∀ mark, Takes (next ⟨kind, mark⟩) (kind :: kinds) after Q) :
    Takes (NodeReader.peek >>= next) (kind :: kinds) after Q := by
  intro reading hreading
  obtain ⟨mark, others, htokens, -⟩ := exists_tokens_eq hreading
  have hpeek : NodeReader.peek reading = some (⟨kind, mark⟩, reading) := by
    rw [NodeReader.peek, htokens]
    rfl
  change ∃ result left, (NodeReader.peek reading).bind _ = _ ∧ _
  rw [hpeek]
  exact rest mark reading hreading

/-- The next token is taken. -/
theorem advance {next : Unit → NodeReader β} (rest : Takes (next ()) kinds after Q) :
    Takes (NodeReader.advance >>= next) (kind :: kinds) after Q := by
  intro reading hreading
  obtain ⟨mark, others, htokens, hothers⟩ := exists_tokens_eq hreading
  exact rest { reading with tokens := reading.tokens.drop 1 } (by rw [htokens]; exact hothers)

/-- A reader is told how many tokens there are. -/
theorem bound {next : Nat → NodeReader β}
    (rest : Takes (next (kinds.length + 1)) kinds after Q) :
    Takes (NodeReader.bound >>= next) kinds after Q := by
  intro reading hreading
  have hlength : reading.tokens.length = kinds.length := by rw [← hreading, List.length_map]
  have hrest := rest reading hreading
  rw [← hlength] at hrest
  exact hrest

/-- A node is left out where one of the given tokens comes next. -/
theorem orMissing_of_mem {closing : List TokenKind} (h : kind ∈ closing) (mark : Mark)
    (item : NodeReader Node) :
    Takes (orMissing closing mark item) (kind :: kinds) (kind :: kinds) (· = .missing mark) := by
  refine bind (peek fun _ => pure rfl) fun sees (hsees : sees = closing.contains kind) => ?_
  rw [hsees, List.contains_iff_mem.mpr h]
  exact pure rfl

/-- A node is read where none of the given tokens comes next. -/
theorem orMissing_of_not_mem {closing : List TokenKind} {item : NodeReader Node} {P : Node → Prop}
    (h : kind ∉ closing) (mark : Mark) (read : Takes item (kind :: kinds) after P) :
    Takes (orMissing closing mark item) (kind :: kinds) after P := by
  have hnot : closing.contains kind = false := by simpa using h
  refine bind (peek fun _ => pure rfl) fun sees (hsees : sees = closing.contains kind) => ?_
  rw [hsees, hnot]
  exact read

end Takes

/-! ## Entries -/

/-- The text that stands on the line of a key, and how it is written. -/
def LineValue.scalar : LineValue → Style × String
  | nothing => (.plain, "")
  | word letters => (.plain, letters)
  | quoted text => (.doubleQuoted, text)

/-- A node that holds what stands on the line of a key. -/
def LineValue.IsNode (value : LineValue) (node : Node) : Prop :=
  ∃ head, head.tag = none ∧ node = .scalar head value.scalar.1 value.scalar.2

/-- The tokens of an entry. -/
def memberKinds {α : Type} (kinds : α → List TokenKind) (entry : String × α) : List TokenKind :=
  .key :: .scalar .plain entry.1 :: .value :: kinds entry.2

/-- An entry with the given key and value. -/
def IsEntryOf {α : Type} (IsValue : α → Node → Prop) (entry : String × α) (node : Node × Node) :
    Prop :=
  (LineValue.word entry.1).IsNode node.1 ∧ IsValue entry.2 node.2

/-- A mapping of the given entries. -/
def IsMappingOf {α : Type} (IsValue : α → Node → Prop) (entries : List (String × α))
    (node : Node) : Prop :=
  ∃ head nodes, node = .mapping head nodes ∧ List.Forall₂ (IsEntryOf IsValue) entries nodes

/-- There are at least as many tokens as entries. -/
theorem length_le_length_flatMap_memberKinds {α : Type} (kinds : α → List TokenKind)
    (entries : List (String × α)) :
    entries.length ≤ (entries.flatMap (memberKinds kinds)).length := by
  induction entries with
  | nil => exact Nat.le_refl 0
  | cons entry entries ih =>
    simp only [List.flatMap_cons, List.length_append, memberKinds, List.length_cons]
    omega

namespace NodeReader

variable {site : Site} {kinds rest : List TokenKind}

/-- A scalar is read as that. -/
theorem takes_scalar (depth : Nat) (style : Style) (text : String) :
    Takes (node (depth + 1) site) (.scalar style text :: rest) rest
      fun found => ∃ head, head.tag = none ∧ found = .scalar head style text := by
  intro reading hreading
  obtain ⟨mark, others, htokens, hothers⟩ := Takes.exists_tokens_eq hreading
  obtain ⟨tokens, anchors, handles⟩ := reading
  obtain rfl : tokens = ⟨.scalar style text, mark⟩ :: others := htokens
  exact ⟨.scalar ⟨mark, none, none⟩ style text, ⟨others, anchors, handles⟩, rfl, hothers, _, rfl,
    rfl⟩

/-- The value of an entry is taken where another entry or the end of the mapping follows. -/
def TakesValue (item : NodeReader Node) (kinds : List TokenKind) (IsValue : Node → Prop) : Prop :=
  ∀ mark next more, next ∈ [TokenKind.key, .blockEnd] →
    Takes (orMissing [.key, .value, .blockEnd] mark item) (kinds ++ next :: more) (next :: more)
      IsValue

/-- The entries of a block mapping are read if their keys and values are. -/
theorem takes_blockEntries {α : Type} {valueKinds : α → List TokenKind}
    {IsValue : α → Node → Prop} {item : NodeReader Node} {entries : List (String × α)}
    (readKey : ∀ name more, Takes item (.scalar .plain name :: more) more
      (LineValue.word name).IsNode)
    (readValue : ∀ entry ∈ entries, TakesValue item (valueKinds entry.2) (IsValue entry.2))
    {fuel : Nat} (enough : entries.length < fuel) :
    Takes (blockEntries item fuel) (entries.flatMap (memberKinds valueKinds) ++ .blockEnd :: rest)
      rest fun nodes => List.Forall₂ (IsEntryOf IsValue) entries nodes := by
  induction entries generalizing fuel with
  | nil =>
    obtain ⟨fuel, rfl⟩ := Nat.exists_eq_add_of_lt enough
    exact .peek fun mark => .advance (.pure .nil)
  | cons entry entries ih =>
    obtain ⟨fuel, rfl⟩ : ∃ left, fuel = left + 1 := ⟨fuel - 1, by omega⟩
    rw [List.forall_mem_cons] at readValue
    have ih := ih readValue.2 (Nat.lt_of_succ_lt_succ enough)
    obtain ⟨next, more, hnext, hfollows⟩ : ∃ next more, next ∈ [TokenKind.key, .blockEnd] ∧
        entries.flatMap (memberKinds valueKinds) ++ .blockEnd :: rest = next :: more := by
      cases entries with
      | nil => exact ⟨.blockEnd, rest, by simp, rfl⟩
      | cons second entries => exact ⟨.key, _, by simp, rfl⟩
    rw [List.flatMap_cons, List.append_assoc, hfollows]
    rw [hfollows] at ih
    refine .peek fun mark => .advance ?_
    refine .bind (.orMissing_of_not_mem (by simp) _ (readKey _ _)) fun key hkey => ?_
    refine .bind (.peek fun mark => .advance (readValue.1 _ next more hnext)) fun value hvalue => ?_
    exact .bind ih fun nodes hnodes => .pure (.cons ⟨hkey, hvalue⟩ hnodes)

/-- A block mapping is read if the values of its entries are. -/
theorem takes_mapping {α : Type} {valueKinds : α → List TokenKind} {IsValue : α → Node → Prop}
    {entries : List (String × α)} {depth : Nat} (block : site ≠ .inFlow)
    (readValue : ∀ entry ∈ entries,
      TakesValue (node (depth + 1) .inBlockMapping) (valueKinds entry.2) (IsValue entry.2)) :
    Takes (node (depth + 2) site)
      (.blockMappingStart :: (entries.flatMap (memberKinds valueKinds) ++ .blockEnd :: rest)) rest
      (IsMappingOf IsValue entries) := by
  intro reading hreading
  obtain ⟨mark, others, htokens, hothers⟩ := Takes.exists_tokens_eq hreading
  obtain ⟨tokens, anchors, handles⟩ := reading
  obtain rfl : tokens = ⟨.blockMappingStart, mark⟩ :: others := htokens
  have henough : entries.length < others.length + 1 := by
    have hlength := congrArg List.length hothers
    have hle := length_le_length_flatMap_memberKinds valueKinds entries
    rw [List.length_map, List.length_append] at hlength
    omega
  obtain ⟨nodes, left, hread, hleft, hnodes⟩ := takes_blockEntries
    (fun name more => takes_scalar depth .plain name) readValue henough ⟨others, anchors, handles⟩
    hothers
  have hnode : node (depth + 2) site ⟨⟨.blockMappingStart, mark⟩ :: others, anchors, handles⟩ =
      (blockEntries (node (depth + 1) .inBlockMapping) (others.length + 1)
        ⟨others, anchors, handles⟩).bind fun (nodes, left) =>
          some (.mapping ⟨mark, none, none⟩ nodes, left) := by
    cases site with
    | inFlow => exact absurd rfl block
    | inBlock => rfl
    | inBlockMapping => rfl
  exact ⟨_, left, by rw [hnode, hread, Option.bind_some], hleft, _, nodes, rfl, hnodes⟩

/-- What stands on the line of a key is read. -/
theorem takesValue_line (value : LineValue) (depth : Nat) :
    TakesValue (node (depth + 1) site) value.kinds value.IsNode := by
  intro mark next more hnext
  have hclosing : next ∈ [TokenKind.key, .value, .blockEnd] := by
    simp only [List.mem_cons] at hnext ⊢
    tauto
  cases value with
  | nothing => exact (Takes.orMissing_of_mem hclosing mark _).mono fun _ h => ⟨_, rfl, h⟩
  | word letters => exact .orMissing_of_not_mem (by simp) mark (takes_scalar depth _ letters)
  | quoted text => exact .orMissing_of_not_mem (by simp) mark (takes_scalar depth _ text)

end NodeReader

/-! ## Records of records -/

/-- A record that is laid out, and what stands on the line of each of its keys. -/
abbrev LineRecord := List (String × LineValue)

/-- The lines of a record. -/
def LineRecord.lines (record : LineRecord) : List Line :=
  record.map fun (key, value) => ⟨2, key, value⟩

/-- The lines of a record of records. -/
def recordLines (records : List (String × LineRecord)) : List Line :=
  records.flatMap fun (name, record) => ⟨0, name, .nothing⟩ :: record.lines

/-- The tokens of a record: none if it is empty. -/
def LineRecord.kinds (record : LineRecord) : List TokenKind :=
  if record = [] then []
  else .blockMappingStart :: record.flatMap (memberKinds LineValue.kinds) ++ [.blockEnd]

/-- A node that holds a record, which is nothing at all if the record is empty. -/
def LineRecord.IsNode (record : LineRecord) (node : Node) : Prop :=
  (record = [] ∧ LineValue.nothing.IsNode node) ∨
    IsMappingOf LineValue.IsNode record node

/-- Inside of a record its lines open and close no blocks. -/
theorem lineKinds_inside (record : LineRecord) (lines : List Line) :
    lineKinds [2, 0] (record.lines ++ lines) =
      record.flatMap (memberKinds LineValue.kinds) ++ lineKinds [2, 0] lines := by
  induction record with
  | nil => rfl
  | cons entry record ih =>
    rw [List.flatMap_cons, List.append_assoc, ← ih]
    simp [LineRecord.lines, lineKinds, enter, enterKinds, memberKinds]

/-- Behind a record its block is closed. -/
theorem lineKinds_recordLines (records : List (String × LineRecord)) :
    lineKinds [2, 0] (recordLines records) = .blockEnd :: lineKinds [0] (recordLines records) := by
  cases records with
  | nil => rfl
  | cons record records => simp [recordLines, lineKinds, enter, enterKinds]

/-- The lines of a record are the tokens of a block. -/
theorem lineKinds_record (record : LineRecord) (records : List (String × LineRecord)) :
    lineKinds [0] (record.lines ++ recordLines records) =
      record.kinds ++ lineKinds [0] (recordLines records) := by
  cases record with
  | nil => rfl
  | cons entry record =>
    have hopen : lineKinds [0] (LineRecord.lines (entry :: record) ++ recordLines records) =
        .blockMappingStart ::
          lineKinds [2, 0] (LineRecord.lines (entry :: record) ++ recordLines records) := by
      simp [LineRecord.lines, lineKinds, enter, enterKinds]
    rw [hopen, lineKinds_inside, lineKinds_recordLines]
    simp [LineRecord.kinds]

/-- The tokens of a record of records, after its block is opened. -/
theorem lineKinds_records (records : List (String × LineRecord)) :
    lineKinds [0] (recordLines records) =
      records.flatMap (memberKinds LineRecord.kinds) ++ [.blockEnd, .streamEnd] := by
  induction records with
  | nil => rfl
  | cons record records ih =>
    have hfirst : lineKinds [0] (recordLines (record :: records)) =
        .key :: .scalar .plain record.1 :: .value ::
          lineKinds [0] (record.2.lines ++ recordLines records) := by
      simp [recordLines, lineKinds, enter, enterKinds, LineValue.kinds]
    rw [hfirst, lineKinds_record, ih]
    simp [memberKinds]

namespace NodeReader

/-- A record is read as the value of an entry. -/
theorem takesValue_record (record : LineRecord) (depth : Nat) :
    TakesValue (node (depth + 2) .inBlockMapping) record.kinds record.IsNode := by
  intro mark next more hnext
  by_cases hrecord : record = []
  · rw [LineRecord.kinds, if_pos hrecord]
    exact (takesValue_line .nothing (depth + 1) mark next more hnext).mono fun _ hnode =>
      .inl ⟨hrecord, hnode⟩
  · have hmapping : Takes (node (depth + 2) .inBlockMapping) (.blockMappingStart ::
        (record.flatMap (memberKinds LineValue.kinds) ++ .blockEnd :: next :: more)) (next :: more)
        (IsMappingOf LineValue.IsNode record) :=
      takes_mapping (by decide) fun entry _ => takesValue_line entry.2 depth
    rw [LineRecord.kinds, if_neg hrecord, List.append_assoc, List.cons_append]
    exact .orMissing_of_not_mem (by simp) mark (hmapping.mono fun _ hnode => .inr hnode)

/-- The directives of a document that has none. -/
theorem takes_directives {kind : TokenKind} (none : ∀ directive, kind ≠ .directive directive) :
    Takes (directives false 1) (kind :: kinds) (kind :: kinds) fun _ => True := by
  cases kind with
  | directive directive => exact absurd rfl (none directive)
  | _ => exact .peek fun _ _ hreading => ⟨(), _, rfl, hreading, trivial⟩

/-- The root of a record of records is read up to the end of the text. -/
theorem takes_root (records : List (String × LineRecord)) :
    Takes root (.blockMappingStart ::
        (records.flatMap (memberKinds LineRecord.kinds) ++ [.blockEnd, .streamEnd])) [.streamEnd]
      fun found => ∃ node, found = some node ∧ IsMappingOf LineRecord.IsNode records node := by
  generalize hkinds : records.flatMap (memberKinds LineRecord.kinds) = kinds
  have hnode : Takes (node (kinds.length + 4) .inBlock)
      (.blockMappingStart :: (kinds ++ [.blockEnd, .streamEnd])) [.streamEnd]
      (IsMappingOf LineRecord.IsNode records) := by
    rw [← hkinds]
    exact takes_mapping (by decide) fun entry _ => takesValue_record entry.2 _
  have hdepth : (TokenKind.blockMappingStart :: (kinds ++ [.blockEnd, .streamEnd])).length + 1 =
      kinds.length + 4 := by simp
  refine .peek fun mark => .bind (takes_directives (by simp)) fun _ _ => .bound ?_
  rw [hdepth]
  exact .bind hnode fun found hfound => .pure ⟨found, rfl, hfound⟩

end NodeReader

/-! ## Whole texts -/

/-- What stands on the line of a key may be read if nothing follows. -/
def LineValue.IsWritten (value : LineValue) : Prop :=
  value.Fits 0 []

/-- What can be written fits before lines that stand further left. -/
theorem LineValue.IsWritten.fits {value : LineValue} (written : value.IsWritten) {column : Nat}
    {lines : List Line} (left : firstColumn lines ≤ column) : value.Fits column lines := by
  cases value with
  | nothing => trivial
  | word letters => exact ⟨written.1, left⟩
  | quoted text => trivial

/-- A record with names that may be keys, and whose values may be read. -/
def LineRecord.IsWritten (record : LineRecord) : Prop :=
  ∀ entry ∈ record, IsKey entry.1 ∧ entry.2.IsWritten

/-- A record that can be written is laid out. -/
theorem LineRecord.IsWritten.isLaidOut {record : LineRecord} (written : record.IsWritten)
    {lines : List Line} (laidOut : IsLaidOut lines) (left : firstColumn lines ≤ 2) :
    IsLaidOut (record.lines ++ lines) := by
  induction record with
  | nil => exact laidOut
  | cons entry record ih =>
    rw [LineRecord.IsWritten, List.forall_mem_cons] at written
    have hleft : firstColumn (LineRecord.lines record ++ lines) ≤ 2 := by
      cases record with
      | nil => exact left
      | cons second record => exact Nat.le_refl 2
    exact ⟨written.1.1, written.1.2.fits hleft, ih written.2⟩

/-- Records that can be written are laid out. -/
theorem isLaidOut_recordLines {records : List (String × LineRecord)}
    (written : ∀ record ∈ records, IsKey record.1 ∧ record.2.IsWritten) :
    IsLaidOut (recordLines records) := by
  induction records with
  | nil => trivial
  | cons record records ih =>
    rw [List.forall_mem_cons] at written
    have hleft : firstColumn (recordLines records) ≤ 2 := by
      cases records <;> exact Nat.zero_le 2
    exact ⟨written.1.1, trivial, written.1.2.isLaidOut (ih written.2) hleft⟩

/-- A text is read if its root is read up to the end of its tokens. -/
theorem exists_ofText?_of_takes {text : String} {tokens : List Token} {P : Option Node → Prop}
    (htokens : tokens? text = some tokens)
    (read : Takes NodeReader.root (tokens.map Token.kind) [.streamEnd] P) :
    ∃ document, Document.ofText? text = some document ∧ P document.root := by
  have hfinish : Takes NodeReader.finish [.streamEnd] [.streamEnd] fun _ => True := by
    intro reading hreading
    obtain ⟨mark, others, hfirst, -⟩ := Takes.exists_tokens_eq hreading
    obtain ⟨tokens, anchors, handles⟩ := reading
    obtain rfl : tokens = ⟨.streamEnd, mark⟩ :: others := hfirst
    exact ⟨(), _, rfl, hreading, trivial⟩
  have hall : Takes (do let root ← NodeReader.root; NodeReader.finish; return root)
      (tokens.map Token.kind) [.streamEnd] P :=
    .bind read fun root hroot => .bind hfinish fun _ _ => .pure hroot
  obtain ⟨root, left, hread, -, hroot⟩ := hall ⟨tokens, [], []⟩ rfl
  refine ⟨⟨root⟩, ?_, hroot⟩
  rw [Document.ofText?, htokens]
  exact congrArg (fun read => read.bind fun found => some (Document.mk found.1)) hread

/-- The root of a text that holds a record of records; an empty text may hold none. -/
def IsRootOf (records : List (String × LineRecord)) : Option Node → Prop
  | some node => IsMappingOf LineRecord.IsNode records node
  | none => records = []

/-- A record of records is read from its lines. -/
theorem exists_ofText?_recordLines {records : List (String × LineRecord)}
    (written : ∀ record ∈ records, IsKey record.1 ∧ record.2.IsWritten) :
    ∃ document, Document.ofText? (String.ofList (layout (recordLines records))) = some document ∧
      IsRootOf records document.root := by
  obtain ⟨tokens, htokens, hkinds⟩ := exists_tokens?_layout (isLaidOut_recordLines written)
  refine exists_ofText?_of_takes htokens ?_
  rw [hkinds]
  cases records with
  | nil => exact .peek fun _ => .pure rfl
  | cons first records =>
    have hopen : lineKinds [] (recordLines (first :: records)) =
        .blockMappingStart :: lineKinds [0] (recordLines (first :: records)) := by
      simp [recordLines, lineKinds, enter, enterKinds]
    rw [hopen, lineKinds_records]
    refine (NodeReader.takes_root _).mono ?_
    rintro _ ⟨node, rfl, hnode⟩
    exact hnode

end HealthPanel.Yaml
