import HealthPanel.Proofs.Yaml.Flow.Scanning
import HealthPanel.Proofs.Yaml.Nodes

/-!
# JSON documents that are YAML

An object that JSON writes is a YAML document, and YAML reads the same of it: a mapping with the
same keys in the same order, and of the same values. This holds of objects of texts, natural
numbers and such objects, as long as all texts are printable and the keys are short enough.
-/

namespace HealthPanel.Yaml

open Scan

variable {α : Type} {valueKinds : α → List TokenKind} {IsValue : α → Node → Prop}
  {entries : List (String × α)} {item : NodeReader Node} {first : Bool}

/-! ## Entries -/

/-- An entry with the given key between quotes and the given value. -/
def IsFlowEntryOf (IsValue : α → Node → Prop) (entry : String × α) (node : Node × Node) : Prop :=
  (LineValue.quoted entry.1).IsNode node.1 ∧ IsValue entry.2 node.2

/-- No value has more tokens than all entries. -/
theorem length_kinds_lt_of_mem {entry : String × α} (h : entry ∈ entries) :
    (valueKinds entry.2).length < (flowEntriesKinds valueKinds first entries).length := by
  induction entries generalizing first with
  | nil => cases h
  | cons second entries ih =>
    rw [flowEntriesKinds, List.length_append, List.length_append]
    rcases List.mem_cons.mp h with rfl | hrest
    · simp only [flowEntryKinds, List.length_cons]
      omega
    · exact Nat.lt_add_left _ (Nat.lt_add_left _ (ih hrest))

/-- There are at least as many tokens as entries. -/
theorem length_le_length_flowEntriesKinds :
    entries.length ≤ (flowEntriesKinds valueKinds first entries).length := by
  induction entries generalizing first with
  | nil => exact Nat.le_refl 0
  | cons entry entries ih =>
    have hrest : entries.length ≤ (flowEntriesKinds valueKinds false entries).length := ih
    simp only [flowEntriesKinds, flowEntryKinds, List.length_append, List.length_cons]
    omega

namespace NodeReader

variable {kind : TokenKind} {kinds rest : List TokenKind}

/-- The value of an entry of a flow is taken, whatever follows it. -/
def TakesFlowValue (item : NodeReader Node) (kinds : List TokenKind) (IsValue : Node → Prop) :
    Prop :=
  ∀ mark more,
    Takes (orMissing [.flowEntry, .flowMappingEnd] mark item) (kinds ++ more) more IsValue

/-- Whether the next token closes something is seen without taking it. -/
theorem takes_sees {β : Type} {after closing : List TokenKind} {Q : β → Prop}
    {next : Bool → NodeReader β}
    (read : Takes (next (closing.contains kind)) (kind :: kinds) after Q) :
    Takes (sees closing >>= next) (kind :: kinds) after Q := by
  refine .bind (.peek fun _ => .pure rfl) fun seen (hseen : seen = closing.contains kind) => ?_
  rw [hseen]
  exact read

/-- Before each entry but the first one a comma is taken. -/
theorem takes_separator (first : Bool) :
    Takes (separator first) ((if first then [] else [.flowEntry]) ++ rest) rest fun _ => True := by
  cases first with
  | true => exact .pure trivial
  | false => exact .peek fun _ _ hreading => ⟨(), _, rfl, by simp [hreading], trivial⟩

/-- The value of an entry is read behind its colon. -/
theorem takes_flowValue {P : Node → Prop} (read : TakesFlowValue item kinds P)
    (follows : kinds ++ rest ≠ []) :
    Takes (flowValue .flowMappingEnd item) (.value :: (kinds ++ rest)) rest P := by
  obtain ⟨next, more, hnext⟩ := List.exists_cons_of_ne_nil follows
  have hread (mark : Mark) := read mark rest
  rw [hnext] at hread ⊢
  exact .peek fun _ => .advance (.peek fun _ => hread _)

/-- The entries of a flow mapping are read if their keys and values are. -/
theorem takes_flowEntries
    (readKey : ∀ name more, Takes item (.scalar .doubleQuoted name :: more) more
      (LineValue.quoted name).IsNode)
    (readValue : ∀ entry ∈ entries, TakesFlowValue item (valueKinds entry.2) (IsValue entry.2))
    {fuel : Nat} (enough : entries.length < fuel) (first : Bool) :
    Takes (flowEntries item first fuel)
      (flowEntriesKinds valueKinds first entries ++ .flowMappingEnd :: rest) rest
      fun nodes => List.Forall₂ (IsFlowEntryOf IsValue) entries nodes := by
  induction entries generalizing fuel first with
  | nil =>
    obtain ⟨fuel, rfl⟩ := Nat.exists_eq_add_of_lt enough
    exact takes_sees (.advance (.pure .nil))
  | cons entry entries ih =>
    obtain ⟨fuel, rfl⟩ : ∃ left, fuel = left + 1 := ⟨fuel - 1, by omega⟩
    rw [List.forall_mem_cons] at readValue
    have ih := ih readValue.2 (Nat.lt_of_succ_lt_succ enough) false
    generalize hothers : flowEntriesKinds valueKinds false entries ++ .flowMappingEnd :: rest =
      others at ih
    have hseparator : Takes (separator first)
        ((if first then [] else [.flowEntry]) ++ (flowEntryKinds valueKinds entry ++ others))
        (flowEntryKinds valueKinds entry ++ others) fun _ => True := takes_separator first
    obtain ⟨next, more, hnext, hmore⟩ : ∃ next more,
        [TokenKind.flowMappingEnd].contains next = false ∧
          (if first then [] else [.flowEntry]) ++ (flowEntryKinds valueKinds entry ++ others) =
            next :: more := by
      cases first with
      | true => exact ⟨.key, _, by simp, rfl⟩
      | false => exact ⟨.flowEntry, _, by simp, rfl⟩
    have hkinds : flowEntriesKinds valueKinds first (entry :: entries) ++ .flowMappingEnd :: rest =
        next :: more := by
      rw [flowEntriesKinds, List.append_assoc, List.append_assoc, hothers, hmore]
    have hfollows : valueKinds entry.2 ++ others ≠ [] := by simp [← hothers]
    rw [hkinds]
    rw [hmore] at hseparator
    refine takes_sees ?_
    rw [hnext]
    refine .bind hseparator fun _ _ => .peek fun mark => .advance (.peek fun mark => ?_)
    refine .bind (.orMissing_of_not_mem (by simp) _ (readKey _ _)) fun key hkey => ?_
    refine .bind (takes_flowValue readValue.1 hfollows) fun value hvalue => ?_
    exact .bind ih fun nodes hnodes => .pure (.cons ⟨hkey, hvalue⟩ hnodes)

/-- A flow mapping is read if the values of its entries are. -/
theorem takes_flowMapping {site : Site} {depth : Nat}
    (readValue : ∀ entry ∈ entries,
      TakesFlowValue (node (depth + 1) .inFlow) (valueKinds entry.2) (IsValue entry.2)) :
    Takes (node (depth + 2) site)
      (.flowMappingStart :: (flowEntriesKinds valueKinds true entries ++ .flowMappingEnd :: rest))
      rest fun found => ∃ head nodes, found = .mapping head nodes ∧
        List.Forall₂ (IsFlowEntryOf IsValue) entries nodes := by
  intro reading hreading
  obtain ⟨mark, others, htokens, hothers⟩ := Takes.exists_tokens_eq hreading
  obtain ⟨tokens, anchors, handles⟩ := reading
  obtain rfl : tokens = ⟨.flowMappingStart, mark⟩ :: others := htokens
  have henough : entries.length < others.length + 1 := by
    have hlength := congrArg List.length hothers
    have hle : entries.length ≤ (flowEntriesKinds valueKinds true entries).length :=
      length_le_length_flowEntriesKinds
    rw [List.length_map, List.length_append] at hlength
    omega
  obtain ⟨nodes, left, hread, hleft, hnodes⟩ := takes_flowEntries
    (fun name more => takes_scalar depth .doubleQuoted name) readValue henough true
    ⟨others, anchors, handles⟩ hothers
  have hnode : node (depth + 2) site ⟨⟨.flowMappingStart, mark⟩ :: others, anchors, handles⟩ =
      (flowEntries (node (depth + 1) .inFlow) true (others.length + 1)
        ⟨others, anchors, handles⟩).bind fun (nodes, left) =>
          some (.mapping ⟨mark, none, none⟩ nodes, left) := rfl
  exact ⟨_, left, by rw [hnode, hread, Option.bind_some], hleft, _, nodes, rfl, hnodes⟩

/-- The root of a text that is a flow mapping is read up to the end of the text. -/
theorem takes_flowRoot
    (readValue : ∀ entry ∈ entries, ∀ depth, (valueKinds entry.2).length ≤ depth →
      TakesFlowValue (node depth .inFlow) (valueKinds entry.2) (IsValue entry.2)) :
    Takes root
      (.flowMappingStart :: (flowEntriesKinds valueKinds true entries ++
        [.flowMappingEnd, .streamEnd])) [.streamEnd]
      fun found => ∃ head nodes, found = some (.mapping head nodes) ∧
        List.Forall₂ (IsFlowEntryOf IsValue) entries nodes := by
  have hnode : Takes (node ((flowEntriesKinds valueKinds true entries).length + 4) .inBlock)
      (.flowMappingStart :: (flowEntriesKinds valueKinds true entries ++
        [.flowMappingEnd, .streamEnd])) [.streamEnd] _ :=
    takes_flowMapping fun entry hentry =>
      readValue entry hentry _ ((length_kinds_lt_of_mem hentry).le.trans (Nat.le_add_right _ 3))
  refine .peek fun mark => .bind (takes_directives (by simp)) fun _ _ => .bound ?_
  simp only [List.length_cons, List.length_append, List.length_nil]
  refine .bind hnode fun found hfound => .pure ?_
  obtain ⟨head, nodes, rfl, hnodes⟩ := hfound
  exact ⟨head, nodes, rfl, hnodes⟩

end NodeReader

/-! ## Values -/

/-- A text that is read inside of a flow, by its tokens, as a node of some kind. -/
structure IsReadAs (text : List Char) (kinds : List TokenKind) (IsValue : Node → Prop) : Prop where
  allowed : ∀ c ∈ text, isAllowed c
  scanned : IsScanned text kinds
  taken : ∀ depth, kinds.length ≤ depth →
    NodeReader.TakesFlowValue (NodeReader.node depth .inFlow) kinds IsValue

/-- What is read as one node is read as any that it is. -/
theorem IsReadAs.mono {text : List Char} {kinds : List TokenKind} {P Q : Node → Prop}
    (h : IsReadAs text kinds P) (weaker : ∀ node, P node → Q node) : IsReadAs text kinds Q :=
  ⟨h.allowed, h.scanned, fun depth enough mark more => (h.taken depth enough mark more).mono weaker⟩

/-- A scalar is taken as a value. -/
theorem takesFlowValue_scalar {style : Style} {text : String} {depth : Nat}
    (enough : [TokenKind.scalar style text].length ≤ depth) :
    NodeReader.TakesFlowValue (NodeReader.node depth .inFlow) [.scalar style text]
      fun found => ∃ head, head.tag = none ∧ found = .scalar head style text := by
  intro mark more
  obtain ⟨depth, rfl⟩ := Nat.exists_eq_add_of_le' enough
  exact .orMissing_of_not_mem (by simp) mark (NodeReader.takes_scalar depth style text)

/-- All characters of a text in quotes are allowed, if those of the text are printable. -/
theorem isAllowed_quoted {text : String} (printable : ∀ c ∈ text.toList, IsPrintable c) :
    ∀ c ∈ (Json.quoted text).toList, isAllowed c := by
  intro c hc
  simp only [toList_quoted, List.mem_cons, List.mem_append, List.mem_flatMap, List.not_mem_nil,
    or_false] at hc
  rcases hc with rfl | ⟨d, hd, hc⟩ | rfl
  · decide
  · rw [(printable d hd).escape_eq] at hc
    split at hc
    case isTrue =>
      simp only [List.mem_cons, List.not_mem_nil, or_false] at hc
      rcases hc with rfl | rfl
      · decide
      · exact (printable c hd).isAllowed
    case isFalse =>
      rw [List.mem_singleton] at hc
      exact hc ▸ (printable d hd).isAllowed
  · decide

/-- A text in quotes is read as a scalar in quotes. -/
theorem isReadAs_quoted {text : String} (printable : ∀ c ∈ text.toList, IsPrintable c) :
    IsReadAs (Json.quoted text).toList [.scalar .doubleQuoted text]
      (LineValue.quoted text).IsNode where
  allowed := isAllowed_quoted printable
  scanned := isScanned_quoted printable
  taken _ := takesFlowValue_scalar

/-- A word is read as a plain scalar. -/
theorem isReadAs_word {letters : String} (isWord : IsWord letters.toList) :
    IsReadAs letters.toList [.scalar .plain letters] (LineValue.word letters).IsNode where
  allowed c hc := isAllowed_of_isWordChar (isWord.2 c hc)
  scanned := by simpa using isScanned_word isWord
  taken _ := takesFlowValue_scalar

/-- The characters of entries may stand in a text, if those of their values may. -/
theorem isAllowed_entriesChars {write : α → List Char} (keys : ∀ entry ∈ entries, IsFlowKey entry.1)
    (values : ∀ entry ∈ entries, ∀ c ∈ write entry.2, isAllowed c) :
    ∀ c ∈ entriesChars write first entries, isAllowed c := by
  induction entries generalizing first with
  | nil => exact fun _ hc => nomatch hc
  | cons entry entries ih =>
    rw [List.forall_mem_cons] at keys values
    intro c hc
    simp only [entriesChars, entryChars, List.mem_append, List.mem_cons] at hc
    rcases hc with hc | (hc | rfl | hc) | hc
    · cases first with
      | true => cases hc
      | false => exact List.mem_singleton.mp hc ▸ by decide
    · exact isAllowed_quoted keys.1.printable c hc
    · decide
    · exact values.1 c hc
    · exact ih keys.2 values.2 c hc

/-- A mapping is read if its values are. -/
theorem isReadAs_mapping {write : α → List Char} (keys : ∀ entry ∈ entries, IsFlowKey entry.1)
    (values : ∀ entry ∈ entries,
      IsReadAs (write entry.2) (valueKinds entry.2) (IsValue entry.2)) :
    IsReadAs ('\x7b' :: (entriesChars write true entries ++ ['\x7d']))
      (.flowMappingStart :: (flowEntriesKinds valueKinds true entries ++ [.flowMappingEnd]))
      fun found => ∃ head nodes, found = .mapping head nodes ∧
        List.Forall₂ (IsFlowEntryOf IsValue) entries nodes where
  allowed := isAllowed_mapping
    (isAllowed_entriesChars keys fun entry hentry => (values entry hentry).allowed)
  scanned := isScanned_mapping keys fun entry hentry => (values entry hentry).scanned
  taken depth enough := by
    intro mark more
    simp only [List.length_cons, List.length_append, List.length_nil] at enough
    obtain ⟨depth, rfl⟩ : ∃ less, depth = less + 2 := ⟨depth - 2, by omega⟩
    rw [List.cons_append, List.append_assoc]
    refine .orMissing_of_not_mem (by simp) mark ?_
    refine NodeReader.takes_flowMapping fun entry hentry => (values entry hentry).taken _ ?_
    have hlt : (valueKinds entry.2).length < (flowEntriesKinds valueKinds true entries).length :=
      length_kinds_lt_of_mem hentry
    omega

/-! ## Documents -/

/-- Documents that YAML reads as JSON writes them: texts of printable characters, natural numbers,
and objects of such documents under keys that are short enough. -/
inductive IsFlow : Json.Value → Prop
  | text {text : String} (printable : ∀ c ∈ text.toList, IsPrintable c) : IsFlow (.text text)
  | natural (n : Nat) : IsFlow (.number (.integer n))
  | object {members : List (String × Json.Value)} (keys : ∀ member ∈ members, IsFlowKey member.1)
    (values : ∀ member ∈ members, IsFlow member.2) : IsFlow (.object members)

/-- A node that holds what a document holds: the same text, the digits of the same number, or the
same keys and values in the same order. -/
inductive IsNodeOf : Json.Value → Node → Prop
  | text {text : String} {node : Node} (same : (LineValue.quoted text).IsNode node) :
    IsNodeOf (.text text) node
  | natural {n : Nat} {node : Node} (same : (LineValue.word (toString n)).IsNode node) :
    IsNodeOf (.number (.integer n)) node
  | object {members : List (String × Json.Value)} {head : Head} {entries : List (Node × Node)}
    (keys : List.Forall₂ (fun name key => (LineValue.quoted name).IsNode key)
      (members.map Prod.fst) (entries.map Prod.fst))
    (values : List.Forall₂ IsNodeOf (members.map Prod.snd) (entries.map Prod.snd)) :
    IsNodeOf (.object members) (.mapping head entries)

/-- The characters of a document. -/
def documentChars (value : Json.Value) : List Char :=
  value.compact.toList

/-- Members are written as entries. -/
theorem toList_compactMembers (members : List (String × Json.Value)) :
    (Json.Value.compactMembers members).toList = entriesChars documentChars true members := by
  induction members with
  | nil => rfl
  | cons first members ih =>
    cases members with
    | nil => simp [Json.Value.compactMembers, entriesChars, entryChars, documentChars]
    | cons second members =>
      have hrest : entriesChars documentChars false (second :: members) =
          ',' :: entriesChars documentChars true (second :: members) := rfl
      rw [entriesChars, hrest, ← ih]
      simp [Json.Value.compactMembers, entryChars, documentChars]

/-- An object is written as its entries in braces. -/
theorem documentChars_object (members : List (String × Json.Value)) :
    documentChars (.object members) =
      '\x7b' :: (entriesChars documentChars true members ++ ['\x7d']) := by
  simp [documentChars, Json.Value.compact, toList_compactMembers]

variable {members : List (String × Json.Value)}

/-- A mapping with the keys and the values of an object holds what the object holds. -/
theorem isNodeOf_object {nodes : List (Node × Node)} (head : Head)
    (h : List.Forall₂ (IsFlowEntryOf IsNodeOf) members nodes) :
    IsNodeOf (.object members) (.mapping head nodes) := by
  refine .object ?_ ?_
  · rw [List.forall₂_map_left_iff, List.forall₂_map_right_iff]
    exact h.imp fun _ _ hentry => hentry.1
  · rw [List.forall₂_map_left_iff, List.forall₂_map_right_iff]
    exact h.imp fun _ _ hentry => hentry.2

/-- If all values of an object are read, each by some tokens, these may be named for all values. -/
theorem exists_kinds_of_values
    (h : ∀ member ∈ members, ∃ kinds,
      IsReadAs (documentChars member.2) kinds (IsNodeOf member.2)) :
    ∃ kinds : Json.Value → List TokenKind, ∀ member ∈ members,
      IsReadAs (documentChars member.2) (kinds member.2) (IsNodeOf member.2) := by
  have hvalues : ∀ value ∈ members.map Prod.snd, ∃ kinds,
      IsReadAs (documentChars value) kinds (IsNodeOf value) := List.forall_mem_map.mpr h
  choose! kinds hkinds using hvalues
  exact ⟨kinds, List.forall_mem_map.mp hkinds⟩

/-- Every such document is read inside of a flow. -/
theorem IsFlow.exists_isReadAs {value : Json.Value} (h : IsFlow value) :
    ∃ kinds, IsReadAs (documentChars value) kinds (IsNodeOf value) := by
  induction h with
  | text printable => exact ⟨_, (isReadAs_quoted printable).mono fun _ => .text⟩
  | natural n => exact ⟨_, (isReadAs_word (isWord_toString n)).mono fun _ => .natural⟩
  | object keys _ ih =>
    obtain ⟨kinds, hvalues⟩ := exists_kinds_of_values ih
    rw [documentChars_object]
    refine ⟨_, (isReadAs_mapping keys hvalues).mono ?_⟩
    rintro _ ⟨head, nodes, rfl, hnodes⟩
    exact isNodeOf_object head hnodes

/-- What JSON writes of an object is a document of YAML that holds the same. -/
theorem exists_ofText?_compact (keys : ∀ member ∈ members, IsFlowKey member.1)
    (values : ∀ member ∈ members, IsFlow member.2) :
    ∃ document node, Document.ofText? (Json.Value.object members).compact = some document ∧
      document.root = some node ∧ IsNodeOf (.object members) node := by
  obtain ⟨kinds, hvalues⟩ :=
    exists_kinds_of_values fun member hmember => (values member hmember).exists_isReadAs
  obtain ⟨tokens, htokens, htokenKinds⟩ := exists_tokens?_mapping keys
    (fun member hmember => (hvalues member hmember).scanned)
    (isAllowed_entriesChars keys fun member hmember => (hvalues member hmember).allowed)
  have hroot := NodeReader.takes_flowRoot fun member hmember => (hvalues member hmember).taken
  rw [← htokenKinds] at hroot
  rw [← documentChars_object, documentChars, String.ofList_toList] at htokens
  obtain ⟨document, hdocument, head, nodes, hnode, hnodes⟩ := exists_ofText?_of_takes htokens hroot
  exact ⟨document, _, hdocument, hnode, isNodeOf_object head hnodes⟩

end HealthPanel.Yaml
