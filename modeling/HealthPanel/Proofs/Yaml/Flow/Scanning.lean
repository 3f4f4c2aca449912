import HealthPanel.Proofs.Json.Writing
import HealthPanel.Proofs.Yaml.Flow.Scalars
import HealthPanel.Proofs.Yaml.Scanning

/-!
# The tokens of a JSON document

An object that JSON writes on one line is a flow mapping of YAML. Its tokens follow from those of
its values: in front of each value stand the key between its quotes and a colon. At the colon the
key gets its token, since it is not too long for one and stands on the same line.
-/

namespace HealthPanel.Yaml

namespace Scan

variable {scan after : Scan} {c : Char} {text rest : List Char} {kinds : List TokenKind}
  {flows outer : List (Option PossibleKey)} {allowed : Bool}

/-! ## Inside flows -/

/-- There need not be a key where one may have started. -/
def IsOptional (key : Option PossibleKey) : Prop :=
  ∀ found ∈ key, found.required = false

/-- No key is required where there is none. -/
theorem isOptional_none : IsOptional none := by
  rintro found ⟨⟩

/-- A scan outside of all blocks, that has read tokens of some kinds and stands before a text. -/
structure Stands (scan : Scan) (text : List Char) (kinds : List TokenKind)
    (flows : List (Option PossibleKey)) (allowed : Bool) : Prop where
  rest : scan.cursor.rest = text
  tokens : kindsOf scan.tokens = kinds
  indents : scan.indents = []
  flowKeys : scan.flowKeys = flows
  optional : IsOptional scan.blockKey
  keyAllowed : scan.keyAllowed = allowed

/-- A scan goes on as another one does, after a number of tokens at most. -/
def GoesOn (scan after : Scan) (count : Nat) : Prop :=
  ∃ steps ≤ count, ∀ fuel, run? (fuel + steps) scan = run? fuel after

/-- The scanner goes on without a step. -/
theorem GoesOn.refl (scan : Scan) : GoesOn scan scan 0 :=
  ⟨0, Nat.le_refl 0, fun _ => rfl⟩

/-- The scanner goes on from where it has come to. -/
theorem GoesOn.trans {last : Scan} {m n : Nat} (first : GoesOn scan after m)
    (second : GoesOn after last n) : GoesOn scan last (m + n) := by
  obtain ⟨i, hi, hfirst⟩ := first
  obtain ⟨j, hj, hsecond⟩ := second
  refine ⟨i + j, Nat.add_le_add hi hj, fun fuel => ?_⟩
  calc
    run? (fuel + (i + j)) scan = run? (fuel + j + i) scan := by rw [Nat.add_comm i, Nat.add_assoc]
    _ = run? (fuel + j) after := hfirst _
    _ = run? fuel last := hsecond fuel

/-- The scanner may take more steps than it needs. -/
theorem GoesOn.mono {m n : Nat} (h : GoesOn scan after m) (le : m ≤ n) : GoesOn scan after n := by
  obtain ⟨steps, hsteps, hrun⟩ := h
  exact ⟨steps, hsteps.trans le, hrun⟩

/-- Where a key may have started but need not, it is kept or forgotten. -/
theorem IsOptional.exists_freshen? {key : Option PossibleKey} (h : IsOptional key) (mark : Mark) :
    ∃ kept, freshen? mark key = some kept ∧ IsOptional kept := by
  cases key with
  | none => exact ⟨none, rfl, h⟩
  | some key =>
    have hrequired := h key rfl
    by_cases hstale : isStale mark key
    · exact ⟨none, by simp [freshen?, hstale, hrequired], isOptional_none⟩
    · exact ⟨some key, by simp [freshen?, hstale], h⟩

/-- Where no key may have started in the outer flows, nothing is forgotten there. -/
theorem mapM_freshen? (mark : Mark) (unset : ∀ key ∈ outer, key = none) :
    outer.mapM (freshen? mark) = some outer := by
  induction outer with
  | nil => rfl
  | cons key outer ih =>
    obtain ⟨rfl, hrest⟩ := List.forall_mem_cons.mp unset
    simp [ih hrest, freshen?]

/-- Where no key is possible, none goes stale. -/
theorem mapM_freshen?_cons (mark : Mark) (unset : ∀ key ∈ outer, key = none) :
    (none :: outer).mapM (freshen? mark) = some (none :: outer) :=
  mapM_freshen? mark (List.forall_mem_cons.mpr ⟨rfl, unset⟩)

/-- An optional key is not required. -/
theorem IsOptional.any_eq_false {key : Option PossibleKey} (h : IsOptional key) :
    key.any (·.required) = false := by
  cases key with
  | none => rfl
  | some key => exact h key rfl

/-- Where a token starts, or the text ends, only a key that may have started outside of all flows
can be forgotten before it is read. -/
theorem Stands.exists_run?_eq (h : Stands scan text kinds flows allowed) (starts : StartsToken text)
    (fresh : flows.mapM (freshen? scan.cursor.mark) = some flows) :
    ∃ kept, IsOptional kept ∧ ∀ fuel, run? (fuel + 1) scan =
      let next : Scan := { scan with blockKey := kept }
      match text.head? with
      | none => do return (← next.finish?).tokens
      | some c => (next.token? c).bind (run? fuel) := by
  obtain ⟨kept, hkept, hoptional⟩ := h.optional.exists_freshen? scan.cursor.mark
  refine ⟨kept, hoptional, fun fuel => ?_⟩
  have hnext : scan.toNextToken = scan := by
    have hskip : scan.toNextToken = { scan with cursor := ⟨text, scan.cursor.mark.right 0⟩ } :=
      toNextToken_of_blanks starts 0 h.rest
    rw [hskip, ← h.rest]
    rfl
  have hfresh : scan.freshenKeys? = some { scan with blockKey := kept } := by
    simp [freshenKeys?, hkept, h.flowKeys, fresh]
  have hunindent : ({ scan with blockKey := kept } : Scan).unindent =
      { scan with blockKey := kept } := by
    simp [unindent, h.indents, closeBlocks]
  have hpeek : scan.cursor.peek? 0 = text.head? := by simp [Cursor.peek?, h.rest]
  rw [run?, hnext, hfresh]
  cases text <;> simp [hunindent, hpeek]

/-- A token is read, of the same scan but for a key that may have started outside of all flows. -/
theorem Stands.goesOn {P : Scan → Prop} (h : Stands scan (c :: text) kinds flows allowed)
    (starts : StartsToken (c :: text))
    (fresh : flows.mapM (freshen? scan.cursor.mark) = some flows)
    (read : ∀ kept, IsOptional kept →
      ∃ after, ({ scan with blockKey := kept } : Scan).token? c = some after ∧ P after) :
    ∃ after, GoesOn scan after 1 ∧ P after := by
  obtain ⟨kept, hoptional, hrun⟩ := h.exists_run?_eq starts fresh
  obtain ⟨after, htoken, hafter⟩ := read kept hoptional
  refine ⟨after, ⟨1, Nat.le_refl 1, fun fuel => ?_⟩, hafter⟩
  rw [hrun]
  simp only [List.head?_cons, htoken, Option.bind_some]

/-! ## Single tokens -/

/-- The scanner stands behind a token of one character. -/
theorem Stands.take (h : Stands scan (c :: text) kinds flows allowed) (kind : TokenKind)
    (keyAllowed : Bool) :
    Stands (scan.take kind 1 keyAllowed) text (kinds ++ [kind]) flows keyAllowed :=
  ⟨by simp [Scan.take, Cursor.skip, h.rest], by simp [Scan.take, add, h.tokens], h.indents,
    h.flowKeys, h.optional, rfl⟩

/-- The keys that are possible in flow style say nothing of where the scanner stands. -/
theorem Stands.withFlows (h : Stands scan text kinds flows allowed)
    (others : List (Option PossibleKey)) :
    Stands { scan with flowKeys := others } text kinds others allowed :=
  ⟨h.rest, h.tokens, h.indents, rfl, h.optional, h.keyAllowed⟩

/-- The key that is possible in block style says nothing of where the scanner stands. -/
theorem Stands.withBlockKey (h : Stands scan text kinds flows allowed) {key : Option PossibleKey}
    (optional : IsOptional key) :
    Stands { scan with blockKey := key } text kinds flows allowed :=
  ⟨h.rest, h.tokens, h.indents, h.flowKeys, optional, h.keyAllowed⟩

/-- Where a sign of a flow stands, no document is delimited and no plain scalar starts. -/
theorem Stands.sees (h : Stands scan (c :: text) kinds flows allowed)
    (sign : c ∈ ['\x7b', '\x7d', ',', ':', '"']) :
    scan.cursor.seesThree '-' = false ∧ scan.cursor.seesThree '.' = false := by
  simp only [List.mem_cons, List.not_mem_nil, or_false] at sign
  rcases sign with rfl | rfl | rfl | rfl | rfl <;> simp [Cursor.seesThree, h.rest]

/-- The brace that opens a flow is read where no key may start. -/
theorem Stands.token?_open (h : Stands scan ('\x7b' :: text) kinds flows false) :
    ∃ after, scan.token? '\x7b' = some after ∧
      Stands after text (kinds ++ [.flowMappingStart]) (none :: flows) true := by
  have hsees := h.sees (by simp)
  have htoken : scan.token? '\x7b' =
      some (({ scan with flowKeys := none :: flows } : Scan).take .flowMappingStart 1 true) := by
    simp [token?, hsees, startsPlain, openFlow?, markKey?, h.keyAllowed, h.flowKeys]
  exact ⟨_, htoken, (h.withFlows _).take _ _⟩

/-- The brace that opens the outermost flow is read, and a key may have started there. -/
theorem Stands.token?_outermost (h : Stands scan ('\x7b' :: text) kinds [] true) :
    ∃ after, scan.token? '\x7b' = some after ∧
      Stands after text (kinds ++ [.flowMappingStart]) [none] true := by
  have hsees := h.sees (by simp)
  have hkey : IsOptional (some ⟨scan.cursor.mark, scan.tokens.size, false⟩) := by
    rintro key ⟨⟩
    rfl
  have htoken : scan.token? '\x7b' = some (({ scan with
      blockKey := some ⟨scan.cursor.mark, scan.tokens.size, false⟩
      flowKeys := [none] } : Scan).take .flowMappingStart 1 true) := by
    simp [token?, hsees, startsPlain, openFlow?, markKey?, h.keyAllowed, h.flowKeys, dropKey?,
      possibleKey, setPossibleKey, h.optional.any_eq_false, h.indents, inFlow]
  exact ⟨_, htoken, ((h.withBlockKey hkey).withFlows _).take _ _⟩

/-- The brace that closes a flow is read where no key has started. -/
theorem Stands.token?_close (h : Stands scan ('\x7d' :: text) kinds (none :: outer) allowed) :
    ∃ after, scan.token? '\x7d' = some after ∧
      Stands after text (kinds ++ [.flowMappingEnd]) outer false := by
  have hsees := h.sees (by simp)
  have htoken : scan.token? '\x7d' =
      some (({ scan with flowKeys := outer } : Scan).take .flowMappingEnd 1 false) := by
    simp [token?, hsees, startsPlain, closeFlow?, dropKey?, possibleKey, setPossibleKey, h.flowKeys]
  exact ⟨_, htoken, (h.withFlows _).take _ _⟩

/-- The comma between two entries is read where no key has started. -/
theorem Stands.token?_comma (h : Stands scan (',' :: text) kinds (none :: outer) allowed) :
    ∃ after, scan.token? ',' = some after ∧
      Stands after text (kinds ++ [.flowEntry]) (none :: outer) true := by
  have hsees := h.sees (by simp)
  have htoken : scan.token? ',' =
      some (({ scan with flowKeys := none :: outer } : Scan).take .flowEntry 1 true) := by
    simp [token?, hsees, startsPlain, comma?, dropKey?, possibleKey, setPossibleKey, h.flowKeys]
  exact ⟨_, htoken, (h.withFlows _).take _ _⟩

/-- The scanner stands behind a token that it has read. -/
theorem Stands.put (h : Stands scan text kinds flows allowed) (kind : TokenKind) (cursor : Cursor)
    (keyAllowed : Bool) :
    Stands (scan.put kind cursor keyAllowed) cursor.rest (kinds ++ [kind]) flows keyAllowed :=
  ⟨rfl, by simp [Scan.put, add, h.tokens], h.indents, h.flowKeys, h.optional, rfl⟩

/-- A quote is read by the rules of quoted scalars. -/
theorem Stands.token?_eq_quoted? (h : Stands scan ('"' :: text) kinds flows allowed) :
    scan.token? '"' = scan.quoted? false := by
  have hsees := h.sees (by simp)
  simp [token?, hsees, startsPlain]

/-- What JSON writes of a text begins with a quote. -/
theorem Stands.exists_quote {value : String}
    (h : Stands scan ((Json.quoted value).toList ++ rest) kinds flows allowed) :
    ∃ text, Stands scan ('"' :: text) kinds flows allowed := by
  rw [toList_quoted, List.cons_append] at h
  exact ⟨_, h⟩

/-- A text is read where no key may start. -/
theorem Stands.token?_quoted {value : String} (printable : ∀ c ∈ value.toList, IsPrintable c)
    (h : Stands scan ((Json.quoted value).toList ++ rest) kinds flows false) :
    ∃ after, scan.token? '"' = some after ∧
      Stands after rest (kinds ++ [.scalar .doubleQuoted value]) flows false := by
  have hread := readQuoted?_quoted printable rest scan.cursor.mark
  rw [← h.rest] at hread
  obtain ⟨_, hquote⟩ := h.exists_quote
  have htoken : scan.token? '"' = some (scan.put (.scalar .doubleQuoted value)
      ⟨rest, scan.cursor.mark.right (Json.quoted value).toList.length⟩ false) := by
    rw [hquote.token?_eq_quoted?]
    simp [quoted?, markKey?, h.keyAllowed, hread]
  exact ⟨_, htoken, h.put _ _ _⟩

/-- A word is read where no key may start, up to the sign of the flow behind it. -/
theorem Stands.token?_word {word : List Char} (isWord : IsWord word) (sign : c = ',' ∨ c = '\x7d')
    (h : Stands scan (word ++ c :: rest) kinds (none :: outer) false) {first : Char}
    (head : (word ++ c :: rest).head? = some first) :
    ∃ after, scan.token? first = some after ∧
      Stands after (c :: rest) (kinds ++ [.scalar .plain (String.ofList word)]) (none :: outer)
        false := by
  have hread : readPlain? true scan.innerColumn ⟨word ++ c :: rest, scan.cursor.mark⟩ = _ :=
    readPlain?_flow isWord sign _
  rw [← h.rest] at hread head
  have hflow : scan.inFlow = true := by simp [inFlow, h.flowKeys]
  have htoken : scan.token? first = some (scan.put (.scalar .plain (String.ofList word))
      ⟨c :: rest, scan.cursor.mark.right word.length⟩ false) := by
    rw [token?_eq_plain? isWord h.rest head]
    simp [plain?, markKey?, h.keyAllowed, hflow, hread]
  exact ⟨_, htoken, h.put _ _ _⟩

/-- A scan behind a text that is a key as soon as a colon follows. -/
structure AwaitsColon (scan : Scan) (text : List Char) (kinds : List TokenKind) (name : String)
    (outer : List (Option PossibleKey)) (key : PossibleKey) : Prop where
  stands : Stands scan text (kinds ++ [.scalar .doubleQuoted name]) (some key :: outer) false
  fresh : isStale scan.cursor.mark key = false
  tokens : ∃ front, scan.tokens = front.push ⟨.scalar .doubleQuoted name, key.mark⟩ ∧
    kindsOf front = kinds ∧ front.size = key.tokensBefore

/-- Whether a colon is awaited does not depend on the key that is possible in block style. -/
theorem AwaitsColon.withBlockKey {name : String} {kept : Option PossibleKey}
    {found : PossibleKey} (h : AwaitsColon scan text kinds name outer found)
    (optional : IsOptional kept) :
    AwaitsColon { scan with blockKey := kept } text kinds name outer found :=
  ⟨h.stands.withBlockKey optional, h.fresh, h.tokens⟩

/-- A text that is not too long for a key is read where a key may start. -/
theorem Stands.token?_key {name : String} (printable : ∀ c ∈ name.toList, IsPrintable c)
    (short : (Json.quoted name).toList.length ≤ 1024)
    (h : Stands scan ((Json.quoted name).toList ++ rest) kinds (none :: outer) true) :
    ∃ after, scan.token? '"' = some after ∧ ∃ key, AwaitsColon after rest kinds name outer key := by
  have hread := readQuoted?_quoted printable rest scan.cursor.mark
  rw [← h.rest] at hread
  obtain ⟨_, hquote⟩ := h.exists_quote
  let key : PossibleKey := ⟨scan.cursor.mark, scan.tokens.size, false⟩
  have htoken : scan.token? '"' = some (({ scan with flowKeys := some key :: outer } : Scan).put
      (.scalar .doubleQuoted name)
      ⟨rest, scan.cursor.mark.right (Json.quoted name).toList.length⟩ false) := by
    rw [hquote.token?_eq_quoted?]
    simp [quoted?, markKey?, h.keyAllowed, hread, dropKey?, possibleKey, setPossibleKey, h.flowKeys,
      inFlow, key]
  have hfresh : isStale (scan.cursor.mark.right (Json.quoted name).toList.length) key = false := by
    have hindex : ¬scan.cursor.mark.index + 1024 <
        scan.cursor.mark.index + (Json.quoted name).toList.length := by omega
    simp [isStale, Mark.right, key, hindex]
  exact ⟨_, htoken, key, (h.withFlows _).put _ _ _, hfresh, scan.tokens, rfl, h.tokens, rfl⟩

/-- At the colon the key gets its token. -/
theorem AwaitsColon.token?_colon {name : String} {key : PossibleKey}
    (h : AwaitsColon scan (':' :: rest) kinds name outer key) :
    ∃ after, scan.token? ':' = some after ∧
      Stands after rest (kinds ++ [.key, .scalar .doubleQuoted name, .value]) (none :: outer)
        false := by
  obtain ⟨front, htokens, hkinds, hsize⟩ := h.tokens
  have hsees := h.stands.sees (by simp)
  have hinsert : scan.tokens.insertIdxIfInBounds key.tokensBefore ⟨.key, key.mark⟩ =
      front ++ #[⟨.key, key.mark⟩, ⟨.scalar .doubleQuoted name, key.mark⟩] := by
    rw [htokens, ← hsize]
    exact insertIdxIfInBounds_append front #[⟨.scalar .doubleQuoted name, key.mark⟩] _
  let inserted : Scan := { scan with
    tokens := front ++ #[⟨.key, key.mark⟩, ⟨.scalar .doubleQuoted name, key.mark⟩]
    flowKeys := none :: outer }
  have htoken : scan.token? ':' = some (inserted.take .value 1 false) := by
    simp [token?, hsees, value?, possibleKey, h.stands.flowKeys, hinsert, openBlock, inFlow,
      setPossibleKey, inserted]
  have hstands : Stands inserted (':' :: rest) (kinds ++ [.key, .scalar .doubleQuoted name])
      (none :: outer) false :=
    ⟨h.stands.rest, by simp [inserted, hkinds], h.stands.indents, rfl, h.stands.optional,
      h.stands.keyAllowed⟩
  have hafter := hstands.take .value false
  rw [List.append_assoc] at hafter
  exact ⟨_, htoken, hafter⟩

/-- A sign starts a token. -/
theorem startsToken_sign (sign : c ∈ ['\x7b', '\x7d', ',', ':', '"']) :
    StartsToken (c :: text) := by
  rintro d ⟨⟩
  simp only [List.mem_cons, List.not_mem_nil, or_false] at sign
  rcases sign with rfl | rfl | rfl | rfl | rfl <;> decide

/-- A sign is read where no key may be forgotten. -/
theorem Stands.goesOn_sign {P : Scan → Prop} (h : Stands scan (c :: text) kinds flows allowed)
    (sign : c ∈ ['\x7b', '\x7d', ',', ':', '"'])
    (fresh : flows.mapM (freshen? scan.cursor.mark) = some flows)
    (read : ∀ {scan}, Stands scan (c :: text) kinds flows allowed →
      ∃ after, scan.token? c = some after ∧ P after) : ∃ after, GoesOn scan after 1 ∧ P after :=
  h.goesOn (startsToken_sign sign) fresh fun _ hkept => read (h.withBlockKey hkept)

/-- A text between quotes is read where no key may be forgotten. -/
theorem Stands.goesOn_quote {P : Scan → Prop} {value : String}
    (h : Stands scan ((Json.quoted value).toList ++ rest) kinds flows allowed)
    (fresh : flows.mapM (freshen? scan.cursor.mark) = some flows)
    (read : ∀ {scan}, Stands scan ((Json.quoted value).toList ++ rest) kinds flows allowed →
      ∃ after, scan.token? '"' = some after ∧ P after) :
    ∃ after, GoesOn scan after 1 ∧ P after := by
  obtain ⟨_, hquote⟩ := h.exists_quote
  exact hquote.goesOn (startsToken_sign (by simp)) fresh fun _ hkept =>
    read (h.withBlockKey hkept)

/-! ## Values -/

/-- Inside of a flow, where no key may start, a text is read as tokens of some kinds, up to the
comma or the brace behind it. -/
def IsScanned (text : List Char) (kinds : List TokenKind) : Prop :=
  ∀ ⦃scan c rest before outer⦄, (c = ',' ∨ c = '\x7d') → (∀ key ∈ outer, key = none) →
    Stands scan (text ++ c :: rest) before (none :: outer) false →
      ∃ after, GoesOn scan after text.length ∧
        Stands after (c :: rest) (before ++ kinds) (none :: outer) false

/-- A text in quotes is scanned as a scalar in quotes. -/
theorem isScanned_quoted {value : String} (printable : ∀ c ∈ value.toList, IsPrintable c) :
    IsScanned (Json.quoted value).toList [.scalar .doubleQuoted value] := by
  intro scan c rest before outer _ unset h
  obtain ⟨after, hgoes, hafter⟩ := h.goesOn_quote (mapM_freshen?_cons scan.cursor.mark unset)
    (Stands.token?_quoted printable)
  exact ⟨after, hgoes.mono (by simp [toList_quoted]), hafter⟩

/-- A word is scanned as a plain scalar. -/
theorem isScanned_word {word : List Char} (isWord : IsWord word) :
    IsScanned word [.scalar .plain (String.ofList word)] := by
  intro scan c rest before outer sign unset h
  have hfresh := mapM_freshen?_cons scan.cursor.mark unset
  obtain ⟨first, letters, rfl⟩ := List.exists_cons_of_ne_nil isWord.1
  obtain ⟨after, hgoes, hafter⟩ := h.goesOn (startsToken_of_isWord isWord) hfresh
    fun _ hkept => (h.withBlockKey hkept).token?_word isWord sign rfl
  exact ⟨after, hgoes.mono (Nat.succ_pos _), hafter⟩

/-! ## Mappings -/

/-- The tokens of an entry of a flow. -/
def flowEntryKinds {α : Type} (kinds : α → List TokenKind) (entry : String × α) : List TokenKind :=
  .key :: .scalar .doubleQuoted entry.1 :: .value :: kinds entry.2

/-- The tokens of entries, a comma before each of them but the first of all. -/
def flowEntriesKinds {α : Type} (kinds : α → List TokenKind) (first : Bool) :
    List (String × α) → List TokenKind
  | [] => []
  | entry :: entries =>
    (if first then [] else [.flowEntry]) ++
      (flowEntryKinds kinds entry ++ flowEntriesKinds kinds false entries)

/-- The characters of an entry. -/
def entryChars {α : Type} (write : α → List Char) (entry : String × α) : List Char :=
  (Json.quoted entry.1).toList ++ ':' :: write entry.2

/-- The characters of entries, a comma before each of them but the first of all. -/
def entriesChars {α : Type} (write : α → List Char) (first : Bool) :
    List (String × α) → List Char
  | [] => []
  | entry :: entries =>
    (if first then [] else [',']) ++ (entryChars write entry ++ entriesChars write false entries)

/-- A key is read, and the colon behind it. -/
theorem Stands.goesOn_key {name : String} (key : IsFlowKey name)
    (unset : ∀ key ∈ outer, key = none)
    (h : Stands scan ((Json.quoted name).toList ++ ':' :: rest) kinds (none :: outer) true) :
    ∃ after, GoesOn scan after ((Json.quoted name).toList.length + 1) ∧
      Stands after rest (kinds ++ [.key, .scalar .doubleQuoted name, .value]) (none :: outer)
        false := by
  obtain ⟨middle, hfirst, found, hawaits⟩ :=
    h.goesOn_quote (mapM_freshen?_cons scan.cursor.mark unset)
      (Stands.token?_key key.printable key.short)
  have hkept : (some found :: outer).mapM (freshen? middle.cursor.mark) =
      some (some found :: outer) := by
    have houter := mapM_freshen? middle.cursor.mark unset
    simp [freshen?, hawaits.fresh, houter]
  obtain ⟨after, hsecond, hafter⟩ := hawaits.stands.goesOn (startsToken_sign (by simp)) hkept
    fun _ hkept => (hawaits.withBlockKey hkept).token?_colon
  have hpos : 0 < (Json.quoted name).toList.length := by simp [toList_quoted]
  exact ⟨after, (hfirst.trans hsecond).mono (by omega), hafter⟩

/-- An entry is read up to the comma or the brace behind it. -/
theorem Stands.goesOn_entry {α : Type} {write : α → List Char} {valueKinds : α → List TokenKind}
    {entry : String × α} (key : IsFlowKey entry.1)
    (value : IsScanned (write entry.2) (valueKinds entry.2)) (sign : c = ',' ∨ c = '\x7d')
    (unset : ∀ key ∈ outer, key = none)
    (h : Stands scan (entryChars write entry ++ c :: rest) kinds (none :: outer) true) :
    ∃ after, GoesOn scan after (entryChars write entry).length ∧
      Stands after (c :: rest) (kinds ++ flowEntryKinds valueKinds entry) (none :: outer)
        false := by
  rw [entryChars, List.append_assoc, List.cons_append] at h
  obtain ⟨middle, hkey, hmiddle⟩ := h.goesOn_key key unset
  obtain ⟨after, hvalue, hafter⟩ := value sign unset hmiddle
  rw [List.append_assoc] at hafter
  refine ⟨after, (hkey.trans hvalue).mono ?_, hafter⟩
  simp only [entryChars, List.length_append, List.length_cons]
  omega

/-- The comma before an entry is read, if there is one, and a key may start behind it. -/
theorem Stands.goesOn_separator {first : Bool} (unset : ∀ key ∈ outer, key = none)
    (h : Stands scan ((if first then [] else [',']) ++ text) kinds (none :: outer) first) :
    ∃ after, GoesOn scan after (if first then [] else [',']).length ∧
      Stands after text (kinds ++ if first then [] else [.flowEntry]) (none :: outer) true := by
  cases first with
  | true =>
    rw [if_pos rfl, List.nil_append] at h
    rw [if_pos rfl, if_pos rfl, List.append_nil]
    exact ⟨scan, .refl scan, h⟩
  | false =>
    rw [if_neg Bool.false_ne_true, List.singleton_append] at h
    rw [if_neg Bool.false_ne_true, if_neg Bool.false_ne_true]
    have hfresh := mapM_freshen?_cons scan.cursor.mark unset
    exact h.goesOn_sign (by simp) hfresh Stands.token?_comma

/-- Behind an entry stands the comma before the next one or the brace that closes the flow. -/
theorem exists_sign {α : Type} (write : α → List Char) (entries : List (String × α))
    (rest : List Char) :
    ∃ c more, (c = ',' ∨ c = '\x7d') ∧
      entriesChars write false entries ++ '\x7d' :: rest = c :: more := by
  cases entries with
  | nil => exact ⟨'\x7d', rest, .inr rfl, rfl⟩
  | cons entry entries => exact ⟨',', _, .inl rfl, rfl⟩

/-- Entries are read up to the brace behind them. A key may start before the first of all, and
before each of the others after its comma. -/
theorem Stands.goesOn_entries {α : Type} {write : α → List Char} {valueKinds : α → List TokenKind}
    {entries : List (String × α)} {first : Bool} (keys : ∀ entry ∈ entries, IsFlowKey entry.1)
    (values : ∀ entry ∈ entries, IsScanned (write entry.2) (valueKinds entry.2))
    (unset : ∀ key ∈ outer, key = none)
    (h : Stands scan (entriesChars write first entries ++ '\x7d' :: rest) kinds (none :: outer)
      first) :
    ∃ after allowed, GoesOn scan after (entriesChars write first entries).length ∧
      Stands after ('\x7d' :: rest) (kinds ++ flowEntriesKinds valueKinds first entries)
        (none :: outer) allowed := by
  induction entries generalizing first scan kinds with
  | nil =>
    rw [flowEntriesKinds, List.append_nil]
    exact ⟨scan, first, .refl scan, h⟩
  | cons entry entries ih =>
    rw [List.forall_mem_cons] at keys values
    obtain ⟨c, more, sign, hmore⟩ := exists_sign write entries rest
    rw [entriesChars, List.append_assoc, List.append_assoc, hmore] at h
    obtain ⟨next, hnext, hentry⟩ := h.goesOn_separator unset
    obtain ⟨middle, hmiddle, hrest⟩ := hentry.goesOn_entry keys.1 values.1 sign unset
    rw [← hmore] at hrest
    obtain ⟨after, allowed, hafter, hstands⟩ := ih keys.2 values.2 hrest
    refine ⟨after, allowed, ((hnext.trans hmiddle).trans hafter).mono ?_, ?_⟩
    · simp only [entriesChars, List.length_append]
      omega
    · rw [flowEntriesKinds]
      simpa using hstands

/-- Behind its opening brace a mapping is read up to what stands behind its closing one. -/
theorem Stands.goesOn_mapping {α : Type} {write : α → List Char} {valueKinds : α → List TokenKind}
    {entries : List (String × α)} (keys : ∀ entry ∈ entries, IsFlowKey entry.1)
    (values : ∀ entry ∈ entries, IsScanned (write entry.2) (valueKinds entry.2))
    (unset : ∀ key ∈ outer, key = none)
    (h : Stands scan (entriesChars write true entries ++ '\x7d' :: rest) kinds (none :: outer)
      true) :
    ∃ after, GoesOn scan after ((entriesChars write true entries).length + 1) ∧
      Stands after rest (kinds ++ (flowEntriesKinds valueKinds true entries ++ [.flowMappingEnd]))
        outer false := by
  obtain ⟨middle, allowed, hentries, hmiddle⟩ := h.goesOn_entries keys values unset
  have hfresh := mapM_freshen?_cons middle.cursor.mark unset
  obtain ⟨after, hclose, hafter⟩ := hmiddle.goesOn_sign (by simp) hfresh Stands.token?_close
  rw [List.append_assoc] at hafter
  exact ⟨after, hentries.trans hclose, hafter⟩

/-- A mapping is read as the value of an entry, if its own values are. -/
theorem isScanned_mapping {α : Type} {write : α → List Char} {valueKinds : α → List TokenKind}
    {entries : List (String × α)} (keys : ∀ entry ∈ entries, IsFlowKey entry.1)
    (values : ∀ entry ∈ entries, IsScanned (write entry.2) (valueKinds entry.2)) :
    IsScanned ('\x7b' :: (entriesChars write true entries ++ ['\x7d']))
      (.flowMappingStart :: (flowEntriesKinds valueKinds true entries ++ [.flowMappingEnd])) := by
  intro scan c rest before outer _ unset h
  have hnone : ∀ key ∈ none :: outer, key = none := List.forall_mem_cons.mpr ⟨rfl, unset⟩
  rw [List.cons_append, List.append_assoc, List.singleton_append] at h
  obtain ⟨middle, hopen, hmiddle⟩ :=
    h.goesOn_sign (by simp) (mapM_freshen? _ hnone) Stands.token?_open
  obtain ⟨after, hmapping, hafter⟩ := hmiddle.goesOn_mapping keys values hnone
  refine ⟨after, (hopen.trans hmapping).mono ?_, by simpa using hafter⟩
  simp only [List.length_cons, List.length_append, List.length_nil]
  omega

/-! ## Whole texts -/

/-- Behind the outermost flow the text ends. -/
theorem Stands.exists_finish? (h : Stands scan [] kinds [] allowed) :
    ∃ after, scan.finish? = some after ∧ kindsOf after.tokens = kinds ++ [.streamEnd] := by
  let mark := scan.cursor.mark
  have hfinish : scan.finish? = some (({ scan with
      cursor := ⟨[], if mark.column = 0 then mark else mark.down 0⟩
      blockKey := none } : Scan).take .streamEnd 0 false) := by
    simp [finish?, unindentAll, inFlow, dropKey?, possibleKey, setPossibleKey, h.flowKeys,
      h.indents, h.optional.any_eq_false, mark]
  exact ⟨_, hfinish, by simp [Scan.take, add, h.tokens]⟩

end Scan

open Scan

/-- Where the characters of entries may stand in a text, those of their mapping may. -/
theorem isAllowed_mapping {entries : List Char} (allowed : ∀ c ∈ entries, isAllowed c) :
    ∀ c ∈ '\x7b' :: (entries ++ ['\x7d']), isAllowed c := by
  intro c hc
  simp only [List.mem_cons, List.mem_append, List.not_mem_nil, or_false] at hc
  rcases hc with rfl | hc | rfl
  · decide
  · exact allowed c hc
  · decide

/-- The text of a mapping that JSON writes has its tokens. -/
theorem exists_tokens?_mapping {α : Type} {write : α → List Char} {valueKinds : α → List TokenKind}
    {entries : List (String × α)} (keys : ∀ entry ∈ entries, IsFlowKey entry.1)
    (values : ∀ entry ∈ entries, IsScanned (write entry.2) (valueKinds entry.2))
    (allowed : ∀ c ∈ entriesChars write true entries, isAllowed c) :
    ∃ tokens,
      tokens? (.ofList ('\x7b' :: (entriesChars write true entries ++ ['\x7d']))) = some tokens ∧
      tokens.map Token.kind =
        .flowMappingStart :: (flowEntriesKinds valueKinds true entries ++
          [.flowMappingEnd, .streamEnd]) := by
  let text := '\x7b' :: (entriesChars write true entries ++ ['\x7d'])
  have hallowed : text.all isAllowed = true :=
    List.all_eq_true.mpr (isAllowed_mapping allowed)
  have hstart : Stands (.start text) text [] [] true :=
    ⟨rfl, rfl, rfl, rfl, isOptional_none, rfl⟩
  obtain ⟨opened, hopen, hopened⟩ := hstart.goesOn_sign (by simp) rfl Stands.token?_outermost
  obtain ⟨closed, hmapping, hclosed⟩ := hopened.goesOn_mapping keys values (List.forall_mem_nil _)
  obtain ⟨steps, hsteps, hrun⟩ := hopen.trans hmapping
  obtain ⟨kept, hkept, hend⟩ := hclosed.exists_run?_eq (fun _ hc => nomatch hc) rfl
  obtain ⟨last, hfinish, hkinds⟩ := (hclosed.withBlockKey hkept).exists_finish?
  have hlength : text.length = (entriesChars write true entries).length + 2 := by simp [text]
  obtain ⟨left, hleft⟩ : ∃ left, text.length + 1 = left + 1 + steps :=
    ⟨text.length - steps, by omega⟩
  have hall : run? (text.length + 1) (.start text) = some last.tokens := by
    rw [hleft, hrun, hend]
    simp [hfinish]
  have htokens : tokens? (.ofList text) = some last.tokens.toList := by
    rw [tokens?, String.toList_ofList]
    simp [hallowed, hall]
  exact ⟨_, htokens, by simpa [kindsOf] using hkinds⟩

end HealthPanel.Yaml
