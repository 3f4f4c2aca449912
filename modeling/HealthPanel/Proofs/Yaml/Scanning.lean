import HealthPanel.Proofs.Yaml.ScalarsOnLine

/-!
# The tokens of a layout

Each line of a layout adds the tokens of its key and its value. Before them the blocks right of
its column are closed, and a block is opened where its column is new.
-/

namespace HealthPanel.Yaml

/-! ## What a layout consists of -/

/-- The tokens of what stands on the line of a key. -/
def LineValue.kinds : LineValue → List TokenKind
  | nothing => []
  | word letters => [.scalar .plain letters]
  | quoted text => [.scalar .doubleQuoted text]

/-- A value has no more tokens than characters. -/
theorem LineValue.length_kinds_le (value : LineValue) :
    value.kinds.length ≤ value.chars.length := by
  cases value with
  | nothing => exact Nat.le_refl 0
  | word letters => exact Nat.succ_le_succ (Nat.zero_le _)
  | quoted text => exact Nat.succ_le_succ (Nat.zero_le _)

/-- What stands on the line of a key at a column may be read up to the lines after it: a word does
not go on there. -/
def LineValue.Fits (column : Nat) (lines : List Line) : LineValue → Prop
  | word letters => IsWord letters.toList ∧ firstColumn lines ≤ column
  | _ => True

/-- A text that may be a key as it is: a word that is not too long. -/
def IsKey (text : String) : Prop :=
  IsWord text.toList ∧ text.toList.length ≤ 1024

instance (text : String) : Decidable (IsKey text) :=
  inferInstanceAs (Decidable (IsWord text.toList ∧ text.toList.length ≤ 1024))

/-- Lines that may be read: what stands on the lines of their keys fits. -/
def IsLaidOut : List Line → Prop
  | [] => True
  | line :: lines => IsKey line.key ∧ line.value.Fits line.column lines ∧ IsLaidOut lines

/-- Lines that are laid out start a token, or there are none. -/
theorem startsToken_unindented {lines : List Line} (h : IsLaidOut lines) :
    StartsToken (unindented lines) := by
  cases lines with
  | nil => exact fun _ hc => nomatch hc
  | cons line lines =>
    rw [unindented, Line.chars, List.append_assoc]
    exact startsToken_of_isWord h.1.1

/-- All characters of a value that fits are allowed. -/
theorem LineValue.isAllowed_chars {value : LineValue} {column : Nat} {lines : List Line}
    (fits : value.Fits column lines) : ∀ c ∈ value.chars, isAllowed c := by
  have hspace : isAllowed ' ' := by decide
  have hquote : isAllowed '"' := by decide
  cases value with
  | nothing => exact fun _ hc => nomatch hc
  | word letters =>
    intro c hc
    obtain rfl | hc := List.mem_cons.mp hc
    · exact hspace
    · exact isAllowed_of_isWordChar (fits.1.2 c hc)
  | quoted text =>
    intro c hc
    simp only [LineValue.chars, List.mem_cons, List.mem_append, List.mem_flatMap, List.not_mem_nil,
      or_false] at hc
    obtain rfl | rfl | ⟨d, -, hd⟩ | rfl := hc
    · exact hspace
    · exact hquote
    · exact isAllowed_escape c hd
    · exact hquote

/-- Nothing that may not stand in a text is written. -/
theorem isAllowed_layout {lines : List Line} (laidOut : IsLaidOut lines) :
    ∀ c ∈ layout lines, isAllowed c := by
  induction lines with
  | nil => exact fun _ hc => nomatch hc
  | cons line lines ih =>
    obtain ⟨⟨hkey, -⟩, hfits, hrest⟩ := laidOut
    intro c hc
    simp only [layout, Line.chars, List.mem_append, List.mem_cons, List.mem_replicate] at hc
    obtain ⟨-, rfl⟩ | (hc | rfl | hc) | rfl | hc := hc
    · decide
    · exact isAllowed_of_isWordChar (hkey.2 c hc)
    · decide
    · exact LineValue.isAllowed_chars hfits c hc
    · decide
    · exact ih hrest c hc

/-- The open blocks after a key at a column. -/
def enter (indents : List Nat) (column : Nat) : List Nat :=
  let outer := indents.dropWhile (column < ·)
  if outer.head? = some column then outer else column :: outer

/-- The column that is entered is the innermost one. -/
theorem exists_enter_eq_cons (indents : List Nat) (column : Nat) :
    ∃ outer, enter indents column = column :: outer := by
  unfold enter
  cases houter : indents.dropWhile (column < ·) with
  | nil => exact ⟨[], by simp⟩
  | cons indent outer =>
    by_cases hindent : indent = column
    · exact ⟨outer, by simp [hindent]⟩
    · exact ⟨indent :: outer, by simp [hindent]⟩

/-- The tokens that close and open blocks before a key at a column. -/
def enterKinds (indents : List Nat) (column : Nat) : List TokenKind :=
  (indents.takeWhile (column < ·)).map (fun _ => .blockEnd) ++
    if (indents.dropWhile (column < ·)).head? = some column then [] else [.blockMappingStart]

/-- The tokens of lines inside of open blocks, up to the end of the text. -/
def lineKinds (indents : List Nat) : List Line → List TokenKind
  | [] => indents.map (fun _ => .blockEnd) ++ [.streamEnd]
  | line :: lines =>
    enterKinds indents line.column ++ .key :: .scalar .plain line.key :: .value ::
      (line.value.kinds ++ lineKinds (enter indents line.column) lines)

/-- What the tokens of an array are. -/
def kindsOf (tokens : Array Token) : List TokenKind :=
  tokens.toList.map Token.kind

/-- The kinds of a list of tokens. -/
@[simp]
theorem kindsOf_toArray (tokens : List Token) : kindsOf tokens.toArray = tokens.map Token.kind :=
  rfl

/-- The kind of the last token comes last. -/
@[simp]
theorem kindsOf_push (tokens : Array Token) (token : Token) :
    kindsOf (tokens.push token) = kindsOf tokens ++ [token.kind] := by
  simp [kindsOf]

/-- The kinds of tokens behind others. -/
@[simp]
theorem kindsOf_append (front back : Array Token) :
    kindsOf (front ++ back) = kindsOf front ++ kindsOf back := by
  simp [kindsOf]

/-- The kinds of a list of tokens behind others. -/
@[simp]
theorem kindsOf_appendList (front : Array Token) (back : List Token) :
    kindsOf (front ++ back) = kindsOf front ++ back.map Token.kind := by
  simp [kindsOf]

/-- A token is put in front of the last ones. -/
theorem insertIdxIfInBounds_append (front back : Array Token) (token : Token) :
    (front ++ back).insertIdxIfInBounds front.size token = front ++ (#[token] ++ back) := by
  obtain ⟨front⟩ := front
  obtain ⟨back⟩ := back
  have hlist : (front ++ back).insertIdx front.length token = front ++ token :: back := by
    induction front with
    | nil => rfl
    | cons first front ih => simp [List.insertIdx_succ_cons, ih]
  simp [hlist]

namespace Scan

/-- The blocks right of a column are closed, the innermost one first. -/
theorem closeBlocks_eq (column : Nat) (mark : Mark) (indents : List Nat) (tokens : Array Token) :
    (closeBlocks column mark indents tokens).1 = indents.dropWhile (column < ·) ∧
      kindsOf (closeBlocks column mark indents tokens).2 =
        kindsOf tokens ++ (indents.takeWhile (column < ·)).map fun _ => .blockEnd := by
  induction indents generalizing tokens with
  | nil => simp [closeBlocks]
  | cons indent outer ih =>
    by_cases hright : column < indent
    · obtain ⟨hindents, hkinds⟩ := ih (tokens.push ⟨.blockEnd, mark⟩)
      simp only [closeBlocks, if_pos hright, hindents, hkinds, kindsOf_push]
      simp [hright]
    · simp [closeBlocks, hright]

variable {scan : Scan} {fuel : Nat} {c : Char}

/-- The state between two tokens outside of flows: a key may have started before, or not. -/
def between (cursor : Cursor) (tokens : Array Token) (indents : List Nat)
    (key : Option PossibleKey) (keyAllowed : Bool) : Scan :=
  { cursor, tokens, indents, blockKey := key, flowKeys := [], keyAllowed }

variable {tokens : Array Token} {indents : List Nat} {keyAllowed : Bool}

/-- A character of a word starts a plain scalar. -/
theorem startsPlain_of_isWordChar (h : isWordChar c) : scan.startsPlain c := by
  have hdash : c ≠ '-' := ne_of_isWordChar h (by decide)
  have hquestion : c ≠ '?' := ne_of_isWordChar h (by decide)
  have hcolon : c ≠ ':' := ne_of_isWordChar h (by decide)
  have hsigns : ",[]\x7b\x7d#&*!|>'\"%@\x60".toList.contains c = false :=
    not_contains_of_isWordChar h (by decide)
  simp only [startsPlain, hdash, hquestion, hcolon, or_self, if_false, hsigns, endsWord,
    Option.all_some, isBlank_of_isWordChar h, isBreak_of_isWordChar h]
  rfl

/-- Where a word stands, a plain scalar is read. -/
theorem token?_eq_plain? {word text : List Char} (h : IsWord word)
    (hrest : scan.cursor.rest = word ++ text) (hc : scan.cursor.rest.head? = some c) :
    scan.token? c = scan.plain? := by
  have hdelimiter : (⟨word ++ text, scan.cursor.mark⟩ : Cursor).seesDelimiter = false :=
    (seesDelimiter_of_isWord h).1
  have hcursor : (⟨word ++ text, scan.cursor.mark⟩ : Cursor) = scan.cursor := by rw [← hrest]
  rw [hcursor, Cursor.seesDelimiter, Bool.or_eq_false_iff] at hdelimiter
  have hword : isWordChar c := by
    obtain ⟨hne, hword⟩ := h
    obtain _ | ⟨first, rest⟩ := word
    · exact absurd rfl hne
    · rw [hrest] at hc
      exact Option.some.inj hc ▸ hword first List.mem_cons_self
  have hpercent : c ≠ '%' := ne_of_isWordChar hword (by decide)
  have hdash : c ≠ '-' := ne_of_isWordChar hword (by decide)
  have hquestion : c ≠ '?' := ne_of_isWordChar hword (by decide)
  have hcolon : c ≠ ':' := ne_of_isWordChar hword (by decide)
  simp only [token?, hpercent, hdelimiter, hdash, hquestion, hcolon,
    startsPlain_of_isWordChar hword, and_false, false_and, if_false, if_true, Bool.false_eq_true]

/-- A word that may be a key is read. -/
theorem token?_word {word text : List Char} {mark : Mark} (h : IsWord word)
    (hend : endsWord text.head?) (hc : (word ++ ':' :: text).head? = some c) :
    (between ⟨word ++ ':' :: text, mark⟩ tokens indents none true).token? c =
      some (between ⟨':' :: text, mark.right word.length⟩
        (tokens.push ⟨.scalar .plain (String.ofList word), mark⟩) indents
        (some ⟨mark, tokens.size, decide (indents.head? = some mark.column)⟩) false) := by
  rw [token?_eq_plain? h rfl hc]
  simp [plain?, markKey?, dropKey?, possibleKey, setPossibleKey, inFlow, between, innerColumn,
    readPlain?_key h hend, put, add]

/-- The colon after a key is read: the key gets its tokens, and its block is opened if that is
new. -/
theorem token?_colon {text : List Char} {mark start : Mark} {required : Bool} {name : Token}
    (hend : endsWord text.head?) :
    (between ⟨':' :: text, mark⟩ (tokens.push name) indents (some ⟨start, tokens.size, required⟩)
        false).token? ':' =
      some (between ⟨text, mark.right 1⟩
        ((if indents.head?.any (start.column ≤ ·) then tokens ++ #[⟨.key, start⟩, name]
          else tokens ++ #[⟨.blockMappingStart, start⟩, ⟨.key, start⟩, name]).push ⟨.value, mark⟩)
        (if indents.head?.any (start.column ≤ ·) then indents else start.column :: indents) none
        false) := by
  have hkey : (tokens.push name).insertIdxIfInBounds tokens.size ⟨.key, start⟩ =
      tokens ++ #[⟨.key, start⟩, name] := insertIdxIfInBounds_append tokens #[name] _
  have hopen : (tokens ++ #[⟨.key, start⟩, name]).insertIdxIfInBounds tokens.size
      ⟨.blockMappingStart, start⟩ = tokens ++ #[⟨.blockMappingStart, start⟩, ⟨.key, start⟩, name] :=
    insertIdxIfInBounds_append tokens #[⟨.key, start⟩, name] _
  have hvalue : (between ⟨':' :: text, mark⟩ (tokens.push name) indents
      (some ⟨start, tokens.size, required⟩) false).token? ':' =
        (between ⟨':' :: text, mark⟩ (tokens.push name) indents
          (some ⟨start, tokens.size, required⟩) false).value? := by
    simp [token?, between, Cursor.peek?, Cursor.seesThree, hend]
  rw [hvalue]
  simp only [value?, between, possibleKey, List.head?_nil, Option.getD_none, hkey, openBlock,
    inFlow, List.isEmpty_nil, Bool.not_true, Bool.false_or]
  split <;> simp [setPossibleKey, take, add, Cursor.skip, hopen]

/-! ## Steps -/

/-- A block that does not lie right of the column stays open, and so do those around it. -/
theorem closeBlocks_of_head {column : Nat} {mark : Mark}
    (h : ∀ indent ∈ indents.head?, indent ≤ column) :
    closeBlocks column mark indents tokens = (indents, tokens) := by
  cases indents with
  | nil => rfl
  | cons indent outer => exact if_neg (Nat.not_lt.mpr (h indent rfl))

/-- A key that may have started and is not too long is kept. -/
theorem freshenKeys?_between {text : List Char} {mark : Mark} {key : Option PossibleKey}
    (h : freshen? mark key = some key) :
    (between ⟨text, mark⟩ tokens indents key keyAllowed).freshenKeys? =
      some (between ⟨text, mark⟩ tokens indents key keyAllowed) := by
  simp [freshenKeys?, between, h]

/-- To go left closes the blocks that stand further right. -/
theorem unindent_between {text : List Char} {mark : Mark} {key : Option PossibleKey}
    {closed : List Nat × Array Token}
    (h : closeBlocks mark.column mark indents tokens = closed) :
    (between ⟨text, mark⟩ tokens indents key keyAllowed).unindent =
      between ⟨text, mark⟩ closed.2 closed.1 key keyAllowed := by
  simp [unindent, between, inFlow, h]

/-- A token is read. -/
theorem run?_step {text : List Char} {mark : Mark} {key : Option PossibleKey}
    {closed : List Nat × Array Token} {after : Scan}
    (hnext : scan.toNextToken = between ⟨text, mark⟩ tokens indents key keyAllowed)
    (hfresh : freshen? mark key = some key)
    (hclosed : closeBlocks mark.column mark indents tokens = closed) (hc : text.head? = some c)
    (htoken : (between ⟨text, mark⟩ closed.2 closed.1 key keyAllowed).token? c = some after) :
    run? (fuel + 1) scan = run? fuel after := by
  have hpeek : (between ⟨text, mark⟩ closed.2 closed.1 key keyAllowed).cursor.peek? 0 = some c := hc
  rw [run?, hnext, freshenKeys?_between hfresh]
  simp [unindent_between hclosed, hpeek, htoken]

/-- Spaces before a token are skipped. -/
theorem toNextToken_between {text : List Char} {mark : Mark} {key : Option PossibleKey}
    (h : StartsToken text) (count : Nat) :
    (between ⟨List.replicate count ' ' ++ text, mark⟩ tokens indents key keyAllowed).toNextToken =
      between ⟨text, mark.right count⟩ tokens indents key keyAllowed :=
  toNextToken_of_blanks h count rfl

/-- Where a token starts nothing is skipped. -/
theorem toNextToken_here {text : List Char} {mark : Mark} {key : Option PossibleKey}
    (h : StartsToken text) :
    (between ⟨text, mark⟩ tokens indents key keyAllowed).toNextToken =
      between ⟨text, mark⟩ tokens indents key keyAllowed :=
  toNextToken_between h 0

/-- A space before a token is skipped. -/
theorem toNextToken_space {text : List Char} {mark : Mark} {key : Option PossibleKey}
    (h : StartsToken text) :
    (between ⟨' ' :: text, mark⟩ tokens indents key keyAllowed).toNextToken =
      between ⟨text, mark.right 1⟩ tokens indents key keyAllowed :=
  toNextToken_between h 1

/-- The colon after a key that is not too long is read. -/
theorem run?_colon {text : List Char} {mark : Mark} {length : Nat} {name : Token} {required : Bool}
    (short : length ≤ 1024) (hend : endsWord text.head?)
    (left : ∀ indent ∈ indents.head?, indent ≤ mark.column) (fuel : Nat) :
    run? (fuel + 1) (between ⟨':' :: text, mark.right length⟩ (tokens.push name) indents
        (some ⟨mark, tokens.size, required⟩) false) =
      run? fuel (between ⟨text, (mark.right length).right 1⟩
        ((if indents.head?.any (mark.column ≤ ·) then tokens ++ #[⟨.key, mark⟩, name]
          else tokens ++ #[⟨.blockMappingStart, mark⟩, ⟨.key, mark⟩, name]).push
            ⟨.value, mark.right length⟩)
        (if indents.head?.any (mark.column ≤ ·) then indents else mark.column :: indents) none
        false) := by
  have hcolon : StartsToken (':' :: text) := by
    intro d hd
    obtain rfl : ':' = d := by simpa using hd
    decide
  have hfresh : freshen? (mark.right length) (some ⟨mark, tokens.size, required⟩) =
      some (some ⟨mark, tokens.size, required⟩) := by
    have hindex : ¬mark.index + 1024 < mark.index + length := by omega
    simp [freshen?, isStale, Mark.right, hindex]
  have hopen : closeBlocks (mark.right length).column (mark.right length) indents
      (tokens.push name) = (indents, tokens.push name) :=
    closeBlocks_of_head fun indent hindent =>
      Nat.le_trans (left indent hindent) (Nat.le_add_right _ _)
  exact run?_step (toNextToken_here hcolon) hfresh hopen rfl (token?_colon hend)

/-- The key of a line and its colon are read. -/
theorem run?_key {word text : List Char} {mark : Mark} (h : IsWord word)
    (short : word.length ≤ 1024) (hend : endsWord text.head?)
    (hnext : scan.toNextToken = between ⟨word ++ ':' :: text, mark⟩ tokens indents none true)
    (fuel : Nat) :
    ∃ found, run? (fuel + 2) scan =
        run? fuel (between ⟨text, (mark.right word.length).right 1⟩ found
          (enter indents mark.column) none false) ∧
      kindsOf found = kindsOf tokens ++ (enterKinds indents mark.column ++
        [.key, .scalar .plain (String.ofList word), .value]) := by
  obtain ⟨hindents, hkinds⟩ := closeBlocks_eq mark.column mark indents tokens
  generalize hclosed : closeBlocks mark.column mark indents tokens = closed at hindents hkinds
  obtain ⟨outer, closedTokens⟩ := closed
  simp only at hindents hkinds
  have hle : ∀ indent ∈ outer.head?, indent ≤ mark.column := by
    intro indent hindent
    have hnot := List.head?_dropWhile_not (mark.column < ·) indents
    rw [hindents] at hindent
    rw [hindent] at hnot
    simpa using hnot
  have hsame : (outer.head?.any (mark.column ≤ ·)) = decide (outer.head? = some mark.column) := by
    cases houter : outer.head? with
    | none => rfl
    | some indent =>
      have hindent := hle indent houter
      simp
      omega
  obtain ⟨c, hc⟩ : ∃ c, (word ++ ':' :: text).head? = some c := exists_head?_of_isWord h
  have hfirst : run? (fuel + 2) scan = run? (fuel + 1) (between
      ⟨':' :: text, mark.right word.length⟩
      (closedTokens.push ⟨.scalar .plain (String.ofList word), mark⟩) outer
      (some ⟨mark, closedTokens.size, decide (outer.head? = some mark.column)⟩) false) :=
    run?_step hnext rfl hclosed hc (token?_word h hend hc)
  rw [hfirst, run?_colon short hend hle]
  simp only [hsame, decide_eq_true_eq, enter, enterKinds, ← hindents]
  refine ⟨_, rfl, ?_⟩
  split <;> simp [hkinds]

/-- The scan comes to lines next: what it reads next is the first key. -/
def ComesTo (scan : Scan) (tokens : Array Token) (indents : List Nat) (lines : List Line) : Prop :=
  ∃ mark, mark.column = firstColumn lines ∧
    scan.toNextToken = between ⟨unindented lines, mark⟩ tokens indents none true

/-- Behind the end of a line the scanner comes to the next one. -/
theorem comesTo_of_lineEnd {lines : List Line} {mark : Mark}
    (starts : StartsToken (unindented lines)) :
    ComesTo (between ⟨'\n' :: layout lines, mark⟩ tokens indents none keyAllowed) tokens indents
      lines :=
  ⟨(mark.down 1).right (firstColumn lines), by simp [Mark.right, Mark.down],
    toNextToken_of_lineEnd starts (firstColumn lines) rfl (by rw [layout_eq]; rfl)⟩

/-- A word that stands for the value of a key is read, and the end of its line with it. -/
theorem token?_value {word : List Char} {lines : List Line} {mark : Mark} {column : Nat}
    (h : IsWord word) (starts : StartsToken (unindented lines)) (left : firstColumn lines ≤ column)
    (hc : (word ++ '\n' :: layout lines).head? = some c) :
    (between ⟨word ++ '\n' :: layout lines, mark⟩ tokens (column :: indents) none false).token? c =
      some (between
        ⟨unindented lines, ((mark.right word.length).down 1).right (firstColumn lines)⟩
        (tokens.push ⟨.scalar .plain (String.ofList word), mark⟩) (column :: indents) none
        true) := by
  have hread : readPlain? false (column + 1) ⟨word ++ '\n' :: layout lines, mark⟩ =
      some (⟨.plain, String.ofList word, true⟩, ⟨unindented lines,
        ((mark.right word.length).down 1).right (firstColumn lines)⟩) := by
    rw [layout_eq]
    exact readPlain?_value h starts (Nat.lt_succ_of_le left)
  rw [token?_eq_plain? h rfl hc]
  simp [plain?, markKey?, inFlow, between, innerColumn, hread, put, add]

/-- A text between double quotes is read. -/
theorem token?_quoted {text rest : List Char} {mark : Mark} :
    (between ⟨'"' :: (text.flatMap escape ++ '"' :: rest), mark⟩ tokens indents none false).token?
        '"' =
      some (between ⟨rest, mark.right ((text.flatMap escape).length + 2)⟩
        (tokens.push ⟨.scalar .doubleQuoted (String.ofList text), mark⟩) indents none false) := by
  have hquoted : (between ⟨'"' :: (text.flatMap escape ++ '"' :: rest), mark⟩ tokens indents none
      false).token? '"' = (between ⟨'"' :: (text.flatMap escape ++ '"' :: rest), mark⟩ tokens
        indents none false).quoted? false := by
    simp [token?, between, Cursor.seesThree, startsPlain]
  rw [hquoted]
  simp [quoted?, markKey?, between, readQuoted?_escape, put, add]

/-- What stands on the line of a key is read. -/
theorem run?_value {value : LineValue} {lines : List Line} {mark : Mark} {column : Nat}
    (fits : value.Fits column lines) (starts : StartsToken (unindented lines))
    (inside : column < mark.column) (fuel : Nat) :
    ∃ after found,
      run? (fuel + value.kinds.length)
          (between ⟨value.chars ++ '\n' :: layout lines, mark⟩ tokens (column :: indents) none
            false) = run? fuel after ∧
      ComesTo after found (column :: indents) lines ∧
      kindsOf found = kindsOf tokens ++ value.kinds := by
  have hopen : closeBlocks (mark.right 1).column (mark.right 1) (column :: indents) tokens =
      (column :: indents, tokens) :=
    closeBlocks_of_head fun indent hindent => by
      obtain rfl : column = indent := by simpa using hindent
      exact Nat.le_trans (Nat.le_of_lt inside) (Nat.le_add_right _ _)
  cases value with
  | nothing => exact ⟨_, tokens, rfl, comesTo_of_lineEnd starts, by simp [LineValue.kinds]⟩
  | word letters =>
    obtain ⟨hword, left⟩ := fits
    obtain ⟨c, hc⟩ : ∃ c, (letters.toList ++ '\n' :: layout lines).head? = some c :=
      exists_head?_of_isWord hword
    refine ⟨_, _, run?_step (toNextToken_space (startsToken_of_isWord hword)) rfl hopen hc
      (token?_value hword starts left hc), ⟨_, ?_, toNextToken_here starts⟩, ?_⟩
    · simp [Mark.right, Mark.down]
    · simp [LineValue.kinds]
  | quoted text =>
    have hquote :
        StartsToken ('"' :: (text.toList.flatMap escape ++ '"' :: '\n' :: layout lines)) := by
      intro d hd
      obtain rfl : '"' = d := by simpa using hd
      decide
    have hchars : (LineValue.quoted text).chars ++ '\n' :: layout lines =
        ' ' :: '"' :: (text.toList.flatMap escape ++ '"' :: '\n' :: layout lines) := by
      simp [LineValue.chars]
    rw [hchars]
    refine ⟨_, _, run?_step (toNextToken_space hquote) rfl hopen rfl token?_quoted,
      comesTo_of_lineEnd starts, ?_⟩
    simp [LineValue.kinds]

/-! ## Runs -/

/-- A line is read. -/
theorem run?_line {line : Line} {lines : List Line} (laidOut : IsLaidOut (line :: lines))
    (comes : ComesTo scan tokens indents (line :: lines)) (fuel : Nat) :
    ∃ after found, run? (fuel + line.value.kinds.length + 2) scan = run? fuel after ∧
      ComesTo after found (enter indents line.column) lines ∧
      kindsOf found = kindsOf tokens ++ (enterKinds indents line.column ++
        .key :: .scalar .plain line.key :: .value :: line.value.kinds) := by
  obtain ⟨⟨hkey, hshort⟩, hfits, hrest⟩ := laidOut
  obtain ⟨mark, hcolumn, hnext⟩ := comes
  obtain ⟨outer, houter⟩ := exists_enter_eq_cons indents mark.column
  have hend : endsWord (line.value.chars ++ '\n' :: layout lines).head? := by
    cases line.value <;> rfl
  have hchars : unindented (line :: lines) =
      line.key.toList ++ ':' :: (line.value.chars ++ '\n' :: layout lines) := by
    simp [unindented, Line.chars]
  rw [hchars] at hnext
  obtain ⟨found, hrun, hkinds⟩ := run?_key hkey hshort hend hnext (fuel + line.value.kinds.length)
  have hcolumn : mark.column = line.column := hcolumn
  have hinside : mark.column < ((mark.right line.key.toList.length).right 1).column := by
    simp only [Mark.right]
    omega
  rw [houter] at hrun
  obtain ⟨after, read, hvalue, hcomes, hread⟩ :=
    run?_value (hcolumn ▸ hfits) (startsToken_unindented hrest) hinside fuel
  refine ⟨after, read, hrun.trans hvalue, ?_, ?_⟩
  · rw [← hcolumn, houter]
    exact hcomes
  · rw [hread, hkinds, hcolumn, String.ofList_toList]
    simp

/-- At the end of the text the open blocks are closed. -/
theorem exists_finish?_between {mark : Mark} (left : mark.column = 0) :
    ∃ after, (between ⟨[], mark⟩ tokens indents none true).finish? = some after ∧
      kindsOf after.tokens =
        kindsOf tokens ++ (indents.map (fun _ => TokenKind.blockEnd) ++ [.streamEnd]) := by
  have hfinish : (between ⟨[], mark⟩ tokens indents none true).finish? =
      some (((between ⟨[], mark⟩ tokens indents none true).unindentAll).take .streamEnd 0
        false) := by
    simp [finish?, between, left, unindentAll, inFlow, dropKey?, possibleKey, setPossibleKey]
  have hends : (indents.map fun _ => Token.mk .blockEnd mark).map Token.kind =
      indents.map fun _ => TokenKind.blockEnd := by
    rw [List.map_map]
    rfl
  refine ⟨_, hfinish, ?_⟩
  simp only [unindentAll, take, add, between, inFlow, List.isEmpty_nil, Bool.not_true,
    Bool.false_eq_true, if_false, kindsOf_push, kindsOf_appendList, hends, List.append_assoc]

/-- Behind the last line all blocks are closed. -/
theorem run?_end (comes : ComesTo scan tokens indents []) (fuel : Nat) :
    ∃ found, run? (fuel + 1) scan = some found ∧
      kindsOf found = kindsOf tokens ++ lineKinds indents [] := by
  obtain ⟨mark, hcolumn, hnext⟩ := comes
  obtain ⟨hindents, hkinds⟩ := closeBlocks_eq mark.column mark indents tokens
  generalize hclosed : closeBlocks mark.column mark indents tokens = closed at hindents hkinds
  obtain ⟨after, hfinish, hread⟩ :
      ∃ after, (between ⟨[], mark⟩ closed.2 closed.1 none true).finish? = some after ∧ _ :=
    exists_finish?_between hcolumn
  have hall : (indents.takeWhile (mark.column < ·)).map (fun _ => TokenKind.blockEnd) ++
      closed.1.map (fun _ => TokenKind.blockEnd) = indents.map fun _ => TokenKind.blockEnd := by
    rw [hindents, ← List.map_append, List.takeWhile_append_dropWhile]
  refine ⟨after.tokens, ?_, ?_⟩
  · rw [run?, hnext, freshenKeys?_between rfl]
    simp only [unindented, unindent_between hclosed, Option.bind_eq_bind, Option.bind_some]
    change (finish? _).bind _ = _
    rw [hfinish]
    rfl
  · rw [hread, hkinds, lineKinds, ← hall]
    simp only [List.append_assoc]

/-- All lines are read. -/
theorem run?_lines {lines : List Line} (laidOut : IsLaidOut lines)
    (comes : ComesTo scan tokens indents lines) (enough : (layout lines).length < fuel) :
    ∃ found, run? fuel scan = some found ∧
      kindsOf found = kindsOf tokens ++ lineKinds indents lines := by
  induction lines generalizing scan tokens indents fuel with
  | nil =>
    obtain ⟨fuel, rfl⟩ := Nat.exists_eq_add_of_lt enough
    simp only [layout, List.length_nil, Nat.zero_add]
    exact run?_end comes fuel
  | cons line lines ih =>
    have hsteps : (layout lines).length + (line.value.kinds.length + 2) < fuel := by
      have hkey := List.length_pos_of_ne_nil laidOut.1.1.1
      have hvalue := line.value.length_kinds_le
      simp only [layout, Line.chars, List.length_append, List.length_cons] at enough
      omega
    obtain ⟨left, hleft⟩ : ∃ left, fuel = left + line.value.kinds.length + 2 :=
      ⟨fuel - (line.value.kinds.length + 2), by omega⟩
    obtain ⟨after, found, hrun, hcomes, hkinds⟩ := run?_line laidOut comes left
    have hleft' : (layout lines).length < left := by omega
    obtain ⟨all, hall, hrest⟩ := ih laidOut.2.2 hcomes hleft'
    refine ⟨all, ?_, ?_⟩
    · rw [hleft, hrun, hall]
    · rw [hrest, hkinds, lineKinds]
      simp

end Scan

/-- The text of a layout has its tokens. -/
theorem exists_tokens?_layout {lines : List Line} (laidOut : IsLaidOut lines) :
    ∃ tokens, tokens? (String.ofList (layout lines)) = some tokens ∧
      tokens.map Token.kind = lineKinds [] lines := by
  have hcomes : Scan.ComesTo (.start (layout lines)) #[] [] lines := by
    refine ⟨Mark.start.right (firstColumn lines), Nat.zero_add _, ?_⟩
    rw [layout_eq]
    exact Scan.toNextToken_between (startsToken_unindented laidOut) (firstColumn lines)
  obtain ⟨found, hrun, hkinds⟩ := Scan.run?_lines laidOut hcomes (Nat.lt_succ_self _)
  have hallowed : (layout lines).all isAllowed := List.all_eq_true.mpr (isAllowed_layout laidOut)
  refine ⟨found.toList, ?_, hkinds⟩
  simp [tokens?, String.toList_ofList, hallowed, hrun]

end HealthPanel.Yaml
