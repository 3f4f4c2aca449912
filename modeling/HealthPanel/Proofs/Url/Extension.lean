import HealthPanel.Proofs.Url.Authority
import Mathlib.Data.List.Basic

/-!
# More text behind a URL

What comes before the path of a URL is read as before when more text is put behind it, as long as
nothing is added to the authority. A slash and a name behind the body of a URL are the end of its
path; behind a query or a fragment, more text is only more of that.
-/

namespace HealthPanel.Url

variable {scheme : String} {text more rest : List Char} {url : Url}

/-! ## Schemes -/

/-- More text behind a URL does not touch its scheme. -/
theorem splitScheme?_append (h : splitScheme? text = some (scheme, rest)) (more : List Char) :
    splitScheme? (text ++ more) = some (scheme, rest ++ more) := by
  unfold splitScheme? at h
  split at h
  case isFalse => exact absurd h (by simp)
  case isTrue hhead =>
    split at h
    case h_2 => exact absurd h (by simp)
    case h_1 after hdrop =>
      obtain ⟨rfl, rfl⟩ := Prod.mk.inj (Option.some.inj h)
      have hne : text.dropWhile isSchemeChar ≠ [] := by simp [hdrop]
      have htext : text ≠ [] := by
        rintro rfl
        exact hne rfl
      rw [splitScheme?, List.head?_append_of_ne_nil _ htext, if_pos hhead,
        dropWhile_append_of_ne_nil hne, takeWhile_append_of_ne_nil hne, hdrop]
      rfl

/-- A colon stands before what follows the scheme. -/
theorem exists_of_splitScheme? (h : splitScheme? text = some (scheme, rest)) :
    ∃ before, text = before ++ ':' :: rest := by
  unfold splitScheme? at h
  split at h
  case isFalse => exact absurd h (by simp)
  case isTrue =>
    split at h
    case h_2 => exact absurd h (by simp)
    case h_1 after hdrop =>
      obtain ⟨-, rfl⟩ := Prod.mk.inj (Option.some.inj h)
      exact ⟨text.takeWhile isSchemeChar, by rw [← hdrop, List.takeWhile_append_dropWhile]⟩

/-- What is read behind the scheme does not change it. -/
theorem scheme_of_readAuthority {query fragment : Option (List Char)}
    (h : readAuthority scheme text query fragment = .ok url) : url.scheme = scheme := by
  simp only [readAuthority, bind, Except.bind] at h
  repeat' split at h
  all_goals first
    | contradiction
    | rw [← Except.ok.inj h]

/-- A URL has the scheme that its text is read after. -/
theorem scheme_of_readAfterScheme (h : readAfterScheme scheme text = .ok url) :
    url.scheme = scheme := by
  unfold readAfterScheme at h
  dsimp only at h
  split at h
  case isTrue hfile =>
    simp only [readFile, bind, Except.bind] at h
    split at h
    case h_1 => exact absurd h (by simp)
    case h_2 => rw [← Except.ok.inj h, hfile]
  case isFalse =>
    split at h
    case isTrue => exact scheme_of_readAuthority h
    case isFalse =>
      split at h
      case h_1 => exact scheme_of_readAuthority h
      case h_2 | h_3 =>
        rw [← Except.ok.inj h]
        rfl

/-! ## Queries -/

/-- More text behind a fragment is more of it, behind a query more of that, and else more of the
body, as long as it has no mark of its own. -/
theorem splitQuery_append (hmore : ∀ c ∈ more, c ∉ "?#".toList) (text : List Char) :
    splitQuery (text ++ more) =
      match splitQuery text with
      | (body, query, some fragment) => (body, query, some (fragment ++ more))
      | (body, some query, none) => (body, some (query ++ more), none)
      | (body, none, none) => (body ++ more, none, none) := by
  have hhash : ∀ c ∈ more, decide (c = '#') = false := by
    intro c hc
    simpa using (not_or.mp (by simpa using hmore c hc)).2
  have hquestion : ∀ c ∈ more, decide (c = '?') = false := by
    intro c hc
    simpa using (not_or.mp (by simpa using hmore c hc)).1
  simp only [splitQuery, splitAtFirst_append hhash]
  obtain ⟨front, fragment⟩ := splitAtFirst (· = '#') text
  cases fragment with
  | some fragment => rfl
  | none =>
    simp only [splitAtFirst_append hquestion]
    obtain ⟨body, query⟩ := splitAtFirst (· = '?') front
    cases query <;> rfl

/-- Without a mark there is neither a query nor a fragment. -/
theorem splitQuery_of_unmarked (h : ∀ c ∈ text, c ∉ "?#".toList) :
    splitQuery text = (text, none, none) :=
  splitQuery_append h []

/-- A text that has no query and no fragment has no mark of them. -/
theorem unmarked_of_splitQuery (hquery : (splitQuery text).2.1 = none)
    (hfragment : (splitQuery text).2.2 = none) : ∀ c ∈ text, c ∉ "?#".toList := by
  rcases splitAtFirst_cases (· = '#') text with ⟨hhash, hsplit⟩ | ⟨_, _, _, _, _, _, hsplit⟩
  · rcases splitAtFirst_cases (· = '?') text with ⟨hquestion, -⟩ | ⟨_, _, _, _, _, _, hbody⟩
    · intro c hc
      simpa using And.intro (by simpa using hquestion c hc) (by simpa using hhash c hc)
    · simp [splitQuery, hsplit, hbody] at hquery
  · simp [splitQuery, hsplit] at hfragment

/-! ## Paths -/

/-- The last name of a path is kept where it is no dot segment. -/
theorem resolveSegments_concat {name : List Char} (hfile : scheme ≠ "file")
    (hdots : isSingleDot name = false ∧ isDoubleDot name = false) (done : List String)
    (names : List (List Char)) :
    ∃ front,
      resolveSegments scheme done (names ++ [name]) = front ++ [percentEncode .path name] := by
  induction names generalizing done with
  | nil =>
    refine ⟨done.reverse, ?_⟩
    simp [resolveSegments, enter, hfile, hdots]
  | cons first names ih =>
    obtain ⟨second, others, hothers⟩ :=
      List.exists_cons_of_ne_nil
        (List.append_ne_nil_of_right_ne_nil names (List.cons_ne_nil name []))
    obtain ⟨front, hfront⟩ := ih (enter scheme done first)
    refine ⟨front, ?_⟩
    rw [hothers] at hfront
    rw [List.cons_append, hothers, resolveSegments, hfront]
    simp

/-- A name of lower-case letters, as resources have. -/
def IsName (name : List Char) : Prop :=
  name ≠ [] ∧ ∀ c ∈ name, c.isLower = true

instance : DecidablePred IsName := fun name =>
  inferInstanceAs (Decidable (name ≠ [] ∧ ∀ c ∈ name, c.isLower = true))

/-- A name holds no character that is no lower-case letter. -/
theorem IsName.forall_ne {name : List Char} (h : IsName name) {d : Char} (hd : d.isLower = false) :
    ∀ c ∈ name, c ≠ d := by
  rintro c hc rfl
  exact Bool.false_ne_true (hd.symm.trans (h.2 c hc))

/-- A name has small letters alone. -/
theorem IsName.code {name : List Char} (h : IsName name) :
    ∀ c ∈ name, 0x61 ≤ c.toNat ∧ c.toNat ≤ 0x7A := by
  intro c hc
  have hlower : (c.val ≥ 'a'.val && c.val ≤ 'z'.val) = true := h.2 c hc
  simpa [UInt32.le_iff_toNat_le] using hlower

/-- A slash and a name make no query and no fragment. -/
theorem IsName.slash_unmarked {name : List Char} (h : IsName name) :
    ∀ c ∈ '/' :: name, c ∉ "?#".toList := by
  intro c hc hmem
  rcases List.mem_cons.mp hc with rfl | hc
  · exact absurd hmem (by decide)
  · have hmarks : ∀ d ∈ "?#".toList, d.isLower = false := by decide
    exact h.forall_ne (hmarks c hmem) c hc rfl

/-- A name behind a slash brings no mark. -/
theorem IsName.unmarked_append {front name : List Char} (h : IsName name)
    (hfront : ∀ c ∈ front, c ∉ "?#".toList) : ∀ c ∈ front ++ '/' :: name, c ∉ "?#".toList :=
  fun c hc => (List.mem_append.mp hc).elim (hfront c) (h.slash_unmarked c)

/-- A name is one segment, is no dot segment, and has nothing in it to encode. -/
theorem IsName.segment {name : List Char} (h : IsName name) (scheme : String) :
    splitAtEvery (isSeparator scheme) name = [name] ∧ isSingleDot name = false ∧
      isDoubleDot name = false ∧ percentEncode .path name = String.ofList name := by
  have hlower : name.map Char.toLower = name := by
    refine (List.map_congr_left fun c hc => ?_).trans (List.map_id name)
    have hupper : ¬(c.val ≥ 'A'.val ∧ c.val ≤ 'Z'.val) := by
      intro hupper
      have hle : c.toNat ≤ 0x5A := UInt32.le_iff_toNat_le.mp hupper.2
      have := (h.code c hc).1
      omega
    exact dif_neg hupper
  refine ⟨?_, ?_, ?_, ?_⟩
  · refine List.splitOnP_eq_singleton fun c hc => ?_
    simp [isSeparator, h.forall_ne (d := '/') rfl c hc, h.forall_ne (d := '\\') rfl c hc]
  · have hdots : ∀ dots ∈ [".".toList, "%2e".toList], ¬IsName dots := by decide
    rw [isSingleDot, hlower, decide_eq_false_iff_not]
    exact fun hmem => hdots name hmem h
  · have hdots : ∀ dots ∈ ["..".toList, ".%2e".toList, "%2e.".toList, "%2e%2e".toList],
        ¬IsName dots := by decide
    rw [isDoubleDot, hlower, decide_eq_false_iff_not]
    exact fun hmem => hdots name hmem h
  · have hset : ∀ d ∈ EncodeSet.path, d.isLower = false := by decide
    rw [percentEncode]
    congr 1
    refine (List.flatMap_congr fun c hc => ?_).trans (List.flatMap_singleton' name)
    have hkept : ¬(c.toNat < 0x20 ∨ 0x7E < c.toNat ∨ c ∈ EncodeSet.path) := by
      have := h.code c hc
      rintro (hbelow | habove | hmem)
      · omega
      · omega
      · exact h.forall_ne (hset c hmem) c hc rfl
    rw [percentEncodeChar, if_neg hkept]

/-- A path whose text ends in a slash and a name ends in that name. -/
theorem pathAfterHost_concat {front name : List Char} (hfile : scheme ≠ "file")
    (hfront : front.head?.all (isSeparator scheme)) (hname : IsName name) :
    ∃ names,
      pathAfterHost scheme (front ++ '/' :: name) = .segments (names ++ [String.ofList name]) := by
  obtain ⟨hsplit, hsingle, hdouble, hencode⟩ := hname.segment scheme
  have hslash : isSeparator scheme '/' = true := rfl
  cases front with
  | nil =>
    obtain ⟨names, hnames⟩ := resolveSegments_concat hfile ⟨hsingle, hdouble⟩ [] []
    refine ⟨names, ?_⟩
    simp only [List.nil_append] at hnames
    simp [pathAfterHost, hslash, segmentsOf, hsplit, hnames, hencode]
  | cons c front =>
    have hc : isSeparator scheme c = true := hfront
    obtain ⟨names, hnames⟩ :=
      resolveSegments_concat hfile ⟨hsingle, hdouble⟩ [] (splitAtEvery (isSeparator scheme) front)
    refine ⟨names, ?_⟩
    have hsegments : splitAtEvery (isSeparator scheme) (front ++ '/' :: name) =
        splitAtEvery (isSeparator scheme) front ++ [name] := by
      rw [← hsplit]
      exact List.splitOnP_append_cons front name hslash
    simp [pathAfterHost, hc, segmentsOf, hsegments, hnames, hencode]

/-! ## Authorities -/

section

variable {body : List Char} (h : body.dropWhile (isSeparator scheme) ≠ [])
include h

/-- More text belongs to the authority as long as there is no path. -/
theorem authorityIn_append (more : List Char) :
    authorityIn scheme (body ++ more) =
      if pathIn scheme body = [] then
        authorityIn scheme body ++ more.takeWhile (!isSeparator scheme ·)
      else authorityIn scheme body := by
  rw [authorityIn, pathIn, authorityIn, dropWhile_append_of_ne_nil h]
  split
  case isTrue hpath =>
    have hall := List.dropWhile_eq_nil_iff.mp hpath
    rw [List.takeWhile_append_of_pos hall, List.takeWhile_eq_self_iff.mpr hall]
  case isFalse hpath => exact takeWhile_append_of_ne_nil hpath more

/-- More text belongs to the path once there is one. -/
theorem pathIn_append (more : List Char) :
    pathIn scheme (body ++ more) =
      if pathIn scheme body = [] then more.dropWhile (!isSeparator scheme ·)
      else pathIn scheme body ++ more := by
  rw [pathIn, pathIn, dropWhile_append_of_ne_nil h]
  split
  case isTrue hpath => exact List.dropWhile_append_of_pos (List.dropWhile_eq_nil_iff.mp hpath)
  case isFalse hpath => exact dropWhile_append_of_ne_nil hpath more

end

/-- A path begins with a separator. -/
theorem head?_pathIn (scheme : String) (body : List Char) :
    (pathIn scheme body).head?.all (isSeparator scheme) = true := by
  cases hpath : pathIn scheme body with
  | nil => rfl
  | cons c path =>
    have hne : (body.dropWhile (isSeparator scheme)).dropWhile (!isSeparator scheme ·) ≠ [] := by
      rw [← pathIn, hpath]
      simp
    have hhead := List.head_dropWhile_not (!isSeparator scheme ·) hne
    simp only [← pathIn.eq_def, hpath] at hhead
    simpa using hhead

/-- An authority is never empty. -/
theorem dropWhile_ne_nil_of_ofText {body : List Char} {authority : Authority}
    (h : Authority.ofText scheme (authorityIn scheme body) = .ok authority) :
    body.dropWhile (isSeparator scheme) ≠ [] := by
  intro hnil
  rw [authorityIn, hnil] at h
  exact absurd h (by
    simp [Authority.ofText, splitAtLast, splitAtFirst, splitPort, readHost, bind, Except.bind])

/-- A slash behind separators is one more of them. -/
theorem dropWhile_ne_nil_of_append_slash {lead : List Char}
    (h : (lead ++ ['/']).dropWhile (isSeparator scheme) ≠ []) :
    lead.dropWhile (isSeparator scheme) ≠ [] := by
  intro hnil
  rw [List.dropWhile_append, hnil] at h
  exact h rfl

/-! ## More text behind a URL -/

/-- Two URLs on the same server, for the same user. -/
structure SameServer (url base : Url) : Prop where
  scheme : url.scheme = base.scheme
  username : url.username = base.username
  password : url.password = base.password
  host : url.host = base.host
  port : url.port = base.port

/-- Whether a URL asks for the resource of a name: its path ends in it, and nothing follows. -/
def AsksFor (url : Url) (name : String) : Prop :=
  (∃ names, url.path = .segments (names ++ [name])) ∧ url.query = none ∧ url.fragment = none

/-- More text behind a query or a fragment stays there. -/
theorem readAfterScheme_append_of_query {base : Url} (special : isSpecialScheme scheme = true)
    (hfile : scheme ≠ "file") (h : readAfterScheme scheme rest = .ok base)
    (hquery : base.query ≠ none ∨ base.fragment ≠ none) (hmore : ∀ c ∈ more, c ∉ "?#".toList) :
    ∃ url, readAfterScheme scheme (rest ++ more) = .ok url ∧ url.SameServer base ∧
      url.path = base.path ∧ (url.query ≠ none ∨ url.fragment ≠ none) := by
  obtain ⟨authority, hauthority, rfl⟩ := (readAfterScheme_eq_ok_iff special hfile).mp h
  simp only [readAfterScheme_eq_ok_iff special hfile, splitQuery_append hmore]
  clear h
  generalize splitQuery rest = pieces at hauthority hquery ⊢
  obtain ⟨body, query, fragment⟩ := pieces
  cases fragment with
  | some fragment =>
    exact ⟨_, ⟨authority, hauthority, rfl⟩, ⟨rfl, rfl, rfl, rfl, rfl⟩, rfl,
      .inr (by simp [Authority.url])⟩
  | none =>
    cases query with
    | some query =>
      exact ⟨_, ⟨authority, hauthority, rfl⟩, ⟨rfl, rfl, rfl, rfl, rfl⟩, rfl,
        .inl (by simp [Authority.url])⟩
    | none => simp [Authority.url] at hquery

/-- A URL without query and fragment is one whose text has no mark of them. -/
theorem unmarked_iff {base : Url} (special : isSpecialScheme scheme = true)
    (hfile : scheme ≠ "file") (h : readAfterScheme scheme rest = .ok base) :
    (∀ c ∈ rest, c ∉ "?#".toList) ↔ base.query = none ∧ base.fragment = none := by
  obtain ⟨authority, -, rfl⟩ := (readAfterScheme_eq_ok_iff special hfile).mp h
  constructor
  · intro hunmarked
    simp [splitQuery_of_unmarked hunmarked, Authority.url]
  · rintro ⟨hquery, hfragment⟩
    exact unmarked_of_splitQuery (Option.map_eq_none_iff.mp hquery)
      (Option.map_eq_none_iff.mp hfragment)

/-- A slash and a name behind the text of a URL without query and fragment are the end of its
path. -/
theorem readAfterScheme_slash {front name : List Char} (special : isSpecialScheme scheme = true)
    (hfile : scheme ≠ "file") (hfront : ∀ c ∈ front, c ∉ "?#".toList) (hname : IsName name)
    (hne : front.dropWhile (isSeparator scheme) ≠ []) :
    readAfterScheme scheme (front ++ '/' :: name) =
      (Authority.ofText scheme (authorityIn scheme front)).map
        (·.url scheme (pathIn scheme front ++ '/' :: name) none none) := by
  have hslash : isSeparator scheme '/' = true := rfl
  simp only [readAfterScheme_of_special special hfile,
    splitQuery_of_unmarked (hname.unmarked_append hfront), authorityIn_append hne,
    pathIn_append hne]
  by_cases hpath : pathIn scheme front = [] <;> simp [hpath, hslash]

/-- A control or a space separates nothing. -/
theorem of_isControlOrSpace {c : Char} (hc : isControlOrSpace c = true) (scheme : String) :
    isSeparator scheme c = false ∧ c ∉ "?#".toList := by
  constructor
  · simp [isSeparator, ne_of_isControlOrSpace hc (d := '/') rfl,
      ne_of_isControlOrSpace hc (d := '\\') rfl]
  · simp [ne_of_isControlOrSpace hc (d := '?') rfl, ne_of_isControlOrSpace hc (d := '#') rfl]

/-- Without a query and a fragment, a slash and a name behind the text of a URL ask for the resource
on the same server, unless something stray comes to stand at the end of the authority. -/
theorem readAfterScheme_resource {base : Url} {lead stray name : List Char}
    (special : isSpecialScheme scheme = true) (hfile : scheme ≠ "file")
    (h : readAfterScheme scheme rest = .ok base) (hunmarked : ∀ c ∈ rest, c ∉ "?#".toList)
    (hstray : ∀ c ∈ stray, isControlOrSpace c = true) (hname : IsName name)
    (hcases : rest = lead ++ ['/'] ∧ stray = [] ∨ lead = rest ++ stray) :
    if stray ≠ [] ∧ pathIn scheme rest = [] then
      ∃ fault, readAfterScheme scheme (lead ++ '/' :: name) = .error fault
    else
      ∃ url, readAfterScheme scheme (lead ++ '/' :: name) = .ok url ∧ url.SameServer base ∧
        url.AsksFor (String.ofList name) := by
  obtain ⟨authority, hauthority, rfl⟩ := (readAfterScheme_eq_ok_iff special hfile).mp h
  rw [splitQuery_of_unmarked hunmarked] at hauthority ⊢
  have hok : ∀ {front : List Char}, (∀ c ∈ front, c ∉ "?#".toList) →
      front.dropWhile (isSeparator scheme) ≠ [] →
      authorityIn scheme front = authorityIn scheme rest →
      ∃ url, readAfterScheme scheme (front ++ '/' :: name) = .ok url ∧
        url.SameServer (authority.url scheme (pathIn scheme rest) none none) ∧
        url.AsksFor (String.ofList name) := by
    intro front hfront hne heq
    obtain ⟨names, hnames⟩ := pathAfterHost_concat hfile (head?_pathIn scheme front) hname
    rw [readAfterScheme_slash special hfile hfront hname hne, heq, hauthority]
    exact ⟨_, rfl, ⟨rfl, rfl, rfl, rfl, rfl⟩, ⟨names, hnames⟩, rfl, rfl⟩
  have hne := dropWhile_ne_nil_of_ofText hauthority
  rcases hcases with ⟨rfl, rfl⟩ | rfl
  · rw [if_neg (by simp)]
    have hlead := dropWhile_ne_nil_of_append_slash hne
    refine hok (fun c hc => hunmarked c (List.mem_append_left _ hc)) hlead ?_
    rw [authorityIn_append hlead]
    simp [isSeparator]
  · have hkept : stray.takeWhile (!isSeparator scheme ·) = stray := by
      rw [List.takeWhile_eq_self_iff]
      intro c hc
      simp [(of_isControlOrSpace (hstray c hc) scheme).1]
    have hlead : (rest ++ stray).dropWhile (isSeparator scheme) ≠ [] := by
      rw [dropWhile_append_of_ne_nil hne]
      simp [hne]
    have hwhole : ∀ c ∈ rest ++ stray, c ∉ "?#".toList := fun c hc =>
      (List.mem_append.mp hc).elim (hunmarked c) fun hc =>
        (of_isControlOrSpace (hstray c hc) scheme).2
    split
    case isTrue hbad =>
      rw [readAfterScheme_slash special hfile hwhole hname hlead, authorityIn_append hne,
        if_pos hbad.2, hkept]
      have hslash : '\\' ∉ authorityIn scheme rest := by
        intro hmem
        simpa [isSeparator, special] using List.mem_takeWhile_imp hmem
      obtain ⟨fault, hfault⟩ := Authority.ofText_append hauthority hslash hstray hbad.1
      exact ⟨fault, by rw [hfault]; rfl⟩
    case isFalse hgood =>
      refine hok hwhole hlead ?_
      rw [authorityIn_append hne, hkept]
      by_cases hnil : stray = []
      · simp [hnil]
      · rw [if_neg fun hpath => hgood ⟨hnil, hpath⟩]

end HealthPanel.Url
