import HealthPanel.Proofs.Url.Extension
import Mathlib.Data.List.DropRight

/-!
# The URL of a resource below another URL

A resource is named by putting a slash and its name behind the text of a URL. Controls and spaces
at the end of that text are left out where it is read alone, but not where they come to stand in
front of the slash.
-/

namespace HealthPanel.Url

variable {scheme text : String} {rest name : List Char}

/-! ## What is significant -/

/-- The controls and spaces behind a text, without line breaks and tabs. -/
def strays (text : String) : List Char :=
  (text.toList.rtakeWhile isControlOrSpace).filter (!isLineBreakOrTab ·)

/-- The significant characters, once more: the ends are taken off in turn. -/
theorem significant_eq (text : String) :
    significant text =
      ((text.toList.dropWhile isControlOrSpace).rdropWhile isControlOrSpace).filter
        (!isLineBreakOrTab ·) := rfl

/-- What has significant characters does not consist of controls and blanks. -/
theorem dropWhile_ne_nil_of_significant (h : significant text ≠ []) :
    text.toList.dropWhile isControlOrSpace ≠ [] := by
  intro hnil
  rw [significant_eq, hnil] at h
  exact h rfl

/-- More text behind a text is significant with all that it comes to stand behind. -/
theorem significant_append (h : significant text ≠ []) (more : List Char) {c : Char}
    (hlast : more.getLast? = some c) (hc : isControlOrSpace c = false) :
    significant (String.ofList (text.toList ++ more)) =
      (text.toList.dropWhile isControlOrSpace ++ more).filter (!isLineBreakOrTab ·) := by
  rw [significant_eq, String.toList_ofList,
    dropWhile_append_of_ne_nil (dropWhile_ne_nil_of_significant h)]
  congr 1
  rw [List.rdropWhile_eq_self_iff]
  intro hne
  have hend := List.getLast?_eq_some_getLast hne
  rw [List.getLast?_append, hlast, Option.some_or] at hend
  rw [← Option.some.inj hend, hc]
  exact Bool.false_ne_true

/-- What is behind the controls and spaces in front is significant or stray. -/
theorem significant_append_strays (h : significant text ≠ []) :
    (text.toList.dropWhile isControlOrSpace).filter (!isLineBreakOrTab ·) =
      significant text ++ strays text := by
  have hback : text.toList.rtakeWhile isControlOrSpace =
      (text.toList.dropWhile isControlOrSpace).rtakeWhile isControlOrSpace := by
    have hdrop :
        (text.toList.dropWhile isControlOrSpace).reverse.dropWhile isControlOrSpace ≠ [] := by
      intro hnil
      rw [significant_eq, List.rdropWhile, hnil] at h
      exact h rfl
    conv_lhs => rw [← List.takeWhile_append_dropWhile (p := isControlOrSpace) (l := text.toList)]
    rw [List.rtakeWhile, List.reverse_append, takeWhile_append_of_ne_nil hdrop]
    rfl
  rw [significant_eq, strays, hback, ← List.filter_append, List.rdropWhile_append_rtakeWhile]

/-- A name holds no controls and no spaces. -/
theorem IsName.isControlOrSpace_eq_false (h : IsName name) :
    ∀ c ∈ name, isControlOrSpace c = false := by
  intro c hc
  have := h.code c hc
  exact decide_eq_false (by omega)

/-- A name holds nothing that is dropped from a text. -/
theorem IsName.filter_eq_self (h : IsName name) : name.filter (!isLineBreakOrTab ·) = name := by
  have hbreak : ∀ c, isLineBreakOrTab c = true → isControlOrSpace c = true := by
    intro c hc
    simp only [isLineBreakOrTab, Bool.or_eq_true, decide_eq_true_eq] at hc
    rcases hc with (rfl | rfl) | rfl <;> rfl
  rw [List.filter_eq_self]
  intro c hc
  rw [Bool.not_eq_true', Bool.eq_false_iff]
  intro hdropped
  exact absurd (hbreak c hdropped) (by simp [h.isControlOrSpace_eq_false c hc])

/-- Nothing behind the last character of a text is stray, and it is significant itself, unless it is
a control or a space. -/
theorem of_getLast? {c : Char} (hlast : text.toList.getLast? = some c)
    (hc : isControlOrSpace c = false) :
    strays text = [] ∧ (significant text).getLast? = some c := by
  obtain ⟨letters, hletters⟩ := List.getLast?_eq_some_iff.mp hlast
  have hkept : isLineBreakOrTab c = false := by
    rw [Bool.eq_false_iff]
    intro hbreak
    simp only [isLineBreakOrTab, Bool.or_eq_true, decide_eq_true_eq] at hbreak
    rcases hbreak with (rfl | rfl) | rfl <;> exact absurd hc (by decide)
  have hcontrol : ¬isControlOrSpace c = true := by simp [hc]
  constructor
  · rw [strays, hletters, List.rtakeWhile_concat_neg _ _ _ hcontrol]
    rfl
  · obtain ⟨front, hfront⟩ :
        ∃ front, (letters ++ [c]).dropWhile isControlOrSpace = front ++ [c] := by
      have hdrop : [c].dropWhile isControlOrSpace = [c] := List.dropWhile_cons_of_neg hcontrol
      rw [List.dropWhile_append, hdrop]
      split
      case isTrue => exact ⟨[], rfl⟩
      case isFalse => exact ⟨_, rfl⟩
    rw [significant_eq, hletters, hfront, List.rdropWhile_concat_neg _ _ _ hcontrol]
    simp [hkept]

/-! ## Whole texts -/

/-- Whether nothing follows the authority in the text of a special URL. -/
def endsInAuthority (text : String) : Bool :=
  (splitScheme? (significant text)).any fun (scheme, rest) =>
    (rest.dropWhile (isSeparator scheme)).all (· ∉ "/\\?#".toList)

/-- Nothing follows the authority exactly if there is neither path nor query nor fragment. -/
theorem endsInAuthority_iff (special : isSpecialScheme scheme = true)
    (h : splitScheme? (significant text) = some (scheme, rest)) :
    endsInAuthority text = true ↔
      (∀ c ∈ rest, c ∉ "?#".toList) ∧ pathIn scheme rest = [] := by
  have hseparator : ∀ c, isSeparator scheme c = true ↔ c = '/' ∨ c = '\\' := by
    intro c
    simp [isSeparator, special]
  have hmarks : ∀ c, c ∉ "/\\?#".toList ↔ c ∉ "?#".toList ∧ isSeparator scheme c = false := by
    intro c
    rw [← Bool.not_eq_true, hseparator]
    simp
    tauto
  rw [endsInAuthority, h, Option.any_some, List.all_eq_true, pathIn, List.dropWhile_eq_nil_iff]
  simp only [decide_eq_true_eq, hmarks, Bool.not_eq_true']
  constructor
  · intro hall
    refine ⟨fun c hc => ?_, fun c hc => (hall c hc).2⟩
    rw [← List.takeWhile_append_dropWhile (p := isSeparator scheme) (l := rest)] at hc
    rcases List.mem_append.mp hc with hc | hc
    · rcases (hseparator c).mp (List.mem_takeWhile_imp hc) with rfl | rfl <;> decide
    · exact (hall c hc).1
  · rintro ⟨hunmarked, hpath⟩ c hc
    exact ⟨hunmarked c ((List.dropWhile_suffix _).subset hc), hpath c hc⟩

/-- What of a text stands before the slash and the name that are put behind it. A slash at the end
of the text is that slash; without one, the controls and spaces there come to stand inside. -/
inductive Leads (text : String) : List Char → Prop
  | slash {front : List Char} (significant_eq : significant text = front ++ ['/'])
      (strays_eq : strays text = []) : Leads text front
  | whole : Leads text (significant text ++ strays text)

/-- A slash at the end of a text stands behind its scheme. -/
theorem exists_concat_of_splitScheme? {front : List Char}
    (h : splitScheme? (front ++ ['/']) = some (scheme, rest)) : ∃ lead, rest = lead ++ ['/'] := by
  obtain ⟨before, hbefore⟩ := exists_of_splitScheme? h
  have hend : (before ++ ':' :: rest).getLast? = some '/' := by
    rw [← hbefore, List.getLast?_concat]
  cases rest with
  | nil => simp at hend
  | cons c rest => exact List.getLast?_eq_some_iff.mp (by simpa using hend)

/-- What stands before the slash and the name after the scheme. -/
theorem Leads.splitScheme?_eq {front : List Char} (hfront : Leads text front)
    (h : splitScheme? (significant text) = some (scheme, rest)) (name : List Char) :
    ∃ lead, splitScheme? (front ++ '/' :: name) = some (scheme, lead ++ '/' :: name) ∧
      (rest = lead ++ ['/'] ∧ strays text = [] ∨ lead = rest ++ strays text) := by
  cases hfront with
  | whole =>
    refine ⟨rest ++ strays text, ?_, .inr rfl⟩
    simpa using splitScheme?_append h (strays text ++ '/' :: name)
  | slash hsignificant hstrays =>
    obtain ⟨lead, rfl⟩ := exists_concat_of_splitScheme? (hsignificant ▸ h)
    refine ⟨lead, ?_, .inl ⟨rfl, hstrays⟩⟩
    simpa [hsignificant] using splitScheme?_append h name

/-- A URL is not read from nothing. -/
theorem significant_ne_nil_of_ofString {base : Url} (h : ofString text = .ok base) :
    significant text ≠ [] := by
  intro hnil
  rw [ofString, hnil] at h
  exact absurd h (by simp [splitScheme?])

/-- Significant characters are characters of the text. -/
theorem mem_of_mem_significant {c : Char} (h : c ∈ significant text) : c ∈ text.toList := by
  rw [significant_eq] at h
  exact (List.dropWhile_suffix _).subset
    ((List.rdropWhile_prefix _ _).subset (List.mem_of_mem_filter h))

/-- A URL of the web is read after a special scheme, which is not that of files. -/
theorem exists_rest_of_ofString {base : Url} (h : ofString text = .ok base)
    (web : base.scheme ∈ ["http", "https"]) :
    ∃ rest, splitScheme? (significant text) = some (base.scheme, rest) ∧
      readAfterScheme base.scheme rest = .ok base ∧ isSpecialScheme base.scheme = true ∧
      base.scheme ≠ "file" := by
  have hweb : ∀ scheme ∈ ["http", "https"], isSpecialScheme scheme = true ∧ scheme ≠ "file" := by
    decide
  unfold ofString at h
  split at h
  case h_1 scheme rest hscheme =>
    obtain rfl : base.scheme = scheme := scheme_of_readAfterScheme h
    exact ⟨rest, hscheme, h, hweb _ web⟩
  case h_2 => exact absurd h (by simp)

/-- A URL of the web has a host that can be asked. -/
theorem hasHost_of_ofString {base : Url} (h : ofString text = .ok base)
    (web : base.scheme ∈ ["http", "https"]) : base.hasHost = true := by
  obtain ⟨rest, -, hread, special, hfile⟩ := exists_rest_of_ofString h web
  obtain ⟨authority, hauthority, hbase⟩ := (readAfterScheme_eq_ok_iff special hfile).mp hread
  rw [← hbase]
  exact Authority.isPresent_of_ofText hauthority

/-- More text that ends in a slash and a name makes the URL of that resource, on the same server,
unless the text of the URL ends in its authority and in controls or spaces, or the URL has a query
or a fragment. -/
theorem ofString_resource {longer : String} {base : Url} {front : List Char}
    (h : ofString text = .ok base) (web : base.scheme ∈ ["http", "https"]) (hname : IsName name)
    (hfront : Leads text front) (hlonger : significant longer = front ++ '/' :: name) :
    ((∃ url, ofString longer = .ok url) ↔ ¬(strays text ≠ [] ∧ endsInAuthority text = true)) ∧
    ∀ url, ofString longer = .ok url → url.SameServer base ∧
      (url.AsksFor (String.ofList name) ↔ base.query = none ∧ base.fragment = none) ∧
      (base.query ≠ none ∨ base.fragment ≠ none → url.path = base.path) := by
  obtain ⟨rest, hscheme, hread, special, hfile⟩ := exists_rest_of_ofString h web
  obtain ⟨lead, hlead, hcases⟩ := hfront.splitScheme?_eq hscheme name
  have hofString : ofString longer = readAfterScheme base.scheme (lead ++ '/' :: name) := by
    rw [ofString, hlonger, hlead]
  have hstray : ∀ c ∈ strays text, isControlOrSpace c = true := fun c hc =>
    List.mem_rtakeWhile_imp (List.mem_of_mem_filter hc)
  have hmarks := unmarked_iff special hfile hread
  rw [hofString, endsInAuthority_iff special hscheme]
  by_cases hquery : base.query = none ∧ base.fragment = none
  · have hunmarked := hmarks.mpr hquery
    have hresource := readAfterScheme_resource special hfile hread hunmarked hstray hname hcases
    split at hresource
    case isTrue hbad =>
      obtain ⟨fault, hfault⟩ := hresource
      refine ⟨iff_of_false ?_ (not_not_intro ⟨hbad.1, hunmarked, hbad.2⟩), fun url hurl => ?_⟩
      · rintro ⟨url, hurl⟩
        exact absurd (hfault.symm.trans hurl) (by simp)
      · exact absurd (hfault.symm.trans hurl) (by simp)
    case isFalse hgood =>
      obtain ⟨url, hurl, hserver, hasks⟩ := hresource
      refine ⟨⟨fun _ hbad => hgood ⟨hbad.1, hbad.2.2⟩, fun _ => ⟨url, hurl⟩⟩, ?_⟩
      intro other hother
      obtain rfl : url = other := Except.ok.inj (hurl.symm.trans hother)
      exact ⟨hserver, iff_of_true hasks hquery, fun hsome => absurd hquery (not_and_or.mpr hsome)⟩
  · have hmarked : ¬∀ c ∈ rest, c ∉ "?#".toList := fun h => hquery (hmarks.mp h)
    obtain ⟨more, hmore, hrest⟩ : ∃ more, (∀ c ∈ more, c ∉ "?#".toList) ∧
        lead ++ '/' :: name = rest ++ more := by
      rcases hcases with ⟨rfl, -⟩ | rfl
      · exact ⟨name, fun c hc => hname.slash_unmarked c (List.mem_cons_of_mem _ hc), by simp⟩
      · exact ⟨strays text ++ '/' :: name,
          hname.unmarked_append fun c hc => (of_isControlOrSpace (hstray c hc) base.scheme).2,
          by simp⟩
    obtain ⟨url, hurl, hserver, hpath, hother⟩ :=
      readAfterScheme_append_of_query special hfile hread (not_and_or.mp hquery) hmore
    rw [hrest]
    refine ⟨⟨fun _ hbad => hmarked hbad.2.1, fun _ => ⟨url, hurl⟩⟩, ?_⟩
    intro found hfound
    obtain rfl : url = found := Except.ok.inj (hurl.symm.trans hfound)
    exact ⟨hserver, iff_of_false (fun hasks => not_and_or.mpr hother hasks.2) hquery,
      fun _ => hpath⟩

end HealthPanel.Url
