import HealthPanel.Proofs.Url.Resource

/-!
# The path of a name below a URL

The dot segments of a path are resolved from the front, so that a name behind its text changes
nothing before it. Only the last segment is treated in a way of its own: an empty one, or a dot
segment, leaves a slash at the end of the path. Without that slash, the path of the longer text is
the path of the text and the name.
-/

namespace HealthPanel.Url

variable {scheme : String} {front text last name : List Char} {names : List String}

/-! ## Slashes at the end -/

/-- A text without one slash at its end, if there is one. -/
def withoutLastSlash (text : String) : String :=
  let letters := text.toList
  if letters.getLast? = some '/' then String.ofList letters.dropLast else text

/-- A slash at the end is taken away. -/
theorem withoutLastSlash_append_slash (text : String) : withoutLastSlash (text ++ "/") = text := by
  have hletters : (text ++ "/").toList = text.toList ++ ['/'] := String.toList_append
  rw [withoutLastSlash, hletters, List.getLast?_concat, if_pos rfl, List.dropLast_concat,
    String.ofList_toList]

/-- Where no slash is at the end nothing is taken away. -/
theorem withoutLastSlash_append {last : String} (hne : last ≠ "") (hslash : '/' ∉ last.toList)
    (text : String) : withoutLastSlash (text ++ last) = text ++ last := by
  have hlast : (text ++ last).toList.getLast? ≠ some '/' := by
    have hletters : last.toList ≠ [] := by simpa using hne
    rw [String.toList_append, List.getLast?_append_of_ne_nil _ hletters]
    exact fun h => hslash (List.mem_of_getLast? h)
  rw [withoutLastSlash, if_neg hlast]

/-- The last segment is written behind a slash. -/
theorem Path.render_concat (names : List String) (last : String) :
    (segments (names ++ [last])).render = (segments names).render ++ "/" ++ last := by
  rw [render, render, List.map_append, String.join_append, String.append_assoc]
  simp

/-! ## Segments -/

/-- An encoded byte has no slash. -/
theorem mem_percentByte {c : Char} {b : UInt8} (h : c ∈ percentByte b) : c ≠ '/' := by
  have hdigit : ∀ n < 16, Text.upperHexDigit n ≠ '/' := by decide
  have hbound := b.toNat_lt
  rw [percentByte] at h
  rcases List.mem_cons.mp h with rfl | h
  · decide
  · rcases List.mem_pair.mp h with rfl | rfl
    · exact hdigit _ (by omega)
    · exact hdigit _ (by omega)

/-- Percent-encoding brings no slashes into a text. -/
theorem slash_notMem_percentEncode {set : EncodeSet} (h : '/' ∉ text) :
    '/' ∉ (percentEncode set text).toList := by
  rw [percentEncode, String.toList_ofList, List.mem_flatMap]
  rintro ⟨c, hc, hslash⟩
  rw [percentEncodeChar] at hslash
  split at hslash
  case isTrue =>
    obtain ⟨b, -, hb⟩ := List.mem_flatMap.mp hslash
    exact mem_percentByte hb rfl
  case isFalse =>
    obtain rfl := List.mem_singleton.mp hslash
    exact h hc

/-- Of a text something is left when it is encoded. -/
theorem percentEncode_ne_empty {set : EncodeSet} (h : text ≠ []) : percentEncode set text ≠ "" := by
  obtain ⟨c, rest, rfl⟩ := List.exists_cons_of_ne_nil h
  have hc : percentEncodeChar set c ≠ [] := by
    rw [percentEncodeChar]
    split
    case isTrue =>
      obtain ⟨b, bytes, hbytes⟩ : ∃ b bytes, String.utf8EncodeChar c = b :: bytes :=
        List.exists_cons_of_ne_nil String.utf8EncodeChar_ne_nil
      simp [hbytes, percentByte]
    case isFalse => simp
  simp [percentEncode, hc]

/-- The segments behind the first separator of a path. An empty path has none. -/
def piecesOf (scheme : String) : List Char → List (List Char)
  | [] => []
  | _ :: rest => splitAtEvery (isSeparator scheme) rest

/-- The names that the segments of a path come to, where others follow them. -/
def gathered (scheme : String) (pieces : List (List Char)) : List String :=
  (pieces.foldl (enter scheme) []).reverse

/-- The last segment of a path is resolved behind the names that those before it come to. -/
theorem resolveSegments_concat_eq (done : List String) (pieces : List (List Char))
    (last : List Char) :
    resolveSegments scheme done (pieces ++ [last]) =
      (if isDoubleDot last ∨ isSingleDot last then
        "" :: enter scheme (pieces.foldl (enter scheme) done) last
      else enter scheme (pieces.foldl (enter scheme) done) last).reverse := by
  induction pieces generalizing done with
  | nil => rfl
  | cons first pieces ih =>
    obtain ⟨second, others, hothers⟩ :=
      List.exists_cons_of_ne_nil
        (List.append_ne_nil_of_right_ne_nil pieces (List.cons_ne_nil last []))
    rw [List.foldl_cons, ← ih, List.cons_append, hothers, resolveSegments]
    simp

/-- A segment that is no dot segment comes last, behind the names of those before it. -/
theorem resolveSegments_concat_of_plain (hfile : scheme ≠ "file")
    (hdots : isSingleDot last = false ∧ isDoubleDot last = false) (pieces : List (List Char)) :
    resolveSegments scheme [] (pieces ++ [last]) =
      gathered scheme pieces ++ [percentEncode .path last] := by
  rw [resolveSegments_concat_eq]
  simp [enter, hfile, hdots, gathered]

/-- What stands behind one more slash comes last in the path. -/
theorem pathAfterHost_slash (hfile : scheme ≠ "file")
    (hfront : front.head?.all (isSeparator scheme))
    (hlast : ∀ c ∈ last, isSeparator scheme c = false)
    (hdots : isSingleDot last = false ∧ isDoubleDot last = false) :
    pathAfterHost scheme (front ++ '/' :: last) =
      .segments (gathered scheme (piecesOf scheme front) ++ [percentEncode .path last]) := by
  have hslash : isSeparator scheme '/' = true := rfl
  have hsplit : splitAtEvery (isSeparator scheme) last = [last] := List.splitOnP_eq_singleton hlast
  rw [← resolveSegments_concat_of_plain hfile hdots]
  cases front with
  | nil => simp [pathAfterHost, hslash, segmentsOf, hsplit, piecesOf]
  | cons c front =>
    have hc : isSeparator scheme c = true := hfront
    have hpieces : splitAtEvery (isSeparator scheme) (front ++ '/' :: last) =
        splitAtEvery (isSeparator scheme) front ++ [last] := by
      rw [← hsplit]
      exact List.splitOnP_append_cons front last hslash
    simp [pathAfterHost, hc, segmentsOf, hpieces, piecesOf]

/-- A text is cut at its last mark into the pieces before and the one behind it. -/
theorem exists_splitAtEvery_eq_concat (isMark : Char → Bool) (hne : text ≠ [])
    (hends : ∀ c, text.getLast? = some c → isMark c = false) :
    ∃ pieces last, splitAtEvery isMark text = pieces ++ [last] ∧ last ≠ [] ∧
      ∀ c ∈ last, isMark c = false := by
  rcases splitAtLast_cases isMark text with
    ⟨hnone, -⟩ | ⟨before, mark, after, rfl, hafter, hmark, -⟩
  · exact ⟨[], text, List.splitOnP_eq_singleton hnone, hne, hnone⟩
  · refine ⟨splitAtEvery isMark before, after, ?_, ?_, hafter⟩
    · rw [← List.splitOnP_eq_singleton hafter]
      exact List.splitOnP_append_cons before after hmark
    · rintro rfl
      have hnot := hends mark (by simp)
      exact Bool.false_ne_true (hnot.symm.trans hmark)

/-- A path whose text ends in no separator ends in a slash only where a dot segment has left it. -/
theorem withoutLastSlash_pathAfterHost (special : isSpecialScheme scheme = true)
    (hfile : scheme ≠ "file") (hfront : front.head?.all (isSeparator scheme))
    (hends : ∀ c, front.getLast? = some c → isSeparator scheme c = false) :
    withoutLastSlash (pathAfterHost scheme front).render =
      (Path.segments (gathered scheme (piecesOf scheme front))).render := by
  cases front with
  | nil =>
    simp only [pathAfterHost, special, if_true]
    exact withoutLastSlash_append_slash ""
  | cons c text =>
    have hc : isSeparator scheme c = true := hfront
    have hne : text ≠ [] := by
      rintro rfl
      exact Bool.false_ne_true ((hends c rfl).symm.trans hc)
    have htext : ∀ d, text.getLast? = some d → isSeparator scheme d = false :=
      fun d hd => hends d (by rw [List.getLast?_cons, hd, Option.getD_some])
    obtain ⟨pieces, last, hpieces, hlast, hunmarked⟩ :=
      exists_splitAtEvery_eq_concat (isSeparator scheme) hne htext
    have hgathered : gathered scheme (piecesOf scheme (c :: text)) =
        (enter scheme (pieces.foldl (enter scheme) []) last).reverse := by
      rw [gathered, piecesOf, hpieces, List.foldl_concat]
    rw [hgathered, pathAfterHost, if_pos hc, segmentsOf, hpieces, resolveSegments_concat_eq]
    by_cases hdots : isDoubleDot last ∨ isSingleDot last
    · rw [if_pos hdots, List.reverse_cons, Path.render_concat, String.append_empty]
      exact withoutLastSlash_append_slash _
    · have hslash : '/' ∉ last := fun hmem => Bool.false_ne_true (hunmarked '/' hmem).symm
      obtain ⟨hdouble, hsingle⟩ := not_or.mp hdots
      rw [if_neg hdots, enter, if_neg hdouble, if_neg hsingle, if_neg (by simp [hfile]),
        List.reverse_cons, Path.render_concat]
      exact withoutLastSlash_append (percentEncode_ne_empty hlast)
        (slash_notMem_percentEncode hslash) _

/-! ## Whole texts -/

/-- A slash and what stands behind it go on with the path. -/
theorem pathIn_append_slash {body : List Char} (h : body.dropWhile (isSeparator scheme) ≠ [])
    (more : List Char) :
    pathIn scheme (body ++ '/' :: more) = pathIn scheme body ++ '/' :: more := by
  rw [pathIn_append h]
  by_cases hnil : pathIn scheme body = [] <;> simp [hnil, isSeparator]

/-- A slash and a name behind the text of a URL are its path without the slash at the end, and the
name: one slash that is there already is that slash, and no other separator may be. -/
theorem readAfterScheme_path {base url : Url} {rest lead : List Char}
    (special : isSpecialScheme scheme = true) (hfile : scheme ≠ "file")
    (h : readAfterScheme scheme rest = .ok base)
    (hurl : readAfterScheme scheme (lead ++ '/' :: name) = .ok url)
    (hunmarked : ∀ c ∈ rest, c ∉ "?#".toList) (hname : IsName name)
    (hcases : rest = lead ++ ['/'] ∨
      rest = lead ∧ ∀ c, rest.getLast? = some c → isSeparator scheme c = false) :
    url.path.render = withoutLastSlash base.path.render ++ "/" ++ String.ofList name := by
  obtain ⟨authority, hauthority, rfl⟩ := (readAfterScheme_eq_ok_iff special hfile).mp h
  obtain ⟨other, -, rfl⟩ := (readAfterScheme_eq_ok_iff special hfile).mp hurl
  have hne := dropWhile_ne_nil_of_ofText hauthority
  have hlead : lead.dropWhile (isSeparator scheme) ≠ [] ∧ ∀ c ∈ lead, c ∉ "?#".toList := by
    rw [splitQuery_of_unmarked hunmarked] at hne
    rcases hcases with rfl | ⟨rfl, -⟩
    · exact ⟨dropWhile_ne_nil_of_append_slash hne,
        fun c hc => hunmarked c (List.mem_append_left _ hc)⟩
    · exact ⟨hne, hunmarked⟩
  obtain ⟨-, hsingle, hdouble, hencode⟩ := hname.segment scheme
  have hseparates : ∀ c ∈ name, isSeparator scheme c = false := by
    intro c hc
    simp [isSeparator, hname.forall_ne (d := '/') rfl c hc, hname.forall_ne (d := '\\') rfl c hc]
  have hfront := head?_pathIn scheme lead
  simp only [Authority.url, splitQuery_of_unmarked hunmarked,
    splitQuery_of_unmarked (hname.unmarked_append hlead.2), pathIn_append_slash hlead.1,
    pathAfterHost_slash hfile hfront hseparates ⟨hsingle, hdouble⟩, hencode, Path.render_concat]
  congr 2
  rcases hcases with rfl | ⟨rfl, hends⟩
  · have hnothing : percentEncode .path [] = "" := rfl
    rw [pathIn_append_slash hlead.1, pathAfterHost_slash hfile hfront
      (fun c hc => absurd hc List.not_mem_nil) (by decide), Path.render_concat, hnothing,
      String.append_empty, withoutLastSlash_append_slash]
  · refine (withoutLastSlash_pathAfterHost special hfile hfront ?_).symm
    intro c hc
    obtain ⟨front, hsuffix⟩ : pathIn scheme rest <:+ rest :=
      (List.dropWhile_suffix _).trans (List.dropWhile_suffix _)
    exact hends c (by rw [← hsuffix, List.getLast?_append, hc, Option.some_or])

/-- A longer text that ends in a slash and a name has the path of the text and the name. -/
theorem ofString_path {text longer : String} {base url : Url} (h : ofString text = .ok base)
    (web : base.scheme ∈ ["http", "https"]) (hurl : ofString longer = .ok url) (hname : IsName name)
    (hunmarked : ∀ c ∈ significant text, c ∉ "?#".toList)
    (hlonger : significant longer = front ++ '/' :: name)
    (hcases : significant text = front ++ ['/'] ∨
      significant text = front ∧ ∀ c, front.getLast? = some c → c ≠ '/' ∧ c ≠ '\\') :
    url.path.render = withoutLastSlash base.path.render ++ "/" ++ String.ofList name := by
  obtain ⟨rest, hscheme, hread, special, hfile⟩ := exists_rest_of_ofString h web
  obtain ⟨before, hbefore⟩ := exists_of_splitScheme? hscheme
  have hrest : ∀ c ∈ rest, c ∉ "?#".toList := fun c hc =>
    hunmarked c (hbefore ▸ List.mem_append_right _ (List.mem_cons_of_mem _ hc))
  rcases hcases with hslash | ⟨rfl, hends⟩
  · obtain ⟨lead, rfl⟩ := exists_concat_of_splitScheme? (hslash ▸ hscheme)
    have hwhole := splitScheme?_append hscheme name
    rw [hslash, List.append_assoc, List.append_assoc, List.singleton_append] at hwhole
    rw [ofString, hlonger, hwhole] at hurl
    exact readAfterScheme_path special hfile hread hurl hrest hname (.inl rfl)
  · rw [ofString, hlonger, splitScheme?_append hscheme] at hurl
    refine readAfterScheme_path special hfile hread hurl hrest hname (.inr ⟨rfl, fun c hc => ?_⟩)
    have hlast : (significant text).getLast? = some c := by
      rw [hbefore, List.getLast?_append, List.getLast?_cons, hc]
      rfl
    simp [isSeparator, hends c hlast]

end HealthPanel.Url
