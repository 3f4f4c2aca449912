import HealthPanel.Proofs.Url.Host
import HealthPanel.Proofs.Url.Splitting

/-!
# The authority of a special URL

A URL with a special scheme needs a host, so what stands between its slashes and its path is read
on its own, whatever follows it. A control or a space at the end of it is never read over.
-/

namespace HealthPanel.Url

/-- What the authority of a special URL says. -/
structure Authority where
  username : String
  password : Option String
  host : Host
  port : Option Nat

namespace Authority

/-- Reads the authority of a special URL. -/
def ofText (scheme : String) (text : List Char) : Except Fault Authority := do
  let (credentials, hostAndPort) := splitAtLast (· = '@') text
  let (username, password) := readCredentials credentials
  let (hostText, portText) := splitPort false hostAndPort
  let host ← readHost true hostText
  let (port, _) ← readPort (portText.getD [])
  return {
    username := username
    password := password
    host := host
    port := port.filter fun n => defaultPort? scheme ≠ some n }

/-- The URL of an authority and of what follows it. -/
def url (authority : Authority) (scheme : String) (path : List Char)
    (query fragment : Option (List Char)) : Url :=
  { scheme := scheme
    username := authority.username
    password := authority.password
    host := some authority.host
    port := authority.port
    path := pathAfterHost scheme path
    query := query.map (percentEncode .specialQuery)
    fragment := fragment.map (percentEncode .fragment) }

end Authority

/-- A domain name is never empty. -/
theorem Host.ofDomain_ne_empty (text : List Char) : ofDomain text ≠ .ok (name "") := by
  unfold ofDomain
  split
  case isTrue =>
    unfold ofBrackets
    split
    case isTrue => split <;> simp
    case isFalse => simp
  case isFalse =>
    dsimp only
    split
    case h_1 domain _ =>
      by_cases hdomain : domain = ""
      · simp [ofAscii, hdomain]
      · rw [ofAscii, if_neg hdomain]
        split
        case isTrue => split <;> simp
        case isFalse => simpa using hdomain
    case h_2 => simp

/-- The host of a URL of the web is a domain or an address. -/
theorem readHost_of_special {text : List Char} (h : text ≠ []) :
    readHost true text = Host.ofDomain text := by
  rw [readHost, if_pos rfl, if_neg h]

/-- A host of a special URL can be asked. -/
theorem isPresent_of_readHost {text : List Char} {host : Host}
    (h : readHost true text = .ok host) : host.isPresent = true := by
  cases host with
  | ipv4 _ | ipv6 _ => rfl
  | name domain =>
    have htext : text ≠ [] := by
      rintro rfl
      exact absurd h (by simp [readHost])
    have hdomain : domain ≠ "" := by
      rintro rfl
      exact Host.ofDomain_ne_empty text (readHost_of_special htext ▸ h)
    simpa [Host.isPresent] using hdomain

/-- An authority is on a host that can be asked. -/
theorem Authority.isPresent_of_ofText {scheme : String} {text : List Char} {authority : Authority}
    (h : ofText scheme text = .ok authority) : authority.host.isPresent = true := by
  simp only [ofText, bind, Except.bind] at h
  split at h
  case h_1 => exact absurd h (by simp)
  case h_2 host hhost =>
    split at h
    case h_1 => exact absurd h (by simp)
    case h_2 =>
      rw [← Except.ok.inj h]
      exact isPresent_of_readHost hhost

/-- All of a port is read where it holds no backslash. -/
theorem eq_nil_of_readPort {text unread : List Char} {port : Option Nat} (hslash : '\\' ∉ text)
    (h : readPort text = .ok (port, unread)) : unread = [] := by
  unfold readPort at h
  dsimp only at h
  split at h
  case isTrue => exact absurd h (by simp)
  case isFalse hread =>
    obtain ⟨-, rfl⟩ := Prod.mk.inj (Except.ok.inj h)
    cases hrest : text.dropWhile Char.isDigit with
    | nil => rfl
    | cons c rest =>
      have hc : c ∈ text := (List.dropWhile_suffix Char.isDigit).subset (hrest ▸ List.mem_cons_self)
      obtain rfl : c = '\\' := by simpa [hrest] using (not_or.mp hread).2
      exact absurd hc hslash

/-- Controls and spaces behind a port are not read over. -/
theorem readPort_append {text strays : List Char} {port : Option Nat}
    (h : readPort text = .ok (port, [])) (hstrays : ∀ c ∈ strays, isControlOrSpace c = true)
    (hne : strays ≠ []) : readPort (text ++ strays) = .error .invalidPort := by
  have hdigits : ∀ c ∈ text, c.isDigit = true := by
    unfold readPort at h
    dsimp only at h
    split at h
    case isTrue => exact absurd h (by simp)
    case isFalse => exact List.dropWhile_eq_nil_iff.mp (Prod.mk.inj (Except.ok.inj h)).2
  obtain ⟨c, rest, rfl⟩ := List.exists_cons_of_ne_nil hne
  have hc : isControlOrSpace c = true := hstrays c List.mem_cons_self
  have hdigit : c.isDigit = false := by
    have hle : c.toNat ≤ 0x20 := of_decide_eq_true hc
    rw [Bool.eq_false_iff]
    intro hdigit
    simp only [Char.isDigit, ge_iff_le, Bool.and_eq_true, decide_eq_true_eq,
      UInt32.le_iff_toNat_le] at hdigit
    have hzero : 0x30 ≤ c.toNat := hdigit.1
    omega
  have hslash : c ≠ '\\' := ne_of_isControlOrSpace hc rfl
  simp [readPort, List.dropWhile_append_of_pos hdigits, hdigit, hslash]

/-! ## Whole URLs -/

/-- The text of the authority: what stands between the slashes in front and the next one. -/
def authorityIn (scheme : String) (body : List Char) : List Char :=
  (body.dropWhile (isSeparator scheme)).takeWhile (!isSeparator scheme ·)

/-- The text of the path, with the slash in front of it. -/
def pathIn (scheme : String) (body : List Char) : List Char :=
  (body.dropWhile (isSeparator scheme)).dropWhile (!isSeparator scheme ·)

/-- A special URL is its authority and what follows that. -/
theorem readAuthority_of_special {scheme : String} (special : isSpecialScheme scheme = true)
    (text : List Char) (query fragment : Option (List Char)) :
    readAuthority scheme text query fragment =
      (Authority.ofText scheme (text.takeWhile (!isSeparator scheme ·))).map
        (·.url scheme (text.dropWhile (!isSeparator scheme ·)) query fragment) := by
  have hslash : '\\' ∉ text.takeWhile (!isSeparator scheme ·) := by
    intro hmem
    simpa [isSeparator, special] using List.mem_takeWhile_imp hmem
  simp only [readAuthority, Authority.ofText, special]
  generalize text.takeWhile (!isSeparator scheme ·) = authority at hslash ⊢
  have hport : '\\' ∉ (splitPort false (splitAtLast (· = '@') authority).2).2.getD [] :=
    fun h => hslash (mem_of_mem_splitAtLast (mem_of_mem_splitPort h))
  generalize splitAtLast (· = '@') authority = split at hport ⊢
  obtain ⟨credentials, hostAndPort⟩ := split
  generalize readCredentials credentials = userinfo
  obtain ⟨username, password⟩ := userinfo
  dsimp only at hport ⊢
  cases hpieces : splitPort false hostAndPort with
  | mk hostText portText =>
  rw [hpieces] at hport
  dsimp only at hport ⊢
  have hempty : hostAndPort = [] → readHost true hostText = .error .emptyHost := by
    rintro rfl
    obtain ⟨rfl, -⟩ := Prod.mk.inj hpieces
    rfl
  -- The check for an empty host with credentials fails as reading the host does anyway.
  cases hhost : readHost true hostText with
  | error fault =>
    split
    case isTrue hnothing =>
      obtain rfl : Fault.emptyHost = fault :=
        Except.error.inj ((hempty hnothing.2.1).symm.trans hhost)
      rfl
    case isFalse => rfl
  | ok host =>
    rw [if_neg fun hnothing => absurd ((hempty hnothing.2.1).symm.trans hhost) (by simp)]
    simp only [bind, Except.bind, pure, Except.pure, isPresent_of_readHost hhost]
    cases hread : readPort (portText.getD []) with
    | error fault => rfl
    | ok r =>
      obtain ⟨port, unread⟩ := r
      obtain rfl : unread = [] := eq_nil_of_readPort hport hread
      rfl

/-- A special URL after its scheme, unless it is that of a file. -/
theorem readAfterScheme_of_special {scheme : String} (special : isSpecialScheme scheme = true)
    (hfile : scheme ≠ "file") (text : List Char) :
    readAfterScheme scheme text =
      let pieces := splitQuery text
      (Authority.ofText scheme (authorityIn scheme pieces.1)).map
        (·.url scheme (pathIn scheme pieces.1) pieces.2.1 pieces.2.2) := by
  simp only [readAfterScheme, if_neg hfile, if_pos special, readAuthority_of_special special]
  rfl

/-- A special URL is read exactly if its authority is. -/
theorem readAfterScheme_eq_ok_iff {scheme : String} (special : isSpecialScheme scheme = true)
    (hfile : scheme ≠ "file") {text : List Char} {url : Url} :
    readAfterScheme scheme text = .ok url ↔
      ∃ authority,
        Authority.ofText scheme (authorityIn scheme (splitQuery text).1) = .ok authority ∧
        authority.url scheme (pathIn scheme (splitQuery text).1) (splitQuery text).2.1
          (splitQuery text).2.2 = url := by
  simp only [readAfterScheme_of_special special hfile]
  cases Authority.ofText scheme (authorityIn scheme (splitQuery text).1) <;> simp [Except.map]

/-- A control or a space at the end of an authority is not read over. -/
theorem Authority.ofText_append {scheme : String} {text strays : List Char} {authority : Authority}
    (h : ofText scheme text = .ok authority) (hslash : '\\' ∉ text)
    (hstrays : ∀ c ∈ strays, isControlOrSpace c = true) (hne : strays ≠ []) :
    ∃ fault, ofText scheme (text ++ strays) = .error fault := by
  have hmark : ∀ c ∈ strays, decide (c = '@') = false := fun c hc =>
    decide_eq_false (ne_of_isControlOrSpace (hstrays c hc) rfl)
  have hport : ∀ c ∈ strays, c ∉ ":[]".toList := by
    intro c hc hmem
    have hlisted : ∀ d ∈ ":[]".toList, isControlOrSpace d = false := by decide
    exact absurd rfl (ne_of_isControlOrSpace (hstrays c hc) (hlisted c hmem))
  have hread : '\\' ∉ (splitPort false (splitAtLast (· = '@') text).2).2.getD [] :=
    fun h => hslash (mem_of_mem_splitAtLast (mem_of_mem_splitPort h))
  simp only [ofText, splitAtLast_append hmark, splitPort_append hport] at h ⊢
  generalize splitPort false (splitAtLast (· = '@') text).2 = pieces at h hread ⊢
  obtain ⟨hostText, portText⟩ := pieces
  cases portText with
  | none =>
    have hlast := hstrays _ (List.getLast_mem hne)
    obtain ⟨fault, hfault⟩ := Host.ofDomain_concat hlast (hostText ++ strays.dropLast)
    rw [List.append_assoc, List.dropLast_concat_getLast hne] at hfault
    have hhost : readHost true (hostText ++ strays) = .error fault := by
      rw [readHost_of_special (by simp [hne]), hfault]
    exact ⟨fault, by simp [hhost, bind, Except.bind]⟩
  | some portText =>
    dsimp only [Option.getD_some] at h hread ⊢
    cases hhost : readHost true hostText with
    | error fault => simp [hhost, bind, Except.bind] at h
    | ok host =>
      cases hport : readPort portText with
      | error fault => simp [hhost, hport, bind, Except.bind] at h
      | ok r =>
        obtain ⟨port, unread⟩ := r
        obtain rfl : unread = [] := eq_nil_of_readPort hread hport
        exact ⟨.invalidPort, by simp [readPort_append hport hstrays hne, bind, Except.bind]⟩

end HealthPanel.Url
