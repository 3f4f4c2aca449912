import HealthPanel.Http.Redirect

/-!
# What a redirect takes along

The next request keeps the credentials of the one that led to it only on the same host and port,
and all else that it says of that request is said of its URL without user name and password. So of
two requests that differ in their credentials only, the same redirect makes two such requests.
-/

namespace HealthPanel

namespace Url

variable {base other next next' : Url} {text : String}

/-- The server is found at the same host and port. -/
def SamePlace (url base : Url) : Prop :=
  url.host = base.host ∧ url.effectivePort? = base.effectivePort?

/-- The client takes two URLs for one host exactly if they lead to the same place. -/
theorem isSameHost_iff {url : Url} : Http.isSameHost url base = true ↔ url.SamePlace base := by
  simp [Http.isSameHost, SamePlace]

/-- A reference is read against a URL without looking at its user name and password. -/
theorem map_join_withoutCredentials (base : Url) (text : String) :
    (base.withoutCredentials.join text).map withoutCredentials =
      (base.join text).map withoutCredentials := by
  have hscheme : base.withoutCredentials.scheme = base.scheme := rfl
  have hrelative : ∀ letters, (base.withoutCredentials.joinRelative letters).map
      withoutCredentials = (base.joinRelative letters).map withoutCredentials := by
    intro letters
    simp only [joinRelative, hscheme]
    split
    case isTrue => rfl
    case isFalse =>
      split
      case isTrue => rfl
      case isFalse =>
        split
        case isTrue => rfl
        case isFalse => split <;> rfl
  simp only [join, hscheme]
  split
  case h_1 => exact hrelative _
  case h_2 =>
    split
    case isTrue => exact hrelative _
    case isFalse => rfl

/-- URLs that differ in their credentials only agree in all other parts. -/
theorem parts_of_withoutCredentials (same : base.withoutCredentials = other.withoutCredentials) :
    base.scheme = other.scheme ∧ base.host = other.host ∧ base.port = other.port ∧
      base.path = other.path ∧ base.query = other.query := by
  obtain ⟨hscheme, -, -, hhost, hport, hpath, hquery, -⟩ := Url.mk.inj same
  exact ⟨hscheme, hhost, hport, hpath, hquery⟩

/-- A reference leads to the same place from URLs that differ in their credentials only. -/
theorem withoutCredentials_of_join (same : base.withoutCredentials = other.withoutCredentials)
    (h : base.join text = .ok next) (h' : other.join text = .ok next') :
    next.withoutCredentials = next'.withoutCredentials := by
  have hjoin := map_join_withoutCredentials base text
  rw [same, map_join_withoutCredentials other text, h, h'] at hjoin
  exact (Except.ok.inj hjoin).symm

end Url

namespace Http

variable {request other next next' : Request} {head : Head} {value : String} {url : Url}

/-- Two requests that differ in their credentials only. -/
structure Request.Alike (request other : Request) : Prop where
  url : request.url.withoutCredentials = other.url.withoutCredentials
  userAgent : request.userAgent = other.userAgent
  referer : request.referer = other.referer

/-- A head leads to a place that it names. -/
theorem Head.redirect?_eq_some_iff :
    head.redirect? request = some next ↔
      isRedirect head.status = true ∧
        ∃ url, head.location? request.url = some url ∧ request.redirectTo url = next := by
  unfold redirect?
  by_cases hstatus : isRedirect head.status = true <;> simp [hstatus, Option.map_eq_some_iff]

/-- The place that a head names is found by a reference. -/
theorem Head.exists_join_of_location? {base place : Url} (h : head.location? base = some place) :
    ∃ text, ((head.values "location").head?.bind Utf8.decode?) = some text ∧
      base.join text = .ok place := by
  unfold location? at h
  obtain ⟨value, hvalue, h⟩ := Option.bind_eq_some_iff.mp h
  obtain ⟨text, htext, h⟩ := Option.bind_eq_some_iff.mp h
  refine ⟨text, by simp [hvalue, htext], ?_⟩
  split at h
  case h_1 next hjoin =>
    split at h
    case isTrue => rw [hjoin, Option.some.inj h]
    case isFalse => cases h
  case h_2 => cases h

/-- What a request tells of its place is told alike by requests that are alike. -/
theorem Request.Alike.refererFor?_eq (h : request.Alike other) {place place' : Url}
    (same : place.withoutCredentials = place'.withoutCredentials) :
    request.refererFor? place = other.refererFor? place' := by
  obtain ⟨hscheme, -⟩ := Url.parts_of_withoutCredentials h.url
  obtain ⟨hplace, -⟩ := Url.parts_of_withoutCredentials same
  simp only [refererFor?, hscheme, hplace, h.url]

/-- Requests that are alike are led to requests that are. -/
theorem Request.Alike.redirect (h : request.Alike other)
    (hnext : head.redirect? request = some next) (hnext' : head.redirect? other = some next') :
    next.Alike next' := by
  obtain ⟨-, place, hplace, rfl⟩ := Head.redirect?_eq_some_iff.mp hnext
  obtain ⟨-, place', hplace', rfl⟩ := Head.redirect?_eq_some_iff.mp hnext'
  obtain ⟨text, htext, hjoin⟩ := Head.exists_join_of_location? hplace
  obtain ⟨text', htext', hjoin'⟩ := Head.exists_join_of_location? hplace'
  obtain rfl : text = text' := Option.some.inj (htext.symm.trans htext')
  have same := Url.withoutCredentials_of_join h.url hjoin hjoin'
  exact ⟨same, h.userAgent, by simp only [redirectTo, h.refererFor?_eq same, h.referer]⟩

/-- Requests that are alike ask for the same. -/
theorem Request.Alike.target_eq (h : request.Alike other) : request.target = other.target := by
  obtain ⟨-, -, -, hpath, hquery⟩ := Url.parts_of_withoutCredentials h.url
  simp only [target, hpath, hquery]

/-- Requests that are alike differ in no header but the one of the credentials. -/
theorem Request.Alike.headers_eq (h : request.Alike other) :
    request.headers.filter (·.1 ≠ "authorization") =
      other.headers.filter (·.1 ≠ "authorization") := by
  obtain ⟨-, hhost, hport, -⟩ := Url.parts_of_withoutCredentials h.url
  have htext : request.hostText = other.hostText := by simp only [hostText, hhost, hport]
  have hdropped : ∀ value : Option String,
      ((value.map fun text => ("authorization", text)).toList).filter
        (fun named => decide (named.1 ≠ "authorization")) = [] := by
    intro value
    cases value <;> simp
  simp only [headers, List.filter_append, hdropped, htext, h.referer, h.userAgent]

/-- The header of the credentials is sent exactly if the request has some. -/
theorem Request.mem_headers_authorization :
    ("authorization", value) ∈ request.headers ↔
      ∃ credentials, request.authorization = some credentials ∧ credentials.header = value := by
  cases hcredentials : request.authorization <;> simp [headers, hcredentials, eq_comm]

/-- The header that tells where a request comes from is sent exactly if the request tells it. -/
theorem Request.mem_headers_referer :
    ("referer", value) ∈ request.headers ↔ request.referer = some value := by
  simp [headers]

/-- Wherever a redirect leads, what is told of the place before is told of a URL without user name
and password. -/
theorem Request.exists_of_referer_redirectTo
    (h : ∀ value, request.referer = some value →
      ∃ url : Url, url.username = "" ∧ url.password = none ∧ value = url.render)
    (hvalue : (request.redirectTo url).referer = some value) :
    ∃ url : Url, url.username = "" ∧ url.password = none ∧ value = url.render := by
  simp only [redirectTo, refererFor?] at hvalue
  split at hvalue
  case isTrue => exact h value hvalue
  case isFalse =>
    obtain rfl := Option.some.inj hvalue
    exact ⟨_, rfl, rfl, rfl⟩

end Http

end HealthPanel
