import HealthPanel.Health.Probe
import HealthPanel.Proofs.Config.Validity
import HealthPanel.Proofs.Url.Resource

/-!
# What an endpoint is asked for

The URLs of an endpoint are its base URL with a slash and a name behind it. That the base URL is
one of the web does not make them so: white space at its end is left out when it is read alone,
but not in front of the slash, and behind a query or a fragment a name is no part of the path.
-/

namespace HealthPanel

namespace Endpoint

variable {endpoint : Endpoint}

/-- The base URL leads to everything that is asked for below it; a slash at its end is the one that
is put there. -/
theorem exists_leads {name : List Char} (hname : Url.IsName name)
    (h : Url.significant endpoint.baseUrl ≠ []) :
    ∃ front, Url.Leads endpoint.baseUrl front ∧
      (endpoint.baseUrl.toList.getLast? = some '/' →
        Url.significant endpoint.baseUrl = front ++ ['/']) ∧
      Url.significant (endpoint.stem ++ String.ofList ('/' :: name)) = front ++ '/' :: name := by
  have hlast := List.getLast?_eq_some_getLast hname.1
  have hcontrol := hname.isControlOrSpace_eq_false _ (List.getLast_mem hname.1)
  unfold stem
  dsimp only
  split
  case isTrue hslash =>
    obtain ⟨hstrays, hend⟩ := Url.of_getLast? hslash (by decide)
    obtain ⟨front, hfront⟩ := List.getLast?_eq_some_iff.mp hend
    obtain ⟨letters, hletters⟩ := List.getLast?_eq_some_iff.mp hslash
    have hwhole := Url.significant_append h name hlast hcontrol
    rw [List.filter_append, Url.significant_append_strays h, hstrays, List.append_nil,
      hname.filter_eq_self, hfront, hletters] at hwhole
    refine ⟨front, .slash hfront hstrays, fun _ => hfront, ?_⟩
    rw [hletters, List.dropLast_concat, ← String.ofList_append]
    simpa using hwhole
  case isFalse hslash =>
    have hend : ('/' :: name).getLast? = some (name.getLast hname.1) := by
      rw [List.getLast?_cons, hlast]
      rfl
    have hwhole := Url.significant_append h ('/' :: name) hend hcontrol
    rw [List.filter_append, Url.significant_append_strays h,
      List.filter_cons_of_pos (by decide), hname.filter_eq_self] at hwhole
    refine ⟨_, .whole, fun h => absurd h hslash, ?_⟩
    rw [← hwhole, String.ofList_append, String.ofList_toList]

/-- What a valid endpoint is asked for is read exactly unless controls or spaces at the end of its
base URL come to stand at the end of the authority. It is on the same server then, and it is the
resource exactly if the base URL has no query and no fragment. -/
theorem derived_of_validate (valid : endpoint.validate = .ok ()) {name : List Char}
    (hname : Url.IsName name) :
    ∃ base, Url.ofString endpoint.baseUrl = .ok base ∧ base.scheme ∈ schemes ∧
      ((∃ url, Url.ofString (endpoint.stem ++ String.ofList ('/' :: name)) = .ok url) ↔
        ¬(Url.strays endpoint.baseUrl ≠ [] ∧ Url.endsInAuthority endpoint.baseUrl = true)) ∧
      ∀ url, Url.ofString (endpoint.stem ++ String.ofList ('/' :: name)) = .ok url →
        url.SameServer base ∧
        (url.AsksFor (String.ofList name) ↔ base.query = none ∧ base.fragment = none) ∧
        (base.query ≠ none ∨ base.fragment ≠ none → url.path = base.path) := by
  obtain ⟨base, hbase, hscheme⟩ := validate_eq_ok_iff.mp valid
  obtain ⟨front, hfront, -, hlonger⟩ :=
    exists_leads hname (Url.significant_ne_nil_of_ofString hbase)
  exact ⟨base, hbase, hscheme, Url.ofString_resource hbase hscheme hname hfront hlonger⟩

end Endpoint

namespace Http

/-- A URL as it stands in a request, which carries user name and password elsewhere. -/
def bare (url : Url) : Url :=
  if (credentialsOf? url).isSome then url.withoutCredentials else url

/-- A URL as it stands in a request leads to the same place and asks for the same. -/
theorem bare_eq (url : Url) :
    (bare url).scheme = url.scheme ∧ (bare url).host = url.host ∧ (bare url).port = url.port ∧
      ∀ name, (bare url).AsksFor name ↔ url.AsksFor name := by
  unfold bare
  split <;> exact ⟨rfl, rfl, rfl, fun _ => Iff.rfl⟩

/-- A URL of the web makes a request exactly if it can stand as the address of one. -/
theorem Request.ofUrl_eq {userAgent : Option String} {url : Url} (hhost : url.hasHost = true)
    (web : url.scheme ∈ schemes) :
    ofUrl userAgent url =
      if isAddress (bare url) then .ok ⟨bare url, userAgent, credentialsOf? url, none⟩
      else .error (.notAddress (bare url)) := by
  have hscheme : (bare url).scheme ∈ schemes := (bare_eq url).1 ▸ web
  simp only [ofUrl, hhost, Bool.not_true, Bool.false_eq_true, if_false, ← bare.eq_def]
  by_cases haddress : isAddress (bare url) = true <;> simp [hscheme, haddress]

/-- A text makes a request exactly if it is read as a URL that can stand as the address of one,
where it is read as nothing else than a URL of the web. -/
theorem Request.ofString_eq_ok_iff {userAgent : Option String} {text : String} {request : Request}
    (web : ∀ url, Url.ofString text = .ok url → url.scheme ∈ schemes) :
    ofString userAgent text = .ok request ↔
      ∃ url, Url.ofString text = .ok url ∧ isAddress (bare url) = true ∧
        ⟨bare url, userAgent, credentialsOf? url, none⟩ = request := by
  unfold ofString
  cases hread : Url.ofString text with
  | error fault => simp
  | ok url =>
    have hweb := web url hread
    simp only [ofUrl_eq (Url.hasHost_of_ofString hread hweb) hweb]
    by_cases haddress : isAddress (bare url) = true <;> simp [haddress]

end Http

namespace Probe

/-- What a probe of a valid endpoint asks for. Its URLs can be read exactly unless controls or
spaces at the end of the base URL come to stand at the end of the authority; they are on the
configured server then, and name their resource exactly if the base URL has no query and no
fragment, while the path is that of the base URL else. And the probe makes a request exactly if
the URL of the health can be read and can stand as the address of a request. -/
theorem asks_validated_endpoint (endpoint : Endpoint) (valid : endpoint.validate = .ok ()) :
    ∃ base, Url.ofString endpoint.baseUrl = .ok base ∧
      (∀ derived ∈ [(endpoint.healthUrl, "health"), (endpoint.docsUrl, "docs")],
        ((∃ url, Url.ofString derived.1 = .ok url) ↔
          ¬(Url.strays endpoint.baseUrl ≠ [] ∧ Url.endsInAuthority endpoint.baseUrl = true)) ∧
        ∀ url, Url.ofString derived.1 = .ok url → url.SameServer base ∧
          (url.AsksFor derived.2 ↔ base.query = none ∧ base.fragment = none) ∧
          (base.query ≠ none ∨ base.fragment ≠ none → url.path = base.path)) ∧
      ∀ limits client,
        ((∃ request, Probe.request ⟨endpoint, limits, client⟩ = .ok request) ↔
          ∃ url, Url.ofString endpoint.healthUrl = .ok url ∧
            Http.isAddress (Http.bare url) = true) ∧
        ∀ request, Probe.request ⟨endpoint, limits, client⟩ = .ok request →
          request.url.scheme = base.scheme ∧ request.url.host = base.host ∧
          request.url.port = base.port ∧
          (request.url.AsksFor "health" ↔ base.query = none ∧ base.fragment = none) := by
  have hhealth : endpoint.healthUrl = endpoint.stem ++ String.ofList ('/' :: "health".toList) := rfl
  have hdocs : endpoint.docsUrl = endpoint.stem ++ String.ofList ('/' :: "docs".toList) := rfl
  obtain ⟨base, hbase, web, hread, hurls⟩ :=
    Endpoint.derived_of_validate valid (by decide : Url.IsName "health".toList)
  obtain ⟨other, hother, -, hreadDocs, hurlsDocs⟩ :=
    Endpoint.derived_of_validate valid (by decide : Url.IsName "docs".toList)
  obtain rfl : base = other := Except.ok.inj (hbase.symm.trans hother)
  rw [← hhealth] at hread hurls
  rw [← hdocs] at hreadDocs hurlsDocs
  rw [String.ofList_toList] at hurls hurlsDocs
  refine ⟨base, hbase, ?_, fun limits client => ?_⟩
  · rintro derived hderived
    rcases List.mem_pair.mp hderived with rfl | rfl
    · exact ⟨hread, hurls⟩
    · exact ⟨hreadDocs, hurlsDocs⟩
  · have hweb : ∀ url, Url.ofString endpoint.healthUrl = .ok url →
        url.scheme ∈ Http.Request.schemes := fun url hurl => (hurls url hurl).1.scheme ▸ web
    have hrequest := fun request =>
      @Http.Request.ofString_eq_ok_iff client.userAgent endpoint.healthUrl request hweb
    refine ⟨⟨?_, ?_⟩, ?_⟩
    · rintro ⟨request, h⟩
      obtain ⟨url, hurl, haddress, -⟩ := (hrequest request).mp h
      exact ⟨url, hurl, haddress⟩
    · rintro ⟨url, hurl, haddress⟩
      exact ⟨_, (hrequest _).mpr ⟨url, hurl, haddress, rfl⟩⟩
    · intro request h
      obtain ⟨url, hurl, -, rfl⟩ := (hrequest request).mp h
      obtain ⟨hserver, hasks, -⟩ := hurls url hurl
      obtain ⟨hscheme, hhost, hport, hresource⟩ := Http.bare_eq url
      exact ⟨hscheme.trans hserver.scheme, hhost.trans hserver.host, hport.trans hserver.port,
        (hresource "health").trans hasks⟩

/-- The local backend is asked. -/
theorem asks_validated_endpoint_local :
    Endpoint.default.validate = .ok () ∧
      ∃ url, Url.ofString Endpoint.default.healthUrl = .ok url := by
  obtain ⟨base, -, hderived, -⟩ :=
    asks_validated_endpoint .default Endpoint.validate_default
  exact ⟨Endpoint.validate_default, (hderived _ List.mem_cons_self).1.mpr (by decide)⟩

/-- A space behind the host is left out when the base URL is checked, but in front of the slash it
makes the host invalid, so that no request can be built. And behind a query, the slash and the name
are more of that query. -/
theorem space_behind_host_builds_nothing :
    (⟨"http://[::1] "⟩ : Endpoint).validate = .ok () ∧
    Probe.request (.ofConfig ⟨"http://[::1] "⟩ .default) = .error (.invalidUrl .invalidIpv6) ∧
    (⟨"http://[::1]?to="⟩ : Endpoint).validate = .ok () ∧
    (Url.ofString (⟨"http://[::1]?to="⟩ : Endpoint).healthUrl).map
      (fun url => (url.path, url.query)) = .ok (.segments [""], some "to=/health") :=
  ⟨rfl, rfl, rfl, rfl⟩

end Probe

end HealthPanel
