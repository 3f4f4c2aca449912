import HealthPanel.Proofs.Config.Derived
import HealthPanel.Proofs.Url.Path

/-!
# The paths that an endpoint is asked for

The names of the resources are put behind the text of the base URL before anything of it is
resolved. Where this text ends in nothing that is taken off or stands for a slash, the paths come
out as if the names had been put behind the path of the base URL.
-/

namespace HealthPanel.Endpoint

variable {endpoint : Endpoint}

/-- What a valid endpoint is asked for is on its server, under its path. -/
theorem exists_path_of_validate (valid : endpoint.validate = .ok ())
    (unmarked : ∀ c ∈ endpoint.baseUrl.toList, c ∉ "?#".toList)
    (ends : ∀ c, endpoint.baseUrl.toList.getLast? = some c →
      Url.isControlOrSpace c = false ∧ c ≠ '\\')
    {name : List Char} (hname : Url.IsName name) :
    ∃ base url, Url.ofString endpoint.baseUrl = .ok base ∧
      Url.ofString (endpoint.stem ++ String.ofList ('/' :: name)) = .ok url ∧
      url.SameServer base ∧
      url.path.render = Url.withoutLastSlash base.path.render ++ "/" ++ String.ofList name := by
  obtain ⟨base, hbase, web, hread, hurls⟩ := derived_of_validate valid hname
  have hsignificant := Url.significant_ne_nil_of_ofString hbase
  obtain ⟨front, hfront, hslash, hlonger⟩ := exists_leads hname hsignificant
  have hne : endpoint.baseUrl.toList ≠ [] := by
    intro hnil
    obtain ⟨c, rest, hrest⟩ := List.exists_cons_of_ne_nil hsignificant
    have hmem := Url.mem_of_mem_significant (hrest ▸ List.mem_cons_self : c ∈ _)
    rw [hnil] at hmem
    cases hmem
  obtain ⟨hcontrol, hbackslash⟩ := ends _ (List.getLast?_eq_some_getLast hne)
  obtain ⟨hstrays, hlast⟩ := Url.of_getLast? (List.getLast?_eq_some_getLast hne) hcontrol
  obtain ⟨url, hurl⟩ := hread.mpr fun hbad => hbad.1 hstrays
  refine ⟨base, url, hbase, hurl, (hurls url hurl).1, ?_⟩
  refine Url.ofString_path hbase web hurl hname
    (fun c hc => unmarked c (Url.mem_of_mem_significant hc)) hlonger ?_
  by_cases hend : endpoint.baseUrl.toList.getLast? = some '/'
  · exact .inl (hslash hend)
  · cases hfront with
    | slash hfront => exact .inl hfront
    | whole =>
      rw [hstrays, List.append_nil]
      refine .inr ⟨rfl, fun c hc => ?_⟩
      obtain rfl := Option.some.inj (hlast.symm.trans hc)
      refine ⟨?_, hbackslash⟩
      rintro hc
      exact hend (hc ▸ List.getLast?_eq_some_getLast hne)

/-- The URLs that a valid endpoint is asked for, where its base URL has no mark of a query or a
fragment and ends in no backslash, control or space: both are read, are on the server of the base
URL, for the same user, and their paths are its path, without a slash at its end, and their
names. -/
theorem derived_paths (endpoint : Endpoint) (valid : endpoint.validate = .ok ())
    (unmarked : ∀ c ∈ endpoint.baseUrl.toList, c ∉ "?#".toList)
    (ends : ∀ c, endpoint.baseUrl.toList.getLast? = some c →
      Url.isControlOrSpace c = false ∧ c ≠ '\\') :
    ∃ base, Url.ofString endpoint.baseUrl = .ok base ∧
      ∀ derived ∈ [(endpoint.healthUrl, "/health"), (endpoint.docsUrl, "/docs")],
        ∃ url, Url.ofString derived.1 = .ok url ∧ url.SameServer base ∧
          url.path.render = Url.withoutLastSlash base.path.render ++ derived.2 := by
  obtain ⟨base, health, hbase, hhealth, hserver, hpath⟩ :=
    exists_path_of_validate valid unmarked ends (by decide : Url.IsName "health".toList)
  obtain ⟨other, docs, hother, hdocs, hserverDocs, hpathDocs⟩ :=
    exists_path_of_validate valid unmarked ends (by decide : Url.IsName "docs".toList)
  obtain rfl : base = other := Except.ok.inj (hbase.symm.trans hother)
  refine ⟨base, hbase, fun derived hderived => ?_⟩
  rcases List.mem_pair.mp hderived with rfl | rfl
  · refine ⟨health, hhealth, hserver, ?_⟩
    rw [hpath, String.append_assoc]
    rfl
  · refine ⟨docs, hdocs, hserverDocs, ?_⟩
    rw [hpathDocs, String.append_assoc]
    rfl

/-- Dot segments are resolved before the name is put behind the path: here only the last is left, as
a slash at the end. -/
theorem derived_paths_dotted :
    let endpoint : Endpoint := ⟨"http://u@[::1]:81/a/%2e%2E//b\\c/."⟩
    endpoint.validate = .ok () ∧ (∀ c ∈ endpoint.baseUrl.toList, c ∉ "?#".toList) ∧
      (∀ c, endpoint.baseUrl.toList.getLast? = some c →
        Url.isControlOrSpace c = false ∧ c ≠ '\\') ∧
      (Url.ofString endpoint.baseUrl).map (·.path.render) = .ok "//b/c/" ∧
      ∃ url, Url.ofString endpoint.healthUrl = .ok url ∧ url.path.render = "//b/c/health" := by
  intro endpoint
  have valid : endpoint.validate = .ok () := by decide +revert
  have hpath : (Url.ofString endpoint.baseUrl).map (·.path.render) = .ok "//b/c/" := by
    decide +kernel +revert
  have hlast : endpoint.baseUrl.toList.getLast? = some '.' := by decide +revert
  have unmarked : ∀ c ∈ endpoint.baseUrl.toList, c ∉ "?#".toList := by decide
  have ends : ∀ c, endpoint.baseUrl.toList.getLast? = some c →
      Url.isControlOrSpace c = false ∧ c ≠ '\\' := by
    intro c hc
    obtain rfl : '.' = c := Option.some.inj (hlast.symm.trans hc)
    decide
  obtain ⟨base, hbase, hderived⟩ := derived_paths endpoint valid unmarked ends
  obtain ⟨url, hurl, -, hrender⟩ := hderived _ List.mem_cons_self
  refine ⟨valid, unmarked, ends, hpath, url, hurl, ?_⟩
  rw [hbase] at hpath
  have hbasePath : base.path.render = "//b/c/" := Except.ok.inj hpath
  rw [hrender, hbasePath]
  decide

end HealthPanel.Endpoint
