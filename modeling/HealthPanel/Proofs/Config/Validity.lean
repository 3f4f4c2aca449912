import HealthPanel.Config.Basic
import HealthPanel.Proofs.Url.Authority

/-!
# Valid configurations

An endpoint is valid when its base URL is read as one of the web, and limits when their time is
not zero. The configuration that stands where nothing is given is valid.
-/

namespace HealthPanel

namespace Endpoint

variable {endpoint : Endpoint}

/-- An endpoint is valid exactly if its base URL is a URL of the web. -/
theorem validate_eq_ok_iff :
    endpoint.validate = .ok () ↔
      ∃ url, Url.ofString endpoint.baseUrl = .ok url ∧ url.scheme ∈ schemes := by
  unfold validate
  cases Url.ofString endpoint.baseUrl with
  | error fault => simp
  | ok url => by_cases hscheme : url.scheme ∈ schemes <;> simp [hscheme]

/-- The local backend is an endpoint. -/
theorem validate_default : default.validate = .ok () := by
  have hhost : Url.readHost true "localhost".toList = .ok (.name "localhost") := by
    rw [Url.readHost_of_special (by decide), Url.Host.ofDomain_of_plain (by decide) (by decide)]
    rfl
  have hauthority : Url.Authority.ofText "http" "localhost:8000".toList =
      .ok ⟨"", none, .name "localhost", some 8000⟩ := by
    have hsplit : Url.splitAtLast (· = '@') "localhost:8000".toList =
        (none, "localhost:8000".toList) := by decide
    have hpieces : Url.splitPort false "localhost:8000".toList =
        ("localhost".toList, some "8000".toList) := by decide
    simp only [Url.Authority.ofText, hsplit, hpieces, hhost]
    rfl
  have hscheme : Url.splitScheme? (Url.significant default.baseUrl) =
      some ("http", "//localhost:8000".toList) := by decide
  have hquery : Url.splitQuery "//localhost:8000".toList =
      ("//localhost:8000".toList, none, none) := by decide
  have hwhole : Url.authorityIn "http" "//localhost:8000".toList = "localhost:8000".toList := by
    decide
  have hread : Url.ofString default.baseUrl = .ok ((⟨"", none, .name "localhost", some 8000⟩ :
      Url.Authority).url "http" (Url.pathIn "http" "//localhost:8000".toList) none none) := by
    rw [Url.ofString, hscheme]
    simp only [Url.readAfterScheme_of_special rfl (by decide : "http" ≠ "file"), hquery, hwhole,
      hauthority]
    rfl
  exact validate_eq_ok_iff.mpr ⟨_, hread, by decide +kernel⟩

end Endpoint

/-- Limits are valid exactly if the time is not zero. -/
theorem ProbeLimits.validate_eq_ok_iff {limits : ProbeLimits} :
    limits.validate = .ok () ↔ limits.timeoutSecs ≠ 0 := by
  by_cases hzero : limits.timeoutSecs = 0 <;> simp [ProbeLimits.validate, hzero]

namespace Config

/-- A configuration is valid exactly if its endpoint and its limits are. -/
theorem validate_eq_ok_iff {config : Config} :
    config.validate = .ok () ↔
      config.endpoint.validate = .ok () ∧ config.probe.validate = .ok () := by
  unfold validate
  cases config.endpoint.validate <;> simp [bind, Except.bind]

/-- Where nothing is given, the configuration is valid. -/
theorem validate_default : default.validate = .ok () :=
  validate_eq_ok_iff.mpr ⟨Endpoint.validate_default, rfl⟩

end Config

end HealthPanel
