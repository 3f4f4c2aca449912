import HealthPanel.Proofs.Config.Loading

/-!
# Writing a configuration and loading it again

The document of a configuration is a file that gives every field of all three sections. If the
configuration is valid, such a file is loaded as the configuration itself, whatever characters its
texts are made of.
-/

namespace HealthPanel

namespace Config

/-- The sections of a file that leaves nothing out. -/
def sections (config : Config) : List Section :=
  [.endpoint (some config.endpoint.baseUrl), .probe (some config.probe.timeoutSecs),
    .logging [.level config.logging.level, .format config.logging.format]]

/-- Nothing that a configuration says is lost in its sections. -/
theorem ofSections_sections (config : Config) : ofSections config.sections = config := rfl

/-- The document of a configuration is the file that is made of its sections. -/
theorem compact_toJson (config : Config) :
    config.toJson.compact = JsonFile.write config.sections := rfl

variable {config : Config}

/-- The sections of a valid configuration are valid, each of them there once. -/
theorem validSections_sections (valid : config.validate = .ok ())
    (fits : config.probe.timeoutSecs < UInt64.size) : ValidSections config.sections := by
  obtain ⟨hendpoint, hprobe⟩ := validate_eq_ok_iff.mp valid
  have hpos := Nat.pos_of_ne_zero (ProbeLimits.validate_eq_ok_iff.mp hprobe)
  refine ⟨by simp [sections, Section.name], fun given hgiven => ?_⟩
  simp only [sections, List.mem_cons, List.not_mem_nil, or_false] at hgiven
  rcases hgiven with rfl | rfl | rfl
  · exact fun url hurl => Option.some.inj hurl ▸ hendpoint
  · exact fun n hn => Option.some.inj hn ▸ ⟨hpos, fits⟩
  · simp [Section.IsValid, LoggingEntry.name]

end Config

namespace ConfigFile

variable {config : Config} {path contents : String}

/-- A file that is made of all that a valid configuration says is loaded as this configuration. -/
theorem load_of_isMadeOf_sections (made : IsMadeOf path contents config.sections)
    (valid : config.validate = .ok ()) (fits : config.probe.timeoutSecs < UInt64.size) :
    load path (.ok (Utf8.encode contents)) = .ok config := by
  have hparse := toOption_parse_of_isMadeOf made (Config.validSections_sections valid fits)
  rw [if_neg (by simp [Config.sections]), Config.ofSections_sections] at hparse
  rw [load_encode, eq_ok_of_toOption hparse]
  simp only [bind, Except.bind, valid]
  rfl

/-- The document of a valid configuration whose time fits 64 bits is loaded as this configuration,
from a file of any name that does not say YAML. -/
theorem loads_own_document (json : isYaml path = false) (valid : config.validate = .ok ())
    (fits : config.probe.timeoutSecs < UInt64.size) :
    load path (.ok (Utf8.encode config.toJson.compact)) = .ok config := by
  refine load_of_isMadeOf_sections ?_ valid fits
  rw [IsMadeOf, json]
  exact JsonFile.isMadeOf_write config.sections

/-- A level with a quote, a line break and a character beyond ASCII, and the longest time. -/
theorem loads_own_document_unprintable :
    let config : Config := ⟨.default, ⟨18446744073709551615⟩, ⟨"\"\\\nü", .json⟩⟩
    config.toJson.compact = "\x7b\"endpoint\":\x7b\"base_url\":\"http://localhost:8000\"\x7d," ++
        "\"probe\":\x7b\"timeout_secs\":18446744073709551615\x7d," ++
        "\"logging\":\x7b\"level\":\"\\\"\\\\\\nü\",\"format\":\"json\"\x7d\x7d" ∧
      load "panel.json" (.ok (Utf8.encode config.toJson.compact)) = .ok config := by
  intro config
  have hvalid : config.validate = .ok () :=
    Config.validate_eq_ok_iff.mpr ⟨Endpoint.validate_default, rfl⟩
  exact ⟨by decide +kernel, loads_own_document isYaml_json hvalid (by decide)⟩

end ConfigFile

end HealthPanel
