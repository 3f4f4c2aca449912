import HealthPanel.Config.File
import HealthPanel.Proofs.Config.Spelling.Json
import HealthPanel.Proofs.Config.Spelling.Yaml

/-!
# What a file gives is loaded

Whichever sections and fields a file has, it is loaded with the values that it gives and the
defaults of all others. Only a section of the endpoint cannot be empty, unlike the other two: its
base URL has a default where the whole section is missing, but none within the section.
-/

namespace HealthPanel.ConfigFile

variable {path contents : String} {sections : List Section}

/-- A file that is made of exactly the given sections, in the format that its name says. -/
def IsMadeOf (path contents : String) (sections : List Section) : Prop :=
  if isYaml path then YamlFile.IsMadeOf contents sections else JsonFile.IsMadeOf contents sections

/-- The contents of such a file. -/
def write (path : String) (sections : List Section) : String :=
  if isYaml path then YamlFile.write sections else JsonFile.write sections

/-- What is written of sections is made of them. -/
theorem isMadeOf_write (path : String) (sections : List Section) :
    IsMadeOf path (write path sections) sections := by
  unfold IsMadeOf write
  split
  · exact YamlFile.isMadeOf_write sections
  · exact JsonFile.isMadeOf_write sections

/-- A file in either format holds what its sections give. -/
theorem toOption_parse_of_isMadeOf (made : IsMadeOf path contents sections)
    (valid : ValidSections sections) :
    (parse path contents).toOption =
      if .endpoint none ∈ sections then none else some (Config.ofSections sections) := by
  unfold IsMadeOf at made
  unfold parse
  split at made
  case isTrue yaml =>
    obtain ⟨document, hdocument, hconfig⟩ := YamlFile.toOption_config made valid
    rw [if_pos yaml, hdocument]
    exact (toOption_mapError _ _).trans hconfig
  case isFalse json =>
    rw [if_neg json]
    exact (toOption_mapError _ _).trans (JsonFile.toOption_config made valid)

/-- A text file is loaded if it holds a valid configuration. -/
theorem load_encode (path contents : String) :
    load path (.ok (Utf8.encode contents)) = (do
      let config ← parse path contents
      config.validate.mapError .invalid
      return config) := by
  simp only [load, Except.mapError, bind, Except.bind, Utf8.decode?_encode]

/-- Files of every choice of sections, each with every choice of its fields and any valid values,
are loaded with the values that are given and the defaults of all other fields, unless there is a
section of the endpoint that names no base URL. A file with such a section is not loaded. -/
theorem loads_unless_endpoint_empty (path : String) (valid : ValidSections sections) :
    IsMadeOf path (write path sections) sections ∧
      ∀ contents, IsMadeOf path contents sections →
        if .endpoint none ∈ sections then
          ∃ fault, load path (.ok (Utf8.encode contents)) = .error fault
        else load path (.ok (Utf8.encode contents)) = .ok (Config.ofSections sections) := by
  refine ⟨isMadeOf_write path sections, fun contents made => ?_⟩
  have hparse := toOption_parse_of_isMadeOf made valid
  rw [load_encode]
  split_ifs at hparse ⊢
  case pos =>
    obtain ⟨fault, hfault⟩ := exists_eq_error_of_toOption hparse
    exact ⟨fault, by rw [hfault]; rfl⟩
  case neg =>
    rw [eq_ok_of_toOption hparse]
    simp only [bind, Except.bind, Config.validate_ofSections valid.valid]
    rfl

/-- A section with one of its fields, an empty one, and a base URL. -/
theorem loads_unless_endpoint_empty_partly :
    ValidSections [.logging [.format .json], .probe none, .endpoint (some "http://[::1]:9090")] ∧
      load "panel.yml" (.ok (Utf8.encode (write "panel.yml"
        [.logging [.format .json], .probe none, .endpoint (some "http://[::1]:9090")]))) =
          .ok ⟨⟨"http://[::1]:9090"⟩, .default, { Logging.default with format := .json }⟩ := by
  have hendpoint : (⟨"http://[::1]:9090"⟩ : Endpoint).validate = .ok () := rfl
  have hvalid : ValidSections
      [.logging [.format .json], .probe none, .endpoint (some "http://[::1]:9090")] :=
    { distinct := by decide
      valid := by simp [Section.IsValid, hendpoint] }
  obtain ⟨hmade, hload⟩ := loads_unless_endpoint_empty "panel.yml" hvalid
  exact ⟨hvalid, (hload _ hmade).trans rfl⟩

/-- What follows the dot in the names of two files. -/
theorem extension?_panel {name form : String}
    (h : (name, form) ∈ [("panel.json", "json"), ("panel.yaml", "yaml")]) :
    extension? name = some form := by
  have hsplit : name.splitOn "/" = [name] ∧ name.splitOn "." = ["panel", form] ∧ name ≠ "" ∧
      name ≠ "." ∧ name ≠ ".." := by
    simp only [List.mem_cons, Prod.mk.injEq, List.not_mem_nil, or_false] at h
    rcases h with ⟨rfl, rfl⟩ | ⟨rfl, rfl⟩
    all_goals
      refine ⟨?_, ?_, by decide⟩
      · rw [String.splitOn, if_neg (by decide)]
        iterate 10 rw [String.splitOnAux, if_neg (by decide), if_neg (by decide)]
        rw [String.splitOnAux, if_pos (by decide)]
        rfl
      · rw [String.splitOn, if_neg (by decide)]
        iterate 5 rw [String.splitOnAux, if_neg (by decide), if_neg (by decide)]
        rw [String.splitOnAux, if_neg (by decide), if_pos (by decide), if_pos (by decide)]
        iterate 4 rw [String.splitOnAux, if_neg (by decide), if_neg (by decide)]
        rw [String.splitOnAux, if_pos (by decide)]
        rfl
  obtain ⟨hparts, hextension, hempty, hdot, hdots⟩ := hsplit
  simp [extension?, fileName?, hparts, hextension, hempty, hdot, hdots]

/-- A name with this ending is not that of a YAML file. -/
theorem isYaml_json : isYaml "panel.json" = false := by
  have hform : extension? "panel.json" = some "json" := extension?_panel (by simp)
  simp [isYaml, hform]

/-- To leave out the base URL is a choice like any other, but a fault in a file. -/
theorem empty_endpoint_fails :
    ValidSections [.endpoint none] ∧
      IsMadeOf "panel.json" "\x7b\"endpoint\":\x7b\x7d\x7d" [.endpoint none] ∧
      (load "panel.json" (.ok (Utf8.encode "\x7b\"endpoint\":\x7b\x7d\x7d"))).mapError
          LoadFault.message = .error
        "Failed to parse JSON config: missing field \x60base_url\x60 at line 1 column 14" := by
  have hwrite : write "panel.json" [.endpoint none] = "\x7b\"endpoint\":\x7b\x7d\x7d" := by
    rw [write, isYaml_json]
    rfl
  refine ⟨⟨by decide, by simp [Section.IsValid]⟩, hwrite ▸ isMadeOf_write _ _, ?_⟩
  rw [load_encode, parse, isYaml_json]
  rfl

end HealthPanel.ConfigFile
