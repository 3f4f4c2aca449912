import HealthPanel.Proofs.Config.RoundTrip
import HealthPanel.Proofs.Yaml.Flow.Nodes

/-!
# Two formats, one document

What is written as JSON is a document of YAML as well, and made of the same sections in both
formats, as long as all its texts are printable. So a valid configuration is loaded from its own
document under every name that a file may have.
-/

namespace HealthPanel

open Yaml (IsFlow IsFlowKey IsNodeOf IsPrintable Node)

/-- The texts of a section are printable. -/
def Section.IsPrintable : Section → Prop
  | endpoint baseUrl => ∀ url ∈ baseUrl, ∀ c ∈ url.toList, Yaml.IsPrintable c
  | probe _ => True
  | logging entries => ∀ entry ∈ entries, ∀ text ∈ entry.level?, ∀ c ∈ text.toList,
      Yaml.IsPrintable c

namespace JsonFile

/-- The names of sections and fields may be keys of a flow. -/
theorem isFlowKey_of_mem :
    ∀ name ∈ ["endpoint", "base_url", "probe", "timeout_secs", "logging", "level", "format"],
      IsFlowKey name := by
  decide

/-- The name of a section is a key in flow style. -/
theorem isFlowKey_sectionMember (given : Section) : IsFlowKey (sectionMember given).1 :=
  isFlowKey_of_mem _ (by cases given <;> simp [sectionMember, Section.name])

/-- What is written of a field of the log is in flow style, key and value. -/
theorem isFlow_loggingMember {entry : LoggingEntry}
    (printable : ∀ text ∈ entry.level?, ∀ c ∈ text.toList, IsPrintable c) :
    IsFlowKey (loggingMember entry).1 ∧ IsFlow (loggingMember entry).2 := by
  refine ⟨isFlowKey_of_mem _ (by cases entry <;> simp [loggingMember, LoggingEntry.name]), ?_⟩
  cases entry with
  | level text => exact .text (printable text rfl)
  | format form => cases form <;> exact .text (by decide)

/-- What is written of a section is read by YAML as well. -/
theorem isFlow_sectionMember {given : Section} (printable : given.IsPrintable) :
    IsFlow (sectionMember given).2 := by
  suffices hmembers : ∃ members, (sectionMember given).2 = .object members ∧
      ∀ member ∈ members, IsFlowKey member.1 ∧ IsFlow member.2 by
    obtain ⟨members, hvalue, hmembers⟩ := hmembers
    rw [hvalue]
    exact .object (fun member hmember => (hmembers member hmember).1)
      fun member hmember => (hmembers member hmember).2
  refine ⟨_, rfl, fun member hmember => ?_⟩
  cases given with
  | endpoint baseUrl =>
    obtain ⟨url, hurl, rfl⟩ := List.mem_map.mp hmember
    exact ⟨isFlowKey_of_mem _ (by simp), .text (printable url (Option.mem_toList.mp hurl))⟩
  | probe timeoutSecs =>
    cases timeoutSecs with
    | none => cases hmember
    | some n =>
      obtain rfl : member = ("timeout_secs", .number (.integer n)) := List.mem_singleton.mp hmember
      exact ⟨isFlowKey_of_mem _ (by simp), .natural n⟩
  | logging entries =>
    obtain ⟨entry, hentry, rfl⟩ := List.mem_map.mp hmember
    exact isFlow_loggingMember (printable entry hentry)

end JsonFile

namespace YamlFile

variable {node : Node} {sections : List Section}

/-- A node that holds what an object holds is a record of its members. -/
theorem exists_isRecord_of_isNodeOf {members : List (String × Json.Value)}
    (h : IsNodeOf (.object members) node) :
    ∃ spelled, IsRecord node spelled ∧ List.Forall₂ (IsMemberOf IsNodeOf) members spelled := by
  cases h with
  | @object _ head entries keys values =>
    rw [List.forall₂_map_left_iff, List.forall₂_map_right_iff] at keys values
    suffices hspelled : ∃ spelled, List.Forall₂ IsEntry entries spelled ∧
        List.Forall₂ (IsMemberOf IsNodeOf) members spelled by
      obtain ⟨spelled, hentries, hmembers⟩ := hspelled
      exact ⟨spelled, .inr ⟨head, entries, rfl, hentries⟩, hmembers⟩
    induction keys with
    | nil => exact ⟨[], .nil, .nil⟩
    | @cons member entry members entries hkey _ ih =>
      cases values with
      | cons hvalue hvalues =>
        obtain ⟨spelled, hentries, hmembers⟩ := ih hvalues
        exact ⟨(member.1, entry.2) :: spelled, .cons ⟨isText_quoted hkey, rfl⟩ hentries,
          .cons ⟨rfl, hvalue⟩ hmembers⟩

/-- A text as a node is read as this text. -/
theorem isText_of_isNodeOf {text : String} (h : IsNodeOf (.text text) node) :
    IsText node text := by
  cases h with
  | text same => exact isText_quoted same

/-- An integer as a node is read as this integer. -/
theorem isNatural_of_isNodeOf {n : Nat} (h : IsNodeOf (.number (.integer n)) node) :
    IsNatural node n := by
  cases h with
  | natural same => exact isNatural_word same

/-- A node that holds what is written of a section spells this section. -/
theorem isSection_of_isNodeOf (given : Section) {member : String × Node}
    (h : IsMemberOf IsNodeOf (JsonFile.sectionMember given) member) :
    spelling.IsSection given member := by
  obtain ⟨hname, hvalue⟩ := h
  obtain ⟨members, hrecord, hmembers⟩ := exists_isRecord_of_isNodeOf hvalue
  refine ⟨hname, members, hrecord, ?_⟩
  cases given with
  | endpoint baseUrl =>
    exact (List.forall₂_map_left_iff.mp hmembers).imp fun _ _ ⟨hkey, htext⟩ =>
      ⟨hkey, isText_of_isNodeOf htext⟩
  | probe timeoutSecs =>
    cases timeoutSecs with
    | none =>
      obtain rfl : members = [] := List.forall₂_nil_left_iff.mp hmembers
      exact .nil
    | some n =>
      obtain ⟨_, _, ⟨hkey, hnumber⟩, ⟨⟩, rfl⟩ := List.forall₂_cons_left_iff.mp hmembers
      exact .cons ⟨hkey, isNatural_of_isNodeOf hnumber⟩ .nil
  | logging entries =>
    exact (List.forall₂_map_left_iff.mp hmembers).imp fun entry _ ⟨hkey, htext⟩ =>
      ⟨hkey, by cases entry <;> exact isText_of_isNodeOf htext⟩

/-- What is written as JSON is made of the same sections where it is read as YAML. -/
theorem isMadeOf_json (printable : ∀ given ∈ sections, given.IsPrintable) :
    IsMadeOf (JsonFile.write sections) sections := by
  have hkeys : ∀ member ∈ sections.map JsonFile.sectionMember, IsFlowKey member.1 :=
    List.forall_mem_map.mpr fun given _ => JsonFile.isFlowKey_sectionMember given
  have hvalues : ∀ member ∈ sections.map JsonFile.sectionMember, IsFlow member.2 :=
    List.forall_mem_map.mpr fun given hgiven =>
      JsonFile.isFlow_sectionMember (printable given hgiven)
  obtain ⟨⟨_⟩, node, hdocument, rfl, hnode⟩ := Yaml.exists_ofText?_compact hkeys hvalues
  obtain ⟨members, hrecord, hmembers⟩ := exists_isRecord_of_isNodeOf hnode
  refine ⟨_, hdocument, members, hrecord, ?_⟩
  exact (List.forall₂_map_left_iff.mp hmembers).imp fun given _ => isSection_of_isNodeOf given

end YamlFile

namespace ConfigFile

variable {config : Config}

/-- What is written as JSON is made of the same sections under every name of the file. -/
theorem isMadeOf_json {sections : List Section}
    (printable : ∀ given ∈ sections, given.IsPrintable) (path : String) :
    IsMadeOf path (JsonFile.write sections) sections := by
  unfold IsMadeOf
  split
  · exact YamlFile.isMadeOf_json printable
  · exact JsonFile.isMadeOf_write sections

/-- The document of a valid configuration whose texts are printable is loaded as this
configuration from files of all names: those that say YAML and those that do not. -/
theorem loads_own_document_in_both_formats (valid : config.validate = .ok ())
    (fits : config.probe.timeoutSecs < UInt64.size)
    (baseUrl : ∀ c ∈ config.endpoint.baseUrl.toList, IsPrintable c)
    (level : ∀ c ∈ config.logging.level.toList, IsPrintable c) (path : String) :
    load path (.ok (Utf8.encode config.toJson.compact)) = .ok config := by
  have hprintable : ∀ given ∈ config.sections, given.IsPrintable := by
    intro given hgiven
    simp only [Config.sections, List.mem_cons, List.not_mem_nil, or_false] at hgiven
    rcases hgiven with rfl | rfl | rfl
    · exact fun url hurl => Option.some.inj hurl ▸ baseUrl
    · trivial
    · simpa [Section.IsPrintable, LoggingEntry.level?] using level
  rw [Config.compact_toJson]
  exact load_of_isMadeOf_sections (isMadeOf_json hprintable path) valid fits

/-- A name with this ending is that of a YAML file. -/
theorem isYaml_yaml : isYaml "panel.yaml" = true := by
  have hform : extension? "panel.yaml" = some "yaml" := extension?_panel (by simp)
  simp [isYaml, hform]

/-- A level made of the signs of YAML: a comment, a key, quotes, an escape and both kinds of
flows. -/
theorem loads_own_document_in_both_formats_signs :
    let config : Config := ⟨.default, ⟨5⟩, ⟨"  # a: \"b\\\" \x7bc\x7d, [d] ~ ", .text⟩⟩
    isYaml "panel.yaml" = true ∧
      load "panel.yaml" (.ok (Utf8.encode config.toJson.compact)) = .ok config ∧
      isYaml "panel.json" = false ∧
      load "panel.json" (.ok (Utf8.encode config.toJson.compact)) = .ok config := by
  intro config
  have hvalid : config.validate = .ok () :=
    Config.validate_eq_ok_iff.mpr ⟨Endpoint.validate_default, rfl⟩
  have hbaseUrl : ∀ c ∈ config.endpoint.baseUrl.toList, IsPrintable c := by decide
  have hlevel : ∀ c ∈ config.logging.level.toList, IsPrintable c := by decide
  have hload := loads_own_document_in_both_formats hvalid (by decide) hbaseUrl hlevel
  exact ⟨isYaml_yaml, hload _, isYaml_json, hload _⟩

end ConfigFile

end HealthPanel
