import HealthPanel.Config.Format
import HealthPanel.Proofs.Config.Validity

/-!
# What a file may say

A file has some of the three sections, each of them some of its fields, both in any order and none
twice. What is left out has its default, with one exception: a section of the endpoint has to
name a base URL.
-/

namespace HealthPanel

/-- A field of the section of the log, and its value. -/
inductive LoggingEntry
  | level (text : String)
  | format (form : LogFormat)
  deriving DecidableEq

/-- A section, and what is given in it. -/
inductive Section
  | endpoint (baseUrl : Option String)
  | probe (timeoutSecs : Option Nat)
  | logging (entries : List LoggingEntry)
  deriving DecidableEq

namespace LoggingEntry

/-- The name of the field. -/
def name : LoggingEntry → String
  | level _ => "level"
  | format _ => "format"

/-- The level that an entry gives. -/
def level? : LoggingEntry → Option String
  | level text => some text
  | format _ => none

/-- The form of the lines that an entry gives. -/
def format? : LoggingEntry → Option LogFormat
  | level _ => none
  | format form => some form

end LoggingEntry

namespace Section

/-- The name of the section. -/
def name : Section → String
  | endpoint _ => "endpoint"
  | probe _ => "probe"
  | logging _ => "logging"

/-- A base URL that is valid, a time that is not zero and fits 64 bits, and no field twice. -/
def IsValid : Section → Prop
  | endpoint baseUrl => ∀ url ∈ baseUrl, (Endpoint.mk url).validate = .ok ()
  | probe timeoutSecs => ∀ n ∈ timeoutSecs, 0 < n ∧ n < UInt64.size
  | logging entries => (entries.map LoggingEntry.name).Nodup

/-! ## What a section gives -/

/-- The base URL that a section gives. -/
def baseUrl? : Section → Option String
  | endpoint baseUrl => baseUrl
  | _ => none

/-- The limit in seconds that a section gives. -/
def timeoutSecs? : Section → Option Nat
  | probe timeoutSecs => timeoutSecs
  | _ => none

/-- The level that a section gives. -/
def level? : Section → Option String
  | logging entries => entries.findSome? LoggingEntry.level?
  | _ => none

/-- The form of the lines that a section gives. -/
def format? : Section → Option LogFormat
  | logging entries => entries.findSome? LoggingEntry.format?
  | _ => none

end Section

/-- The sections of a file, none of them twice and each of them valid. -/
structure ValidSections (sections : List Section) : Prop where
  distinct : (sections.map Section.name).Nodup
  valid : ∀ given ∈ sections, given.IsValid

/-- The configuration that sections give, with the default of every field that none gives. -/
def Config.ofSections (sections : List Section) : Config :=
  { endpoint := ⟨(sections.findSome? Section.baseUrl?).getD Endpoint.default.baseUrl⟩
    probe := ⟨(sections.findSome? Section.timeoutSecs?).getD ProbeLimits.default.timeoutSecs⟩
    logging :=
      { level := (sections.findSome? Section.level?).getD Logging.default.level
        format := (sections.findSome? Section.format?).getD Logging.default.format } }

namespace Config

variable {sections : List Section}

/-- A section of the endpoint gives the base URL, whatever the others give. -/
theorem ofSections_cons_endpoint (baseUrl : String) :
    ofSections (.endpoint (some baseUrl) :: sections) =
      { ofSections sections with endpoint := ⟨baseUrl⟩ } := rfl

/-- Sections of other names do not give what only a section of this name gives. -/
theorem findSome?_eq_none_of_name {α : Type} {give : Section → Option α} {name : String}
    (only : ∀ given : Section, given.name ≠ name → give given = none)
    (absent : name ∉ sections.map Section.name) : sections.findSome? give = none :=
  List.findSome?_eq_none_iff.mpr fun given hgiven =>
    only given fun hname => absent (hname ▸ List.mem_map_of_mem hgiven)

/-- A section of the limits gives the limit, if it is the only one. -/
theorem ofSections_cons_probe (timeoutSecs : Option Nat)
    (absent : "probe" ∉ sections.map Section.name) :
    ofSections (.probe timeoutSecs :: sections) =
      { ofSections sections with probe := ⟨timeoutSecs.getD ProbeLimits.default.timeoutSecs⟩ } := by
  have hnone : sections.findSome? Section.timeoutSecs? = none :=
    findSome?_eq_none_of_name (fun given hname => by cases given <;> simp_all [Section.name,
      Section.timeoutSecs?]) absent
  cases timeoutSecs <;>
    simp [ofSections, List.findSome?_cons, Section.timeoutSecs?, Section.baseUrl?, Section.level?,
      Section.format?, hnone]

/-- A section of the log gives level and form, if it is the only one. -/
theorem ofSections_cons_logging (entries : List LoggingEntry)
    (absent : "logging" ∉ sections.map Section.name) :
    ofSections (.logging entries :: sections) =
      { ofSections sections with logging :=
          ⟨(entries.findSome? LoggingEntry.level?).getD Logging.default.level,
            (entries.findSome? LoggingEntry.format?).getD Logging.default.format⟩ } := by
  have hlevel : sections.findSome? Section.level? = none :=
    findSome?_eq_none_of_name (fun given hname => by cases given <;> simp_all [Section.name,
      Section.level?]) absent
  have hformat : sections.findSome? Section.format? = none :=
    findSome?_eq_none_of_name (fun given hname => by cases given <;> simp_all [Section.name,
      Section.format?]) absent
  cases hl : entries.findSome? LoggingEntry.level? <;>
    cases hf : entries.findSome? LoggingEntry.format? <;>
      simp [ofSections, List.findSome?_cons, Section.timeoutSecs?, Section.baseUrl?, Section.level?,
        Section.format?, hlevel, hformat, hl, hf]

/-- What valid sections give is a valid configuration. -/
theorem validate_ofSections (valid : ∀ given ∈ sections, given.IsValid) :
    (ofSections sections).validate = .ok () := by
  refine validate_eq_ok_iff.mpr ⟨?_, ProbeLimits.validate_eq_ok_iff.mpr ?_⟩
  · cases hurl : sections.findSome? Section.baseUrl? with
    | none => simpa [ofSections, hurl] using Endpoint.validate_default
    | some url =>
      obtain ⟨given, hgiven, hmem⟩ := List.exists_of_findSome?_eq_some hurl
      cases given with
      | endpoint baseUrl => simpa [ofSections, hurl] using valid _ hgiven url hmem
      | probe _ => simp [Section.baseUrl?] at hmem
      | logging _ => simp [Section.baseUrl?] at hmem
  · cases hsecs : sections.findSome? Section.timeoutSecs? with
    | none => simp [ofSections, hsecs, ProbeLimits.default]
    | some n =>
      obtain ⟨given, hgiven, hmem⟩ := List.exists_of_findSome?_eq_some hsecs
      cases given with
      | probe timeoutSecs =>
        have hpos := (valid _ hgiven n hmem).1
        simp only [ofSections, hsecs, Option.getD_some]
        omega
      | endpoint _ => simp [Section.timeoutSecs?] at hmem
      | logging _ => simp [Section.timeoutSecs?] at hmem

end Config

end HealthPanel
