import HealthPanel.Config.Basic

/-!
# What a configuration file says

The configuration is described once, over whatever reads a file of some format: which fields a
section has, what each of them holds, and what takes the place of those that are left out. Only
the base URL of a given endpoint has to be there.
-/

namespace HealthPanel

/-- A field of a record: its name, whether a draft of the record has it already, and how its
contents are read into a draft. -/
structure Field (m : Type → Type) (Draft : Type) where
  name : String
  isSet : Draft → Bool
  read : Draft → m Draft

/-- A record: its fields in order, the draft that has none of them, and how a draft is
completed, unless a field that has to be there is missing. -/
structure Record (m : Type → Type) (Draft α : Type) where
  title : String
  fields : List (Field m Draft)
  blank : Draft
  complete : Draft → Except String α

/-- What a file of some format can be asked for. -/
structure FileFormat (m : Type → Type) where
  /-- An integer from zero that fits 64 bits. -/
  natural : m Nat
  text : m String
  /-- One of some named values. -/
  choice {α : Type} : List (String × α) → m α
  record {Draft α : Type} : Record m Draft α → m α

namespace FileFormat

variable {m : Type → Type} [Functor m]

/-- A field that keeps what it reads in one place of the draft. -/
def field {Draft α : Type} (name : String) (get : Draft → Option α)
    (set : Draft → Option α → Draft) (contents : m α) : Field m Draft :=
  { name := name
    isSet draft := (get draft).isSome
    read draft := (fun value => set draft (some value)) <$> contents }

/-- A draft with a single field. -/
structure Draft (α : Type) where
  value : Option α

/-- A field that is the whole draft. -/
def onlyField {α : Type} (name : String) (contents : m α) : Field m (Draft α) :=
  field name Draft.value (fun _ value => ⟨value⟩) contents

/-- The section of the endpoint, whose base URL has to be there. -/
def endpointRecord (format : FileFormat m) : Record m (Draft String) Endpoint :=
  { title := "EndpointConfig"
    fields := [onlyField "base_url" format.text]
    blank := ⟨none⟩
    complete draft :=
      match draft.value with
      | some baseUrl => .ok ⟨baseUrl⟩
      | none => .error "base_url" }

/-- The endpoint. -/
def endpoint (format : FileFormat m) : m Endpoint :=
  format.record format.endpointRecord

/-- The section of the limits. -/
def probeRecord (format : FileFormat m) : Record m (Draft Nat) ProbeLimits :=
  { title := "ProbeConfig"
    fields := [onlyField "timeout_secs" format.natural]
    blank := ⟨none⟩
    complete draft := .ok ⟨draft.value.getD ProbeLimits.default.timeoutSecs⟩ }

/-- The limits of a probe. -/
def probe (format : FileFormat m) : m ProbeLimits :=
  format.record format.probeRecord

/-- The logging section while it is read. -/
structure LoggingDraft where
  level : Option String
  format : Option LogFormat

/-- The logging section, defaults in the place of what is left out. -/
def LoggingDraft.complete (draft : LoggingDraft) : Logging :=
  ⟨draft.level.getD Logging.default.level, draft.format.getD Logging.default.format⟩

/-- The names of the forms of log lines. -/
def logFormats : List (String × LogFormat) := [("text", .text), ("json", .json)]

/-- The section of the log. -/
def loggingRecord (format : FileFormat m) : Record m LoggingDraft Logging :=
  { title := "LoggingConfig"
    fields := [
      field "level" LoggingDraft.level (fun draft level => { draft with level }) format.text,
      field "format" LoggingDraft.format (fun draft format => { draft with format })
        (format.choice logFormats)]
    blank := ⟨none, none⟩
    complete draft := .ok draft.complete }

/-- How the program logs. -/
def logging (format : FileFormat m) : m Logging :=
  format.record format.loggingRecord

/-- A configuration while it is read. -/
structure ConfigDraft where
  endpoint : Option Endpoint
  probe : Option ProbeLimits
  logging : Option Logging

/-- A configuration, defaults in the place of the sections that are left out. -/
def ConfigDraft.complete (draft : ConfigDraft) : Config :=
  ⟨draft.endpoint.getD .default, draft.probe.getD .default, draft.logging.getD .default⟩

/-- The sections of a configuration. -/
def configRecord (format : FileFormat m) : Record m ConfigDraft Config :=
  { title := "Config"
    fields := [
      field "endpoint" ConfigDraft.endpoint (fun draft endpoint => { draft with endpoint })
        format.endpoint,
      field "probe" ConfigDraft.probe (fun draft probe => { draft with probe }) format.probe,
      field "logging" ConfigDraft.logging (fun draft logging => { draft with logging })
        format.logging]
    blank := ⟨none, none, none⟩
    complete draft := .ok draft.complete }

/-- A whole configuration. -/
def config (format : FileFormat m) : m Config :=
  format.record format.configRecord

end FileFormat

end HealthPanel
