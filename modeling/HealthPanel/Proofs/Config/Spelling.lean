import HealthPanel.Proofs.Config.Sections
import Mathlib.Data.List.Forall2

/-!
# Reading what is spelled out

A format spells texts, numbers and records out as contents of some kind, and reads such contents
back. What the configuration makes of sections that are spelled out follows from that alone: it
has every value that is given and the default of every other one, unless there is a section of
the endpoint without a base URL, which cannot be read.
-/

namespace HealthPanel

/-! ## Outcomes of readers -/

/-- What has a value is a success with this value. -/
theorem eq_ok_of_toOption {ε α : Type} {result : Except ε α} {value : α}
    (h : result.toOption = some value) : result = .ok value := by
  cases result with
  | error fault => cases h
  | ok found => exact congrArg _ (Option.some.inj h)

/-- What has no value is a failure. -/
theorem exists_eq_error_of_toOption {ε α : Type} {result : Except ε α}
    (h : result.toOption = none) : ∃ fault, result = .error fault := by
  cases result with
  | error fault => exact ⟨fault, rfl⟩
  | ok value => cases h

/-- Another fault makes no other value. -/
theorem toOption_mapError {ε δ α : Type} (f : ε → δ) (result : Except ε α) :
    (result.mapError f).toOption = result.toOption := by
  cases result <;> rfl

/-- What is made of a success is made of its value. -/
theorem toOption_map {ε α β : Type} (f : α → β) (result : Except ε α) :
    (result.map f).toOption = result.toOption.map f := by
  cases result <;> rfl

/-- A value of two steps is that of the second on the value of the first. -/
theorem toOption_bind {ε α β : Type} (result : Except ε α) (f : α → Except ε β) :
    (result >>= f).toOption = result.toOption.bind fun value => (f value).toOption := by
  cases result <;> rfl

/-! ## Records that are filled -/

variable {m : Type → Type} {Content : Type}

/-- The members of a record fill a draft of it: each one is a field that the draft does not have
yet. The outcome is nothing if the contents of one of them cannot be read. -/
inductive FillsTo (Reads : ∀ {α : Type}, m α → Content → Option α → Prop) {Draft : Type}
    (fields : List (Field m Draft)) :
    Draft → List (String × Content) → Option Draft → Prop
  | done (draft : Draft) : FillsTo @Reads fields draft [] (some draft)
  | next {draft filled : Draft} {outcome : Option Draft} {field : Field m Draft} {name : String}
      {content : Content} {members : List (String × Content)}
      (known : fields.find? (·.name = name) = some field) (unset : field.isSet draft = false)
      (reads : Reads (field.read draft) content (some filled))
      (rest : FillsTo @Reads fields filled members outcome) :
      FillsTo @Reads fields draft ((name, content) :: members) outcome
  | fails {draft : Draft} {field : Field m Draft} {name : String} {content : Content}
      {members : List (String × Content)}
      (known : fields.find? (·.name = name) = some field) (unset : field.isSet draft = false)
      (reads : Reads (field.read draft) content none) :
      FillsTo @Reads fields draft ((name, content) :: members) none

/-- How a format spells things out. `Reads` says what a reader makes of contents, nothing if it
refuses them. -/
structure Spelling [Functor m] (format : FileFormat m) (Content : Type) where
  Reads : ∀ {α : Type}, m α → Content → Option α → Prop
  IsText : Content → String → Prop
  IsNatural : Content → Nat → Prop
  IsRecord : Content → List (String × Content) → Prop
  reads_map : ∀ {α β : Type} {reader : m α} {content : Content} {outcome : Option α} (f : α → β),
    Reads reader content outcome → Reads (f <$> reader) content (outcome.map f)
  reads_text : ∀ {content : Content} {text : String},
    IsText content text → Reads format.text content (some text)
  reads_natural : ∀ {content : Content} {n : Nat},
    IsNatural content n → 0 < n → n < UInt64.size → Reads format.natural content (some n)
  reads_choice : ∀ {α : Type} {content : Content} {name : String} {choices : List (String × α)}
    {value : α}, IsText content name → choices.lookup name = some value →
      Reads (format.choice choices) content (some value)
  reads_record : ∀ {Draft α : Type} {record : Record m Draft α} {content : Content}
    {members : List (String × Content)} {outcome : Option Draft}, IsRecord content members →
      FillsTo @Reads record.fields record.blank members outcome →
        Reads (format.record record) content
          (outcome.bind fun draft => (record.complete draft).toOption)

namespace Spelling

open FileFormat

variable [Functor m] {format : FileFormat m} (spelling : Spelling format Content)

/-! ## What is spelled out -/

/-- A member that names the base URL. -/
def IsBaseUrl (baseUrl : String) (member : String × Content) : Prop :=
  member.1 = "base_url" ∧ spelling.IsText member.2 baseUrl

/-- A member that names the time a probe may take. -/
def IsTimeout (timeoutSecs : Nat) (member : String × Content) : Prop :=
  member.1 = "timeout_secs" ∧ spelling.IsNatural member.2 timeoutSecs

/-- A member that is a field of the section of the log. -/
def IsLoggingEntry (entry : LoggingEntry) (member : String × Content) : Prop :=
  member.1 = entry.name ∧
    match entry with
    | .level text => spelling.IsText member.2 text
    | .format form => spelling.IsText member.2 form.name

/-- A member that is a section with exactly what is given in it. -/
def IsSection (given : Section) (member : String × Content) : Prop :=
  member.1 = given.name ∧ ∃ members, spelling.IsRecord member.2 members ∧
    match given with
    | .endpoint baseUrl => List.Forall₂ spelling.IsBaseUrl baseUrl.toList members
    | .probe timeoutSecs => List.Forall₂ spelling.IsTimeout timeoutSecs.toList members
    | .logging entries => List.Forall₂ spelling.IsLoggingEntry entries members

/-- Contents that are made of exactly the given sections. -/
def IsMadeOf (content : Content) (sections : List Section) : Prop :=
  ∃ members, spelling.IsRecord content members ∧
    List.Forall₂ spelling.IsSection sections members

/-! ## What is read -/

variable {spelling}

/-- Reading a field puts what is read in its place. -/
theorem reads_field {Draft α : Type} {name : String} {get : Draft → Option α}
    {set : Draft → Option α → Draft} {contents : m α} {content : Content} {value : Option α}
    (h : spelling.Reads contents content value) (draft : Draft) :
    spelling.Reads ((field name get set contents).read draft) content
      (value.map fun value => set draft (some value)) :=
  spelling.reads_map _ h

/-- The single field of a record fills it. -/
theorem fillsTo_onlyField {α : Type} {name : String} {contents : m α} {content : Content}
    {value : α} (h : spelling.Reads contents content (some value)) :
    FillsTo @spelling.Reads [onlyField name contents] ⟨none⟩ [(name, content)]
      (some ⟨some value⟩) :=
  have hknown :
      [onlyField name contents].find? (·.name = name) = some (onlyField name contents) := by
    simp [onlyField, field]
  .next hknown rfl (reads_field h _) (.done _)

/-- A record with the base URL in it, or with nothing, is read as the endpoint it gives, if any. -/
theorem reads_endpoint {content : Content} {members : List (String × Content)}
    {baseUrl : Option String} (record : spelling.IsRecord content members)
    (spelled : List.Forall₂ spelling.IsBaseUrl baseUrl.toList members) :
    spelling.Reads format.endpoint content (baseUrl.map Endpoint.mk) := by
  cases baseUrl with
  | none =>
    cases spelled
    exact spelling.reads_record record (.done _)
  | some url =>
    obtain ⟨⟨name, value⟩, _, ⟨hname, htext⟩, ⟨⟩, rfl⟩ := List.forall₂_cons_left_iff.mp spelled
    obtain rfl : name = "base_url" := hname
    have hfill : FillsTo @spelling.Reads format.endpointRecord.fields format.endpointRecord.blank
        [("base_url", value)] (some ⟨some url⟩) := fillsTo_onlyField (spelling.reads_text htext)
    exact spelling.reads_record record hfill

/-- A record with the limit in it, or with nothing, is read as the limits it gives. -/
theorem reads_probe {content : Content} {members : List (String × Content)}
    {timeoutSecs : Option Nat} (record : spelling.IsRecord content members)
    (spelled : List.Forall₂ spelling.IsTimeout timeoutSecs.toList members)
    (valid : ∀ n ∈ timeoutSecs, 0 < n ∧ n < UInt64.size) :
    spelling.Reads format.probe content
      (some ⟨timeoutSecs.getD ProbeLimits.default.timeoutSecs⟩) := by
  cases timeoutSecs with
  | none =>
    cases spelled
    exact spelling.reads_record record (.done _)
  | some n =>
    obtain ⟨⟨name, value⟩, _, ⟨hname, hnatural⟩, ⟨⟩, rfl⟩ := List.forall₂_cons_left_iff.mp spelled
    obtain rfl : name = "timeout_secs" := hname
    obtain ⟨hpos, hlt⟩ := valid n rfl
    have hfill : FillsTo @spelling.Reads format.probeRecord.fields format.probeRecord.blank
        [("timeout_secs", value)] (some ⟨some n⟩) :=
      fillsTo_onlyField (spelling.reads_natural hnatural hpos hlt)
    exact spelling.reads_record record hfill

/-- The fields of the section of the log take the places that are still free. -/
theorem fillsTo_logging {entries : List LoggingEntry} {members : List (String × Content)}
    (spelled : List.Forall₂ spelling.IsLoggingEntry entries members)
    (distinct : (entries.map LoggingEntry.name).Nodup) (draft : LoggingDraft)
    (levelFree : draft.level.isSome → "level" ∉ entries.map LoggingEntry.name)
    (formatFree : draft.format.isSome → "format" ∉ entries.map LoggingEntry.name) :
    FillsTo @spelling.Reads format.loggingRecord.fields draft members
      (some ⟨draft.level.or (entries.findSome? LoggingEntry.level?),
        draft.format.or (entries.findSome? LoggingEntry.format?)⟩) := by
  induction spelled generalizing draft with
  | nil => simpa using FillsTo.done draft
  | @cons entry member entries members hentry _ ih =>
    obtain ⟨name, content⟩ := member
    rw [List.map_cons, List.nodup_cons] at distinct
    cases entry with
    | level text =>
      obtain ⟨hname, htext⟩ := hentry
      obtain rfl : name = "level" := hname
      have hfree : draft.level = none := by simpa [LoggingEntry.name] using levelFree
      have hrest := ih distinct.2 { draft with level := some text } (fun _ => distinct.1)
        fun hset => (List.ne_and_not_mem_of_not_mem_cons (formatFree hset)).2
      rw [hfree, Option.none_or]
      exact .next rfl (by simp [field, hfree]) (reads_field (spelling.reads_text htext) draft) hrest
    | format form =>
      obtain ⟨hname, htext⟩ := hentry
      obtain rfl : name = "format" := hname
      have hfree : draft.format = none := by simpa [LoggingEntry.name] using formatFree
      have hrest := ih distinct.2 { draft with format := some form }
        (fun hset => (List.ne_and_not_mem_of_not_mem_cons (levelFree hset)).2)
        (fun _ => distinct.1)
      have hchoice : logFormats.lookup form.name = some form := by cases form <;> rfl
      rw [hfree, Option.none_or]
      exact .next rfl (by simp [field, hfree])
        (reads_field (spelling.reads_choice htext hchoice) draft) hrest

/-- A record with level and form in it, none of them twice, is read as what it gives of the log. -/
theorem reads_logging {content : Content} {members : List (String × Content)}
    {entries : List LoggingEntry} (record : spelling.IsRecord content members)
    (spelled : List.Forall₂ spelling.IsLoggingEntry entries members)
    (distinct : (entries.map LoggingEntry.name).Nodup) :
    spelling.Reads format.logging content
      (some (LoggingDraft.complete ⟨entries.findSome? LoggingEntry.level?,
        entries.findSome? LoggingEntry.format?⟩)) := by
  have hfill := fillsTo_logging spelled distinct format.loggingRecord.blank
    (fun hset => nomatch hset) (fun hset => nomatch hset)
  exact spelling.reads_record record hfill

/-- The sections take the places that are still free; nothing comes of a section of the endpoint
without a base URL. -/
theorem fillsTo_config {sections : List Section} {members : List (String × Content)}
    (spelled : List.Forall₂ spelling.IsSection sections members)
    (distinct : (sections.map Section.name).Nodup) (valid : ∀ given ∈ sections, given.IsValid)
    (draft : ConfigDraft)
    (endpointFree : draft.endpoint.isSome → "endpoint" ∉ sections.map Section.name)
    (probeFree : draft.probe.isSome → "probe" ∉ sections.map Section.name)
    (loggingFree : draft.logging.isSome → "logging" ∉ sections.map Section.name) :
    ∃ outcome, FillsTo @spelling.Reads format.configRecord.fields draft members outcome ∧
      outcome.map ConfigDraft.complete =
        if .endpoint none ∈ sections then none
        else some
          { endpoint := draft.endpoint.getD (Config.ofSections sections).endpoint
            probe := draft.probe.getD (Config.ofSections sections).probe
            logging := draft.logging.getD (Config.ofSections sections).logging } := by
  induction spelled generalizing draft with
  | nil => exact ⟨_, .done draft, rfl⟩
  | @cons given member sections members hgiven _ ih =>
    obtain ⟨name, content⟩ := member
    obtain ⟨hname, inner, hrecord, hspelled⟩ := hgiven
    rw [List.map_cons, List.nodup_cons] at distinct
    rw [List.forall_mem_cons] at valid
    have other {place : String} {set : Prop}
        (free : set → place ∉ (given :: sections).map Section.name) (hset : set) :
        place ∉ sections.map Section.name :=
      (List.ne_and_not_mem_of_not_mem_cons (free hset)).2
    have ih := ih distinct.2 valid.2
    cases given with
    | endpoint baseUrl =>
      obtain rfl : name = "endpoint" := hname
      have hfree : draft.endpoint = none := by simpa [Section.name] using endpointFree
      have hread := reads_endpoint hrecord hspelled
      cases baseUrl with
      | none => exact ⟨none, .fails rfl (by simp [field, hfree]) (reads_field hread draft), by simp⟩
      | some url =>
        obtain ⟨outcome, hrest, houtcome⟩ := ih { draft with endpoint := some ⟨url⟩ }
          (fun _ => distinct.1) (other probeFree) (other loggingFree)
        refine ⟨outcome, .next rfl (by simp [field, hfree]) (reads_field hread draft) hrest, ?_⟩
        simp [houtcome, hfree, Config.ofSections_cons_endpoint]
    | probe timeoutSecs =>
      obtain rfl : name = "probe" := hname
      have hfree : draft.probe = none := by simpa [Section.name] using probeFree
      have hread := reads_probe hrecord hspelled valid.1
      obtain ⟨outcome, hrest, houtcome⟩ := ih { draft with probe := some _ }
        (other endpointFree) (fun _ => distinct.1) (other loggingFree)
      refine ⟨outcome, .next rfl (by simp [field, hfree]) (reads_field hread draft) hrest, ?_⟩
      simp [houtcome, hfree, Config.ofSections_cons_probe _ distinct.1]
    | logging entries =>
      obtain rfl : name = "logging" := hname
      have hfree : draft.logging = none := by simpa [Section.name] using loggingFree
      have hread := reads_logging hrecord hspelled valid.1
      obtain ⟨outcome, hrest, houtcome⟩ := ih { draft with logging := some _ }
        (other endpointFree) (other probeFree) (fun _ => distinct.1)
      refine ⟨outcome, .next rfl (by simp [field, hfree]) (reads_field hread draft) hrest, ?_⟩
      simp [houtcome, hfree, Config.ofSections_cons_logging _ distinct.1, LoggingDraft.complete]

/-- Contents that are made of valid sections are read as what these give, unless there is a
section of the endpoint without a base URL. -/
theorem reads_config {content : Content} {sections : List Section}
    (made : spelling.IsMadeOf content sections) (valid : ValidSections sections) :
    spelling.Reads format.config content
      (if .endpoint none ∈ sections then none else some (Config.ofSections sections)) := by
  obtain ⟨members, hrecord, hspelled⟩ := made
  obtain ⟨outcome, hfill, houtcome⟩ := fillsTo_config hspelled valid.distinct valid.valid
    format.configRecord.blank (fun hset => nomatch hset) (fun hset => nomatch hset)
    (fun hset => nomatch hset)
  have hread := spelling.reads_record hrecord hfill
  have hmap : (outcome.bind fun draft => (format.configRecord.complete draft).toOption) =
      outcome.map ConfigDraft.complete := by cases outcome <;> rfl
  rw [hmap, houtcome] at hread
  exact hread

end Spelling

end HealthPanel
