import HealthPanel.Proofs.Config.Layers
import HealthPanel.Proofs.Config.Validity

/-!
# Overrides one after another

Overrides may be layered over a configuration any number of times. Each setting goes its own way:
what was given last stands, a blank base URL is none, and what is never given stays as it was at
first. So a configuration that was valid is judged by what stands of the overrides alone.
-/

namespace HealthPanel

open HealthPanel.Text (IsTrimmed isBlank trim trim_eq_empty_iff)

namespace Config

variable {config : Config} {call first second : Overrides} {calls before after : List Overrides}

/-- The configuration with overrides layered over it one after another. -/
def overrideAll (config : Config) (calls : List Overrides) : Config :=
  calls.foldl override config

/-- What overrides may set. -/
inductive Setting
  | baseUrl
  | timeoutSecs
  | logFormat

/-- What overrides do set. A blank base URL sets nothing. -/
def Overrides.Sets (call : Overrides) : Setting → Prop
  | .baseUrl => ∃ text, call.baseUrl = some text ∧ ∃ c ∈ text.toList, isBlank c = false
  | .timeoutSecs => ∃ n, call.timeoutSecs = some n
  | .logFormat => ∃ format, call.logFormat = some format

/-- The base URLs that overrides give, blank ones left out. -/
def givenUrls (calls : List Overrides) : List String :=
  (calls.filterMap Overrides.baseUrl).filter fun text => !text.toList.all isBlank

/-- The times that overrides give. -/
def givenTimes (calls : List Overrides) : List Nat :=
  calls.filterMap Overrides.timeoutSecs

/-- The forms of log lines that overrides give. -/
def givenFormats (calls : List Overrides) : List LogFormat :=
  calls.filterMap Overrides.logFormat

/-! ## One call -/

/-- Overrides replace each setting on its own. -/
theorem override_eq (config : Config) (call : Overrides) :
    config.override call =
      ⟨⟨(named? call.baseUrl).getD config.endpoint.baseUrl⟩,
        ⟨call.timeoutSecs.getD config.probe.timeoutSecs⟩,
        ⟨config.logging.level, call.logFormat.getD config.logging.format⟩⟩ := by
  rw [override, ← Endpoint.baseUrl_override]

/-- A base URL is named exactly if overrides set one. -/
theorem named?_eq_none_iff : named? call.baseUrl = none ↔ ¬call.Sets .baseUrl := by
  cases hurl : call.baseUrl with
  | none => simp [Overrides.Sets, hurl]
  | some text =>
    have hblank := @trim_eq_empty_iff text
    by_cases htrim : trim text = "" <;> simp_all [Overrides.Sets]

/-- Of two replacements the order does not matter if one of them is none. -/
theorem getD_getD_comm {α : Type} {x y : Option α} {start : α} (apart : x = none ∨ y = none) :
    y.getD (x.getD start) = x.getD (y.getD start) := by
  rcases apart with rfl | rfl <;> rfl

/-- Overrides that set nothing in common can be layered in either order. -/
theorem override_comm (apart : ∀ setting, ¬(first.Sets setting ∧ second.Sets setting)) :
    (config.override first).override second = (config.override second).override first := by
  have hurl : named? first.baseUrl = none ∨ named? second.baseUrl = none := by
    rw [named?_eq_none_iff, named?_eq_none_iff, ← not_and_or]
    exact apart .baseUrl
  have htime : first.timeoutSecs = none ∨ second.timeoutSecs = none := by
    rw [Option.eq_none_iff_forall_ne_some, Option.eq_none_iff_forall_ne_some, ← not_exists,
      ← not_exists, ← not_and_or]
    exact apart .timeoutSecs
  have hformat : first.logFormat = none ∨ second.logFormat = none := by
    rw [Option.eq_none_iff_forall_ne_some, Option.eq_none_iff_forall_ne_some, ← not_exists,
      ← not_exists, ← not_and_or]
    exact apart .logFormat
  simp only [override_eq, getD_getD_comm hurl, getD_getD_comm htime, getD_getD_comm hformat]

/-- Layering the same overrides once more changes nothing. -/
theorem override_override_self (config : Config) (call : Overrides) :
    (config.override call).override call = config.override call := by
  have hself {α : Type} (x : Option α) (start : α) : x.getD (x.getD start) = x.getD start := by
    cases x <;> rfl
  simp only [override_eq, hself]

/-! ## All calls -/

/-- The last call is applied to what the others have made. -/
@[simp] theorem overrideAll_concat :
    config.overrideAll (calls ++ [call]) = (config.overrideAll calls).override call := by
  simp [overrideAll]

/-- Calls in two parts are applied one part after the other. -/
theorem overrideAll_append :
    config.overrideAll (before ++ after) = (config.overrideAll before).overrideAll after := by
  simp [overrideAll]

/-- The first call is applied first. -/
theorem overrideAll_cons :
    config.overrideAll (call :: calls) = (config.override call).overrideAll calls := rfl

/-- What may be given once more stands until then. -/
theorem getLast?_append_toList_getD {α : Type} (given : List α) (x : Option α) (start : α) :
    (given ++ x.toList).getLast?.getD start = x.getD (given.getLast?.getD start) := by
  cases x <;> simp

/-- A base URL that is named is the text of one that is given. -/
theorem givenUrls_concat :
    (givenUrls (calls ++ [call])).map trim =
      (givenUrls calls).map trim ++ (named? call.baseUrl).toList := by
  cases hurl : call.baseUrl with
  | none => simp [givenUrls, hurl]
  | some text =>
    have hblank : trim text = "" ↔ text.toList.all isBlank = true := by
      rw [trim_eq_empty_iff, List.all_eq_true]
    by_cases htrim : text.toList.all isBlank = true
    · simp [givenUrls, hurl, hblank, htrim, -List.all_eq_true]
    · simp [givenUrls, hurl, hblank, htrim, -List.all_eq_true]

/-- What was given last stands, and what was never given is what stood at first. -/
theorem overrideAll_eq (config : Config) (calls : List Overrides) :
    config.overrideAll calls =
      ⟨⟨((givenUrls calls).map trim).getLast?.getD config.endpoint.baseUrl⟩,
        ⟨(givenTimes calls).getLast?.getD config.probe.timeoutSecs⟩,
        ⟨config.logging.level, (givenFormats calls).getLast?.getD config.logging.format⟩⟩ := by
  induction calls using List.reverseRecOn with
  | nil => rfl
  | append_singleton calls call ih =>
    have htimes : givenTimes (calls ++ [call]) = givenTimes calls ++ call.timeoutSecs.toList := by
      cases htime : call.timeoutSecs <;> simp [givenTimes, htime]
    have hformats : givenFormats (calls ++ [call]) =
        givenFormats calls ++ call.logFormat.toList := by
      cases hformat : call.logFormat <;> simp [givenFormats, hformat]
    rw [overrideAll_concat, override_eq, ih, givenUrls_concat, htimes, hformats]
    simp only [getLast?_append_toList_getD]

/-- A valid configuration stays valid exactly if what stands of the overrides is. -/
theorem validate_overrideAll_iff (valid : config.validate = .ok ()) :
    (config.overrideAll calls).validate = .ok () ↔
      (∀ text, (givenUrls calls).getLast? = some text →
        (⟨trim text⟩ : Endpoint).validate = .ok ()) ∧
      (givenTimes calls).getLast? ≠ some 0 := by
  obtain ⟨hendpoint, hprobe⟩ := validate_eq_ok_iff.mp valid
  rw [ProbeLimits.validate_eq_ok_iff] at hprobe
  rw [validate_eq_ok_iff, ProbeLimits.validate_eq_ok_iff, overrideAll_eq, List.getLast?_map]
  refine and_congr ?_ ?_
  · cases (givenUrls calls).getLast? <;> simp [hendpoint]
  · cases (givenTimes calls).getLast? <;> simp [hprobe]

/-- Overrides layered over a configuration one after another. The base URL is the last one given
that is not blank, without the white space around it, and the one at first, just as it was, if there
is none. Time and form of the log lines are the last ones given, or those at first, and the level is
the one at first. Neighbours that set nothing in common can change places, and one that is repeated
counts once. What was valid stays valid exactly if the base URL that stands is an absolute URL of
the web, unless it is the one at first, and the time that stands is not zero. -/
theorem last_given_stands (start : Config) (calls : List Overrides) :
    let final := start.overrideAll calls
    (∀ text, (givenUrls calls).getLast? = some text → IsTrimmed text final.endpoint.baseUrl) ∧
    (givenUrls calls = [] → final.endpoint.baseUrl = start.endpoint.baseUrl) ∧
    final.probe.timeoutSecs = (givenTimes calls).getLast?.getD start.probe.timeoutSecs ∧
    final.logging.format = (givenFormats calls).getLast?.getD start.logging.format ∧
    final.logging.level = start.logging.level ∧
    (∀ before first second after, calls = before ++ first :: second :: after →
      (∀ setting, ¬(first.Sets setting ∧ second.Sets setting)) →
      start.overrideAll (before ++ second :: first :: after) = final) ∧
    (∀ before call after, calls = before ++ call :: after →
      start.overrideAll (before ++ call :: call :: after) = final) ∧
    (start.validate = .ok () →
      (final.validate = .ok () ↔
        (∀ text trimmed, (givenUrls calls).getLast? = some text → IsTrimmed text trimmed →
          ∃ url, Url.ofString trimmed = .ok url ∧ url.scheme ∈ ["http", "https"]) ∧
        (givenTimes calls).getLast? ≠ some 0)) := by
  intro final
  have hfinal : final = _ := overrideAll_eq start calls
  refine ⟨?_, ?_, by rw [hfinal], by rw [hfinal], by rw [hfinal], ?_, ?_, ?_⟩
  · intro text htext
    rw [hfinal, List.getLast?_map, htext]
    exact Text.isTrimmed_trim text
  · intro hnone
    rw [hfinal, hnone]
    rfl
  · rintro before first second after hcalls apart
    simp only [final, hcalls, overrideAll_append, overrideAll_cons, override_comm apart]
  · rintro before call after hcalls
    simp only [final, hcalls, overrideAll_append, overrideAll_cons, override_override_self]
  · intro valid
    rw [validate_overrideAll_iff valid]
    refine and_congr_left fun _ => ⟨?_, ?_⟩
    · intro h text trimmed htext htrimmed
      exact htrimmed.trim_eq ▸ Endpoint.validate_eq_ok_iff.mp (h text htext)
    · intro h text htext
      exact Endpoint.validate_eq_ok_iff.mpr (h text (trim text) htext (Text.isTrimmed_trim text))

/-- A base URL among spaces is trimmed, and neither a blank one nor a time of zero that is given
before another one counts. -/
theorem last_given_stands_blank_last :
    let calls : List Overrides :=
      [⟨some "http://[::1] ", some 0, none⟩, ⟨none, some 9, none⟩,
        ⟨some "\u3000", none, some .json⟩]
    Config.default.validate = .ok () ∧
      Config.default.overrideAll calls = ⟨⟨"http://[::1]"⟩, ⟨9⟩, ⟨"info", .json⟩⟩ ∧
      (Config.default.overrideAll calls).validate = .ok () ∧
      Config.default.overrideAll [calls[0], calls[2], calls[1]] =
        Config.default.overrideAll calls := by
  intro calls
  have hgiven : (givenUrls calls).getLast? = some "http://[::1] " := by decide +revert
  have htime : (givenTimes calls).getLast? ≠ some 0 := by decide +revert
  have hfinal : Config.default.overrideAll calls = ⟨⟨"http://[::1]"⟩, ⟨9⟩, ⟨"info", .json⟩⟩ := by
    decide +revert
  have hapart : ∀ setting, ¬(calls[1].Sets setting ∧ calls[2].Sets setting) := by
    intro setting hsets
    cases setting with
    | baseUrl => obtain ⟨⟨text, htext, -⟩, -⟩ := hsets; cases htext
    | timeoutSecs => obtain ⟨-, n, hn⟩ := hsets; cases hn
    | logFormat => obtain ⟨⟨format, hformat⟩, -⟩ := hsets; cases hformat
  obtain ⟨-, -, -, -, -, hswap, -, hvalid⟩ := last_given_stands .default calls
  refine ⟨validate_default, hfinal, (hvalid validate_default).mpr ⟨?_, htime⟩,
    hswap [calls[0]] _ _ [] rfl hapart⟩
  intro text trimmed htext htrimmed
  obtain rfl := Option.some.inj (hgiven.symm.trans htext)
  rw [← htrimmed.trim_eq]
  exact ⟨_, rfl, by decide⟩

end Config

end HealthPanel
