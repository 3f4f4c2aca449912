import HealthPanel.Config.Basic
import HealthPanel.Proofs.Text.Blank

/-!
# Layers of base URLs

Base URLs are given in layers, the strongest one first. The first layer that is given and not
blank decides, by its text without the white space around it; if there is none, the base URL
below all layers stays as it is.
-/

namespace HealthPanel

open HealthPanel.Text (IsTrimmed isBlank trim trim_eq_iff trim_eq_empty_iff)

variable {below url : String} {layers : List (Option String)}

/-- The base URL that layers decide on, above another one. -/
inductive Decides (below : String) : List (Option String) → String → Prop
  | unnamed : Decides below [] below
  | missing {layers : List (Option String)} {url : String} (later : Decides below layers url) :
      Decides below (none :: layers) url
  /-- A blank layer counts as missing. -/
  | blank {text : String} {layers : List (Option String)} {url : String}
      (blank : ∀ c ∈ text.toList, isBlank c = true) (later : Decides below layers url) :
      Decides below (some text :: layers) url
  | named {text : String} {layers : List (Option String)} {url : String}
      (trimmed : IsTrimmed text url) (named : url ≠ "") : Decides below (some text :: layers) url

/-- The base URL that a layer names, if it names one. -/
def named? (layer : Option String) : Option String :=
  (layer.map trim).filter (· ≠ "")

/-- A layer that gives nothing names nothing. -/
@[simp] theorem named?_none : named? none = none := rfl

/-- A layer names what it gives without the blanks around it, unless nothing is left. -/
@[simp] theorem named?_some (text : String) :
    named? (some text) = if trim text = "" then none else some (trim text) := by
  by_cases hblank : trim text = "" <;> simp [named?, Option.filter_some, hblank]

/-- The first layer that names a base URL decides. -/
theorem decides_iff :
    Decides below layers url ↔ (layers.findSome? named?).getD below = url := by
  constructor
  · intro h
    induction h with
    | unnamed => rfl
    | missing later ih => simpa [List.findSome?_cons] using ih
    | blank blank later ih => simpa [trim_eq_empty_iff.mpr blank] using ih
    | named trimmed named => simp [trimmed.trim_eq, named]
  · intro h
    induction layers with
    | nil =>
      obtain rfl : below = url := h
      exact .unnamed
    | cons layer layers ih =>
      cases layer with
      | none => exact .missing (ih (by simpa [List.findSome?_cons] using h))
      | some text =>
        by_cases hblank : trim text = ""
        · exact .blank (trim_eq_empty_iff.mp hblank) (ih (by simpa [hblank] using h))
        · obtain rfl : trim text = url := by simpa [hblank] using h
          exact .named (Text.isTrimmed_trim text) hblank

/-- An endpoint under a new base URL is what that decides on above it. -/
theorem Endpoint.baseUrl_override (endpoint : Endpoint) (layer : Option String) :
    (endpoint.override layer).baseUrl = (named? layer).getD endpoint.baseUrl := by
  cases layer with
  | none => rfl
  | some text => by_cases hblank : trim text = "" <;> simp [override, hblank]

/-- A layer that is given hides the layers after it, even if it is blank. What is decided then is
what both layers decide on unless a blank one hides a base URL that differs from the one below. -/
theorem decides_or_iff {first second : Option String} :
    Decides below [first, second] ((named? (first.or second)).getD below) ↔
      ¬∃ text hidden, first = some text ∧ (∀ c ∈ text.toList, isBlank c = true) ∧
        Decides below [second] hidden ∧ hidden ≠ below := by
  simp only [decides_iff, ← trim_eq_empty_iff]
  cases first with
  | none => cases hsecond : named? second <;> simp [List.findSome?_cons, hsecond]
  | some text =>
    by_cases hblank : trim text = ""
    · cases hsecond : named? second <;> simp [hblank, hsecond]
    · simp [hblank]

end HealthPanel
