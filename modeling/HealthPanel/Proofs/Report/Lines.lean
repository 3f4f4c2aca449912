import HealthPanel.Proofs.Config.Validity
import HealthPanel.Proofs.Text.Lines
import HealthPanel.Report
import Mathlib.Algebra.GroupWithZero.Nat
import Mathlib.Data.List.Forall2

/-!
# The lines of a report

A report is written line by line, each line with a label of its own. What stands behind the labels
is written as it is, so that a line break in it makes one more line. The lines are the labelled ones
exactly where neither the backend nor the base URL brings a line break along.
-/

namespace HealthPanel

/-! ## Labelled lines -/

/-- The text of labels and what stands behind each of them, a line each. -/
def labelledText (entries : List (String × String)) : String :=
  "\n".intercalate (entries.map fun entry => entry.1 ++ entry.2)

/-- A text has exactly one line for each of the labels, in their order. -/
def HasLines (labels : List String) (text : String) : Prop :=
  List.Forall₂ (fun label line => label.toList <+: line.toList) labels (linesOf text)

section

variable {entries : List (String × String)} (nonempty : entries ≠ [])
  (labels : ∀ entry ∈ entries, '\n' ∉ entry.1.toList)
include nonempty labels

/-- What stands behind the labels brings one more line for each of its line breaks. -/
theorem length_linesOf_labelledText :
    (linesOf (labelledText entries)).length =
      entries.length + (entries.map fun entry => lineBreaks entry.2).sum := by
  have hbreaks : (entries.map fun entry => entry.1 ++ entry.2).map lineBreaks =
      entries.map fun entry => lineBreaks entry.2 := by
    rw [List.map_map]
    refine List.map_congr_left fun entry hentry => ?_
    rw [Function.comp_apply, lineBreaks_append, lineBreaks_eq_zero_iff.mpr (labels entry hentry),
      Nat.zero_add]
  rw [labelledText, length_linesOf_intercalate (by simpa using nonempty), List.length_map, hbreaks]

/-- Where nothing behind a label holds a line break, each label starts a line of its own. -/
theorem linesOf_labelledText (unbroken : ∀ entry ∈ entries, '\n' ∉ entry.2.toList) :
    linesOf (labelledText entries) = entries.map fun entry => entry.1 ++ entry.2 := by
  refine linesOf_intercalate (by simpa using nonempty) fun line hline => ?_
  obtain ⟨entry, hentry, rfl⟩ := List.mem_map.mp hline
  rw [String.toList_append, List.mem_append]
  exact not_or.mpr ⟨labels entry hentry, unbroken entry hentry⟩

/-- The lines are the labelled ones exactly if nothing behind a label holds a line break. -/
theorem hasLines_labelledText_iff :
    HasLines (entries.map Prod.fst) (labelledText entries) ↔
      ∀ entry ∈ entries, '\n' ∉ entry.2.toList := by
  constructor
  · intro h entry hentry
    have hlength := h.length_eq
    rw [List.length_map, length_linesOf_labelledText nonempty labels] at hlength
    have hzero : (entries.map fun entry => lineBreaks entry.2).sum = 0 := by omega
    exact lineBreaks_eq_zero_iff.mp
      (List.sum_eq_zero_iff_forall_eq_nat.mp hzero _ (List.mem_map_of_mem hentry))
  · intro unbroken
    rw [HasLines, linesOf_labelledText nonempty labels unbroken, List.forall₂_map_left_iff,
      List.forall₂_map_right_iff, List.forall₂_same]
    intro entry _
    rw [String.toList_append]
    exact List.prefix_append _ _

end

/-! ## Reports -/

/-- The URL of the documentation has the line breaks of the base URL. -/
theorem Endpoint.lineBreaks_docsUrl (endpoint : Endpoint) :
    lineBreaks endpoint.docsUrl = lineBreaks endpoint.baseUrl := by
  have hname : lineBreaks "/docs" = 0 := by decide
  rw [docsUrl, lineBreaks_append, hname, Nat.add_zero, stem]
  split
  case isTrue hslash =>
    obtain ⟨front, hfront⟩ := List.getLast?_eq_some_iff.mp hslash
    rw [lineBreaks, lineBreaks, String.toList_ofList, hfront, List.dropLast_concat,
      List.count_append]
    rfl
  case isFalse => rfl

namespace Report

/-- The labels that the lines of a report on a status should have. -/
def labels (status : Option Status) : List String :=
  if status.any Status.isConnected then
    ["API Status: ", "Version: ", "Environment: ", "City: ", "API Documentation: "]
  else ["API Status: ", "API Documentation: "]

/-- The labels of a report on a status and what it shows behind them. -/
def entries (status : Option Status) (docsUrl : String) : List (String × String) :=
  ("API Status: ", status.elim Status.checkingIndicator Status.indicator) ::
    ((status.bind Status.payload?).elim [] fun payload =>
      [("Version: ", payload.version.getD ""), ("Environment: ", payload.environment.getD ""),
        ("City: ", payload.city.getD Details.defaultCity)]) ++
    [("API Documentation: ", docsUrl)]

/-- What of a payload is shown in a report. -/
def shownMembers : List String :=
  ["version", "environment", "city"]

variable (status : Option Status) (checkedAt : Option Instant) (docsUrl : String)

/-- A line of a report is a label and what stands behind it. -/
theorem lines_ofStatus :
    (ofStatus status checkedAt docsUrl).lines =
      (entries status docsUrl).map fun entry => entry.1 ++ entry.2 := by
  rcases status with _ | _ | _ | _ <;> rfl

/-- The labels of a report depend on the kind of its status alone. -/
theorem map_fst_entries : (entries status docsUrl).map Prod.fst = labels status := by
  rcases status with _ | _ | _ | _ <;> rfl

/-- A label is on one line. -/
theorem newline_notMem_labels : ∀ label ∈ labels status, '\n' ∉ label.toList := by
  rw [labels]
  split <;> decide

/-- The text of a report is its labels with what stands behind them. -/
theorem text_ofStatus :
    (ofStatus status checkedAt docsUrl).text = labelledText (entries status docsUrl) := by
  rw [text, lines_ofStatus, labelledText]

/-- The indicator is on one line. -/
theorem newline_notMem_indicator :
    '\n' ∉ (status.elim Status.checkingIndicator Status.indicator).toList := by
  rcases status with _ | _ | _ | _ <;> simp only [Option.elim, Status.indicator] <;> decide

/-- What is told, or else a default on one line, is on one line exactly if what is told is. -/
theorem newline_notMem_getD_iff {told : Option String} {default : String}
    (h : '\n' ∉ default.toList) :
    '\n' ∉ (told.getD default).toList ↔ ∀ text ∈ told, '\n' ∉ text.toList := by
  cases told <;> simp [h]

/-- What a report shows holds no line break exactly if neither the URL of the documentation nor a
member that is shown of a payload holds one. -/
theorem unbroken_entries_iff :
    (∀ entry ∈ entries status docsUrl, '\n' ∉ entry.2.toList) ↔
      '\n' ∉ docsUrl.toList ∧ ∀ payload ∈ status.bind Status.payload?, ∀ name ∈ shownMembers,
        ∀ told ∈ payload.field name, '\n' ∉ told.toList := by
  have hindicator := newline_notMem_indicator status
  have hmissing : '\n' ∉ "".toList := by decide
  have hcity : '\n' ∉ Details.defaultCity.toList := by decide
  cases hpayload : status.bind Status.payload? with
  | none => simp [entries, hpayload, hindicator]
  | some payload =>
    simp only [entries, hpayload, Option.elim_some, List.cons_append, List.nil_append,
      List.forall_mem_cons, hindicator, newline_notMem_getD_iff hmissing,
      newline_notMem_getD_iff hcity, shownMembers, Payload.version, Payload.environment,
      Payload.city, Option.mem_def, Option.some.injEq, forall_eq', List.not_mem_nil,
      IsEmpty.forall_iff, implies_true, and_true, true_and, not_false_eq_true]
    tauto

/-- The line breaks that the members of a payload bring into a report. -/
def payloadBreaks (payload : Payload) : Nat :=
  (shownMembers.map fun name => lineBreaks ((payload.field name).getD "")).sum

/-- The line breaks behind the labels are those of the URL and of the payload. -/
theorem lineBreaks_entries :
    ((entries status docsUrl).map fun entry => lineBreaks entry.2).sum =
      lineBreaks docsUrl + (status.bind Status.payload?).elim 0 payloadBreaks := by
  have hindicator := lineBreaks_eq_zero_iff.mpr (newline_notMem_indicator status)
  cases hpayload : status.bind Status.payload? with
  | none => simp [entries, hpayload, hindicator]
  | some payload =>
    have hcity : lineBreaks ((payload.field "city").getD Details.defaultCity) =
        lineBreaks ((payload.field "city").getD "") := by
      cases payload.field "city" <;> rfl
    simp only [entries, hpayload, Payload.version, Payload.environment, Payload.city,
      Option.elim_some, List.cons_append, List.nil_append, List.map_cons, hindicator, hcity,
      List.map_nil, List.sum_cons, List.sum_nil, Nat.add_zero, Nat.zero_add, payloadBreaks,
      shownMembers]
    omega

/-- The lines of a report, and what breaks them. They are one for each label and one more for every
line break in the base URL and in the members of the payload that are shown, so that none is ever
missing; and they are exactly the labelled ones, each behind its own label, exactly if there is no
such line break. -/
theorem lines_unless_broken (endpoint : Endpoint) :
    let report := ofStatus status checkedAt endpoint.docsUrl
    (linesOf report.text).length = (labels status).length + lineBreaks endpoint.baseUrl +
        (status.bind Status.payload?).elim 0 payloadBreaks ∧
      (HasLines (labels status) report.text ↔
        '\n' ∉ endpoint.baseUrl.toList ∧ ∀ payload ∈ status.bind Status.payload?,
          ∀ name ∈ shownMembers, ∀ told ∈ payload.field name, '\n' ∉ told.toList) ∧
      (HasLines (labels status) report.text → linesOf report.text = report.lines) := by
  intro report
  have nonempty : entries status endpoint.docsUrl ≠ [] := by simp [entries]
  have hlabels : ∀ entry ∈ entries status endpoint.docsUrl, '\n' ∉ entry.1.toList := by
    intro entry hentry
    refine newline_notMem_labels status entry.1 ?_
    rw [← map_fst_entries status endpoint.docsUrl]
    exact List.mem_map_of_mem hentry
  have htext : report.text = labelledText (entries status endpoint.docsUrl) :=
    text_ofStatus status checkedAt endpoint.docsUrl
  have hbreaks := endpoint.lineBreaks_docsUrl
  have hhas := hasLines_labelledText_iff nonempty hlabels
  rw [map_fst_entries, ← htext] at hhas
  refine ⟨?_, ?_, fun h => ?_⟩
  · rw [htext, length_linesOf_labelledText nonempty hlabels, lineBreaks_entries, hbreaks,
      ← map_fst_entries status endpoint.docsUrl, List.length_map, Nat.add_assoc]
  · rw [hhas, unbroken_entries_iff, ← lineBreaks_eq_zero_iff, hbreaks, lineBreaks_eq_zero_iff]
  · rw [htext, linesOf_labelledText nonempty hlabels (hhas.mp h)]
    exact (lines_ofStatus status checkedAt endpoint.docsUrl).symm

/-- A backend that puts a line break into its version adds a line with a label of another, and so
does a line break in a base URL, which is valid since the break is left out where it is read. -/
theorem line_break_forges_line :
    let payload : Payload := ⟨.object [("version", .text "1.2.0\nCity: Oz")]⟩
    let report := ofStatus (some (.connected payload)) none Endpoint.default.docsUrl
    let broken : Endpoint := ⟨"http://[::1]\n"⟩
    Payload.ofBytes (Utf8.encode "\x7b\"version\":\"1.2.0\\nCity: Oz\"\x7d") = .ok payload ∧
      Endpoint.default.validate = .ok () ∧
      ¬HasLines (labels (some (.connected payload))) report.text ∧
      linesOf report.text = ["API Status: ✅ Connected", "Version: 1.2.0", "City: Oz",
        "Environment: ", "City: Seattle", "API Documentation: http://localhost:8000/docs"] ∧
      broken.validate = .ok () ∧
      linesOf (ofStatus (some .error) none broken.docsUrl).text =
        ["API Status: ❌ Error", "API Documentation: http://[::1]", "/docs"] := by
  intro payload report broken
  have hlines : linesOf report.text = ["API Status: ✅ Connected", "Version: 1.2.0", "City: Oz",
      "Environment: ", "City: Seattle", "API Documentation: http://localhost:8000/docs"] := by
    decide +kernel +revert
  refine ⟨rfl, Endpoint.validate_default, fun h => ?_, hlines, by decide +revert,
    by decide +kernel +revert⟩
  have hlabels : (labels (some (.connected payload))).length = 5 := rfl
  have hlength := h.length_eq
  rw [hlines, hlabels] at hlength
  exact absurd hlength (by decide)

end Report

end HealthPanel
