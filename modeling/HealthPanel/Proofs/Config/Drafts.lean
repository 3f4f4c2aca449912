import HealthPanel.Config.File
import Mathlib.Data.Option.Basic

/-!
# What a configuration file gives

A file gives some of the configuration, and defaults take the place of the rest. What it gives is
what the sections of the configuration are read into, and every configuration that is loaded is
that with the defaults filled in.
-/

namespace HealthPanel

variable {m : Type → Type} {Draft α : Type}

/-- A record of which the draft itself is kept. -/
def Record.drafted (record : Record m Draft α) : Record m Draft Draft :=
  { title := record.title, fields := record.fields, blank := record.blank, complete := .ok }

/-! ## Records without fields that have to be there -/

namespace JsonFile

/-- A record that needs no field is its draft, completed. -/
theorem readRecord_eq_map (record : Record Json.Reader Draft α) (complete : Draft → α)
    (total : ∀ draft, record.complete draft = .ok (complete draft)) (s : List UInt8) :
    readRecord record s = (readRecord record.drafted s).map fun r => (complete r.1, r.2) := by
  have hlist : ∀ s, readList record s =
      (readList record.drafted s).map fun r => (complete r.1, r.2) := by
    intro s
    simp only [readList, Record.drafted, total]
    cases hpeek : Json.peek .endOfList s with
    | error fault => rfl
    | ok r =>
      obtain ⟨b, rest⟩ := r
      simp only [bind, Except.bind]
      split
      case h_1 => cases readListEnd (0x5D :: _) <;> rfl
      case h_2 =>
        cases readFields record.fields record.blank (_ :: _) with
        | error fault => rfl
        | ok r => cases hend : readListEnd r.2 <;> simp only [hend] <;> rfl
  have hobject : ∀ s, readObject record s =
      (readObject record.drafted s).map fun r => (complete r.1, r.2) := by
    intro s
    simp only [readObject, Record.drafted]
    cases Json.readObject (readMember record.fields) record.blank s with
    | error fault => rfl
    | ok r => simp [bind, Except.bind, total, Except.map]
  simp only [readRecord]
  split
  case h_1 => rfl
  case h_2 => exact hlist _
  case h_3 => exact hobject _
  case h_4 => rfl

end JsonFile

namespace YamlFile

open HealthPanel.Yaml (Mark Node)

/-- What does not fit fails, whatever would have been made of it. -/
theorem map_unfit {β : Type} (place : Place) (expected : String) (node : Option Node) (f : β → α) :
    (unfit place expected node).map f = unfit place expected node := by
  unfold unfit
  split <;> rfl

/-- A record that needs no field is its draft, completed. -/
theorem readRecord_eq_map (record : Record Reader Draft α) (complete : Draft → α)
    (total : ∀ draft, record.complete draft = .ok (complete draft)) (place : Place) :
    readRecord record place = (readRecord record.drafted place).map complete := by
  have hentries : ∀ entries, readEntries record place entries =
      (readEntries record.drafted place entries).map complete := by
    intro entries
    simp only [readEntries, Record.drafted]
    cases entries.foldlM (readEntry record.fields place) record.blank with
    | error fault => rfl
    | ok draft => simp [bind, Except.bind, total, Except.map, pure, Except.pure]
  have hmap : ∀ (mark : Mark) (result : Except Fault Draft),
      (result.map complete).mapError (·.orAt place.path mark) =
        (result.mapError (·.orAt place.path mark)).map complete := by
    intro mark result
    cases result <;> rfl
  simp only [readRecord, hentries]
  split
  case h_4 => exact (map_unfit place _ _ complete).symm
  all_goals exact hmap _ _

end YamlFile

/-! ## Whole files -/

namespace ConfigFile

open HealthPanel.FileFormat (ConfigDraft)

variable {path contents : String} {config : Config}

/-- What the text of a file gives of the configuration. -/
def draft? (path contents : String) : Option ConfigDraft :=
  if isYaml path then
    (Yaml.Document.ofText? contents).bind fun document =>
      (YamlFile.readRecord YamlFile.format.configRecord.drafted
        ⟨document, document.root, []⟩).toOption
  else
    (Json.readAll (JsonFile.readRecord JsonFile.format.configRecord.drafted)
      (Utf8.encode contents)).toOption

/-- Reading all of a text reads what the reader reads. -/
theorem readAll_map {α β : Type} {reader : Json.Reader α} {other : Json.Reader β} {f : α → β}
    (h : ∀ s, other s = (reader s).map fun r => (f r.1, r.2)) (text : List UInt8) :
    Json.readAll other text = (Json.readAll reader text).map f := by
  simp only [Json.readAll, h]
  cases reader text with
  | error fault => rfl
  | ok r => cases hend : Json.readEnd r.2 <;> simp [Except.map, hend]

/-- A file holds what it gives, with the defaults filled in. -/
theorem toOption_parse (path contents : String) :
    (parse path contents).toOption = (draft? path contents).map ConfigDraft.complete := by
  unfold parse draft?
  split
  case isTrue =>
    cases Yaml.Document.ofText? contents with
    | none => rfl
    | some document =>
      have hread := YamlFile.readRecord_eq_map YamlFile.format.configRecord
        ConfigDraft.complete (fun _ => rfl) ⟨document, document.root, []⟩
      simp only [YamlFile.config, FileFormat.config, Option.bind_some]
      rw [show YamlFile.format.record = YamlFile.readRecord from rfl, hread]
      cases YamlFile.readRecord YamlFile.format.configRecord.drafted _ <;> rfl
  case isFalse =>
    have hread := JsonFile.readRecord_eq_map JsonFile.format.configRecord
      ConfigDraft.complete (fun _ => rfl)
    simp only [JsonFile.config, FileFormat.config]
    rw [show JsonFile.format.record = JsonFile.readRecord from rfl, readAll_map hread]
    cases Json.readAll (JsonFile.readRecord JsonFile.format.configRecord.drafted) _ <;> rfl

/-- The text of a file holds a configuration exactly if it gives one. -/
theorem parse_eq_ok_iff :
    parse path contents = .ok config ↔
      ∃ draft, draft? path contents = some draft ∧ draft.complete = config := by
  have hparse := toOption_parse path contents
  rw [← Option.map_eq_some_iff, ← hparse]
  cases parse path contents <;> simp [Except.toOption]

/-- A file is loaded exactly if it is text, gives something, and that makes a valid
configuration. -/
theorem load_eq_ok_iff {read : Except UnreadableFile (List UInt8)} :
    load path read = .ok config ↔
      ∃ bytes contents draft, read = .ok bytes ∧ Utf8.decode? bytes = some contents ∧
        draft? path contents = some draft ∧ draft.complete = config ∧
        config.validate = .ok () := by
  have hload : load path read = .ok config ↔
      ∃ bytes contents, read = .ok bytes ∧ Utf8.decode? bytes = some contents ∧
        parse path contents = .ok config ∧ config.validate = .ok () := by
    simp only [load, bind, Except.bind]
    cases read with
    | error reason => simp [Except.mapError]
    | ok bytes =>
      cases hdecode : Utf8.decode? bytes with
      | none => simp [Except.mapError, hdecode]
      | some contents =>
        cases hparse : parse path contents with
        | error fault => simp [Except.mapError, hdecode, hparse]
        | ok found =>
          cases hvalid : found.validate with
          | error fault =>
            simp only [Except.mapError, hdecode, hparse, hvalid]
            grind
          | ok _ =>
            simp only [Except.mapError, hdecode, hparse, hvalid, pure, Except.pure]
            grind
  rw [hload]
  simp only [parse_eq_ok_iff]
  grind

end ConfigFile

end HealthPanel
