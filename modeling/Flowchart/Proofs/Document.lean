import Flowchart.Log.Document
import Flowchart.Proofs.Spelling
import Flowchart.Proofs.Timestamp

/-!
# Logs that are written are read back

The text of a log spells an object, and its fields are what the reader of a log looks for.
A log is read back from its text if its numbers of steps fit a word and its years have
four digits.  Nothing is asked of the names in it, which may hold any characters.
-/

namespace Flowchart

open Json (Value Spells)

namespace Record

/-- The value that the text of a record spells. -/
def document (r : Record) : Value :=
  .object
    [(some "step", .number (some r.step)),
     (some "from", .text (some r.source)),
     (some "to", .text (some r.target)),
     (some "branch", r.branch.elim .null .bool),
     (some "timestamp", .text (some r.time.write))]

theorem spells_writeJson
    (r : Record) :
    Spells r.writeJson r.document := by
  have hbranch : Spells (r.branch.elim "null" Json.writeBool)
      (r.branch.elim .null .bool) := by
    cases r.branch with
    | none => exact Json.spells_null
    | some b => exact Json.spells_writeBool b
  exact Json.spells_writeObject
    (.cons ⟨rfl, Json.spells_toString r.step⟩
      (.cons ⟨rfl, Json.spells_writeString r.source⟩
        (.cons ⟨rfl, Json.spells_writeString r.target⟩
          (.cons ⟨rfl, hbranch⟩
            (.cons ⟨rfl, Json.spells_writeString r.time.write⟩ .nil)))))

/-- What can be written so that it is read back: a number of steps that fits a word, and a
year of four digits. -/
structure Writable (r : Record) : Prop where
  step_lt : r.step < 2 ^ 64
  year_nonneg : 0 ≤ r.time.date.year
  year_le : r.time.date.year ≤ 9999

theorem ofJson?_document
    {r : Record}
    (h : r.Writable) :
    ofJson? r.document = some r := by
  have hstep : r.step ≤ Text.maxWord := by
    have := h.step_lt
    simp only [Text.maxWord, UInt64.size]
    omega
  have hbranch : readBranch? (r.branch.elim .null .bool) = some r.branch := by
    cases r.branch <;> rfl
  have htime := Timestamp.read?_write r.time h.year_nonneg h.year_le
  have hvalues : ofValues? (.number (some r.step)) (.text (some r.source))
      (.text (some r.target)) (r.branch.elim .null .bool) (.text (some r.time.write)) =
      some r := by
    simp [ofValues?, Value.nat?, Value.string?, hstep, hbranch, htime]
  rw [← hvalues]
  rfl

end Record

namespace Log

/-- The value that the text of a log spells. -/
def document (log : Log) : Value :=
  .object [(some "records", .array (log.records.toList.map Record.document))]

theorem spells_writeJson
    (log : Log) :
    Spells log.writeJson log.document := by
  have hrecords : List.Forall₂ Spells (log.records.toList.map Record.writeJson)
      (log.records.toList.map Record.document) := by
    rw [List.forall₂_map_left_iff, List.forall₂_map_right_iff, List.forall₂_same]
    exact fun r _ => r.spells_writeJson
  exact Json.spells_writeObject (.cons ⟨rfl, Json.spells_writeArray hrecords⟩ .nil)

theorem mapM_ofJson?_document
    {records : List Record}
    (h : ∀ r ∈ records, r.Writable) :
    (records.map Record.document).mapM Record.ofJson? = some records := by
  induction records with
  | nil => rfl
  | cons r rest ih =>
      obtain ⟨hfirst, hrest⟩ := List.forall_mem_cons.1 h
      rw [List.map_cons, List.mapM_cons, Record.ofJson?_document hfirst, ih hrest]
      rfl

/-- A log is read back from its text, whatever the names in it. -/
theorem readJson?_writeJson
    {log : Log}
    (h : ∀ r ∈ log.records, r.Writable) :
    readJson? log.writeJson = some log := by
  have hrecords : ∀ r ∈ log.records.toList, r.Writable := by
    simpa using h
  have hdocument : ofJson? log.document = some log := by
    have hmap : ofRecords? (.array (log.records.toList.map Record.document)) =
        some log := by
      simp [ofRecords?, Value.list?, mapM_ofJson?_document hrecords]
    rw [← hmap]
    rfl
  rw [readJson?, Json.read?_of_spells log.spells_writeJson, Option.bind_some, hdocument]

/-- Names with characters that are written as escapes or lie beyond the first plane, the
greatest number of steps, and leap seconds at both ends of the years. -/
def difficult : Log :=
  ⟨#[
    { step := 2 ^ 64 - 1
      source := "\"quoted\" \\ and \n \x01 \x7f"
      target := "𝄞 \x00"
      branch := none
      time := ⟨⟨0, 2, 29, by decide, by decide, by decide, by decide⟩, 23, 59, 60,
        999999999, by decide, by decide, by decide, by decide⟩ },
    { step := 0
      source := ""
      target := "/ \t \u2028"
      branch := some false
      time := ⟨⟨9999, 11, 30, by decide, by decide, by decide, by decide⟩, 6, 30, 60,
        120000000, by decide, by decide, by decide, by decide⟩ }]⟩

theorem readJson?_difficult :
    difficult.size = 2 ∧
    (∀ r ∈ difficult.records, r.Writable) ∧
    readJson? difficult.writeJson = some difficult := by
  have hwritable : ∀ r ∈ difficult.records, r.Writable := by
    intro r hr
    simp only [difficult, List.mem_toArray, List.mem_cons, List.not_mem_nil,
      or_false] at hr
    rcases hr with rfl | rfl <;>
      exact ⟨by decide, by decide, by decide⟩
  exact ⟨rfl, hwritable, readJson?_writeJson hwritable⟩

end Log
end Flowchart
