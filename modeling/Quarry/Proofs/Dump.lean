import Quarry.Proofs.Encoding
import Quarry.Proofs.Loading
import Quarry.Proofs.RecordText

/-! Records written out line by line and loaded again. The text of a record holds no end of a line, so
each line is one record, and no two records of a store share an id, so none replaces another. Main
statement: loading the records of a session into an empty one restores them in their order. -/

namespace Quarry

/-! Written records. -/

namespace Record

def line (record : Record) : List UInt8 :=
  Text.encode record.compact

theorem notMem_line {byte : UInt8} (control : byte.toNat < 0x20) (record : Record) :
    byte ∉ record.line := by
  apply Text.notMem_encode (by omega)
  intro c mem eq
  exact notMem_compact (by omega) mem

theorem line_ne_nil (record : Record) : record.line ≠ [] := by
  rw [line, compact_eq, laidOut]
  exact List.cons_ne_nil _ _

theorem decode?_line (record : Record) :
    Text.decode? record.line = some (String.ofList record.compact) :=
  Text.decode?_encode record.compact

theorem cut_line_cons {bytes : List UInt8} {lines : List (List UInt8)} (record : Record)
    (h : Text.Cut bytes lines) :
    Text.Cut (record.line ++ Text.lineFeed :: bytes) (record.line :: lines) := by
  have kept : Text.dropReturn record.line = record.line := by
    apply if_neg
    intro last
    exact record.notMem_line (by decide) (List.mem_of_getLast? last)
  have ended := Text.Cut.ended (record.notMem_line (by decide)) h
  rwa [kept] at ended

theorem trim_compact (record : Record) : Text.trim record.compact = record.compact :=
  Text.trim_of_not_blank (by decide) (by decide) _

end Record

namespace Batch

/-- The stream of the records, each in its compact form on a line that is ended. -/
def written (records : List Record) : List UInt8 :=
  records.flatMap fun record => record.line ++ [Text.lineFeed]

theorem cut_written (records : List Record) :
    Text.Cut (written records) (records.map (·.line)) := by
  induction records with
  | nil => exact Text.Cut.nil
  | cons record records ih =>
    rw [written, List.flatMap_cons, List.append_assoc, List.singleton_append]
    exact record.cut_line_cons ih

/-- The last line need not be ended. -/
theorem cut_intercalate (records : List Record) :
    Text.Cut ([Text.lineFeed].intercalate (records.map (·.line))) (records.map (·.line)) := by
  induction records with
  | nil => exact Text.Cut.nil
  | cons record records ih =>
    cases records with
    | nil =>
      rw [List.map_singleton, List.intercalate_singleton]
      exact Text.Cut.last record.line_ne_nil (record.notMem_line (by decide))
    | cons next records =>
      rw [List.map_cons, List.map_cons, List.intercalate_cons_cons, List.append_assoc,
        List.singleton_append]
      exact record.cut_line_cons ih

theorem ofLines_lines (number : Nat) (records : List Record) :
    ofLines number (records.map (·.line)) = ⟨records, none⟩ := by
  induction records generalizing number with
  | nil => rfl
  | cons record records ih =>
    have filled : (Text.trim (String.ofList record.compact).toList).isEmpty = false := by
      rw [String.toList_ofList, record.trim_compact]
      rfl
    rw [List.map_cons, ofLines,
      readLine_of_record number record.decode?_line filled record.ofJson_compact]
    simp only [ih]

end Batch

/-! Records that a session holds. -/

namespace Session

theorem load_of_cut {bytes : List UInt8} {records : List Record} (session : Session)
    (h : Text.Cut bytes (records.map (·.line))) :
    (session.load bytes).1 = .ok records.length ∧
      (session.load bytes).2.1.store = session.store.insertAll records := by
  have batch : Batch.ofBytes bytes = ⟨records, none⟩ := by
    rw [Batch.ofBytes, Text.cut_iff.1 h, Batch.ofLines_lines]
  rw [load, batch]
  exact ⟨rfl, rfl⟩

/-- Loading the stream into an empty session yields the records, all of them and in their order. -/
def Restores (bytes : List UInt8) (records : List Record) : Prop :=
  ∀ pretty, ((Session.empty pretty).load bytes).1 = .ok records.length ∧
    ((Session.empty pretty).load bytes).2.1.scan.1 = records

theorem restores_of_cut {bytes : List UInt8} {records : List Record}
    (unique : (records.map (·.id)).Nodup) (h : Text.Cut bytes (records.map (·.line))) :
    Restores bytes records := by
  intro pretty
  obtain ⟨count, store⟩ := (Session.empty pretty).load_of_cut h
  refine ⟨count, ?_⟩
  calc ((Session.empty pretty).load bytes).2.1.scan.1
    _ = (Store.empty.insertAll records).records := congrArg Store.records store
    _ = Store.lastWrites records := Store.records_insertAll_empty records
    _ = records := Store.lastWrites_of_nodup unique

/-- A session is restored from the compact texts of its records, one a line, since every text stands
for its record and for nothing else, and is a single line. -/
theorem load_restores_scan (pretty : Bool) (requests : List Request) :
    let records := ((Session.empty pretty).after requests).scan.1
    Restores (Batch.written records) records ∧
      Restores ([Text.lineFeed].intercalate (records.map (·.line))) records ∧
      ∀ record : Record, Record.ofJson (String.ofList record.compact) = .ok record ∧
        Record.ofJson (String.ofList (record.pretty 0)) = .ok record ∧
        '\n' ∉ record.compact ∧ '\r' ∉ record.compact := by
  intro records
  have unique : (records.map (·.id)).Nodup := unique_after Store.unique_empty requests
  refine ⟨?_, ?_, ?_⟩
  · exact restores_of_cut unique (Batch.cut_written records)
  · exact restores_of_cut unique (Batch.cut_intercalate records)
  · intro record
    exact ⟨record.ofJson_compact, record.ofJson_pretty 0, Record.notMem_compact (by decide),
      Record.notMem_compact (by decide)⟩

end Session

end Quarry
