import OfflineSync.Proofs.Calendar.WrittenTimestamps
import OfflineSync.Proofs.Entity.Metadata
import OfflineSync.Remote.Query

/-!
# The clause that selects changed rows

The clause of `QueryDescription.updatedSince` names a watermark as a timestamp. A row that carries
this timestamp as its moment of change is stored with exactly that watermark, wherever timestamps
can be read at all: in the years 0 to 9999.
-/

namespace OfflineSync

/-- The moment of a watermark is one of whole microseconds, outside of leap seconds. -/
theorem Instant.nanoseconds_of_ofMicros? {micros : Int} {watermark : Instant}
    (stored : ofMicros? micros = some watermark) :
    watermark.nanoseconds < 1000000000 ∧ watermark.nanoseconds % 1000 = 0 := by
  rw [ofMicros?_eq_some stored]
  dsimp only
  omega

/-- The timestamp in the clause for a watermark is read back by `Timestamp.read` exactly if the
watermark falls on a date in the years 0 to 9999. It is then read as the watermark, so that a row
which carries it has the stored moment from which the clause was made. -/
theorem updatedSince_reads_back {micros : Int} {watermark : Instant} {text : String}
    (stored : Instant.ofMicros? micros = some watermark)
    (written : updatedSince watermark = EntityMetadata.updatedAtField ++ " ge " ++ text) :
    ((∃ moment, Timestamp.read text = .ok moment) ↔
        0 ≤ watermark.date.year ∧ watermark.date.year ≤ 9999) ∧
      (0 ≤ watermark.date.year ∧ watermark.date.year ≤ 9999 →
        Timestamp.read text = .ok watermark ∧
        ∀ row : Document, row.field? EntityMetadata.updatedAtField = some (.text text) →
          EntityMetadata.updatedAtOf row = .ok (some watermark) ∧
          ∀ metadata, EntityMetadata.ofDocument row = .ok metadata →
            metadata.updatedMicros = some micros) := by
  have same : text = Timestamp.renderMicros watermark :=
    (String.append_right_inj _).mp (written.symm.trans rfl)
  obtain ⟨plain, whole⟩ := Instant.nanoseconds_of_ofMicros? stored
  have read : Timestamp.read text = Timestamp.readChars (Timestamp.microChars watermark) := by
    rw [same, Timestamp.read, Timestamp.renderMicros, String.toList_ofList]
  have exactly (year : 0 ≤ watermark.date.year ∧ watermark.date.year ≤ 9999) :
      Timestamp.read text = .ok watermark :=
    read.trans (Timestamp.readChars_microChars year plain whole)
  refine ⟨⟨fun ⟨moment, reads⟩ => ?_, fun year => ⟨watermark, exactly year⟩⟩, fun year => ?_⟩
  · by_contra signed
    exact Timestamp.readChars_microChars_ne_ok signed (read.symm.trans reads)
  · refine ⟨exactly year, fun row carries => ?_⟩
    have updated := EntityMetadata.updatedAtOf_eq_some.mpr ⟨text, carries, exactly year⟩
    refine ⟨updated, fun metadata usable => ?_⟩
    obtain ⟨-, -, -, dated, -, -⟩ := EntityMetadata.ofDocument_eq_ok.mp usable
    rw [EntityMetadata.updatedMicros, Except.ok.inj (dated.symm.trans updated), Option.map_some,
      Instant.toMicros_of_ofMicros? stored]

/-- The timestamp of the start of the year zero is read back, and that of the microsecond before
it is not. -/
theorem updatedSince_reads_back_zero :
    Instant.ofMicros? (-62167219200000000) = some ⟨-62167219200, 0⟩ ∧
      Timestamp.read "0000-01-01T00:00:00.000000Z" = .ok ⟨-62167219200, 0⟩ ∧
      Instant.ofMicros? (-62167219200000001) = some ⟨-62167219201, 999999000⟩ ∧
      ¬ ∃ moment, Timestamp.read "-0001-12-31T23:59:59.999999Z" = .ok moment := by
  have start : Instant.ofMicros? (-62167219200000000) = some ⟨-62167219200, 0⟩ := by decide
  have before : Instant.ofMicros? (-62167219200000001) = some ⟨-62167219201, 999999000⟩ := by
    decide
  have startYear : Instant.date ⟨-62167219200, 0⟩ = ⟨0, 1, 1⟩ :=
    Instant.date_eq_iff.mpr (by decide)
  have beforeYear : Instant.date ⟨-62167219201, 999999000⟩ = ⟨-1, 12, 31⟩ :=
    Instant.date_eq_iff.mpr (by decide)
  have startClause : updatedSince ⟨-62167219200, 0⟩ =
      EntityMetadata.updatedAtField ++ " ge " ++ "0000-01-01T00:00:00.000000Z" := rfl
  have beforeClause : updatedSince ⟨-62167219201, 999999000⟩ =
      EntityMetadata.updatedAtField ++ " ge " ++ "-0001-12-31T23:59:59.999999Z" := rfl
  obtain ⟨-, read⟩ := updatedSince_reads_back start startClause
  obtain ⟨readable, -⟩ := updatedSince_reads_back before beforeClause
  refine ⟨start, (read ?_).1, before, fun reads => ?_⟩
  · rw [startYear]
    decide
  · have year := readable.mp reads
    rw [beforeYear] at year
    exact absurd year (by decide)

end OfflineSync
