import OfflineSync.Proofs.Calendar.Range
import OfflineSync.Proofs.Entity.Metadata

/-!
# Moments of change as watermarks

A moment of change is stored in whole microseconds, rounded down, and read back as a moment no later
and less than a microsecond earlier, `Instant.rounded`. A leap second (`Instant.IsLeap`) has no
microseconds of its own: what lies in it is stored as if it lay in the second that follows, which is
later in the order of moments. A watermark from a leap second therefore `PassesOver` rows that
changed after it.
-/

namespace OfflineSync

namespace Instant

variable {instant later : Instant}

/-- Whether a moment lies in a leap second. -/
def IsLeap (instant : Instant) : Prop :=
  1000000000 ≤ instant.nanoseconds

/-- The nanoseconds from one moment to another by a clock without leap seconds, which shows the
second that follows during one. -/
def nanosecondsTo (instant later : Instant) : Int :=
  (later.seconds - instant.seconds) * 1000000000 + (later.nanoseconds - instant.nanoseconds)

/-- Whether the watermark of a moment passes over a later moment: the former lies in a leap
second, and the latter does too, or lies in the second that follows and, within its second, in
an earlier microsecond. -/
def PassesOver (instant later : Instant) : Prop :=
  instant.IsLeap ∧ (later.seconds = instant.seconds ∨
    later.seconds = instant.seconds + 1 ∧
      later.nanoseconds / 1000 + 1000000 < instant.nanoseconds / 1000)

/-- Moments are ordered by their seconds, and within a second by their nanoseconds. -/
theorem le_iff : instant ≤ later ↔
    instant.seconds < later.seconds ∨
      instant.seconds = later.seconds ∧ instant.nanoseconds ≤ later.nanoseconds := by
  change le instant later = true ↔ _
  simp [le]

/-- The moment that the stored form of a moment stands for. -/
def rounded (instant : Instant) : Instant :=
  ⟨instant.toMicros / 1000000, (instant.toMicros % 1000000).toNat * 1000⟩

/-- A moment that can be stored is read back rounded. -/
theorem ofMicros?_toMicros (storable : instant.Storable) :
    ofMicros? instant.toMicros = some instant.rounded := by
  obtain ⟨watermark, read⟩ := Option.isSome_iff_exists.mp storable
  rw [read, ofMicros?_eq_some read]
  rfl

/-- A moment is rounded to one that is no later, unless it lies in a leap second. -/
theorem rounded_le_iff (bounded : instant.nanoseconds < 2000000000) :
    instant.rounded ≤ instant ↔ ¬ instant.IsLeap := by
  simp only [le_iff, rounded, toMicros, IsLeap]
  omega

/-- By a clock without leap seconds, rounding goes back by less than a microsecond. -/
theorem nanosecondsTo_rounded (instant : Instant) :
    0 ≤ instant.rounded.nanosecondsTo instant ∧ instant.rounded.nanosecondsTo instant < 1000 := by
  simp only [nanosecondsTo, rounded, toMicros]
  omega

/-- A later moment is no earlier than the rounded one, unless the watermark passes over it. -/
theorem rounded_le_of_le_iff (bounded : instant.nanoseconds < 2000000000)
    (follows : instant ≤ later) :
    instant.rounded ≤ later ↔ ¬ instant.PassesOver later := by
  rw [le_iff] at follows
  simp only [le_iff, rounded, toMicros, IsLeap, PassesOver] at *
  omega

/-- A later moment is stored as no earlier one, unless the watermark passes over it and it lies
in another second. -/
theorem toMicros_le_of_le_iff (bounded : instant.nanoseconds < 2000000000)
    (follows : instant ≤ later) :
    instant.toMicros ≤ later.toMicros ↔
      ¬ (instant.PassesOver later ∧ later.seconds ≠ instant.seconds) := by
  rw [le_iff] at follows
  simp only [toMicros, IsLeap, PassesOver] at *
  omega

end Instant

namespace EntityMetadata

variable {row : Document} {metadata : EntityMetadata} {moment : Instant}

/-- The moment of change of an entity can be stored, and has less than two billion
nanoseconds. -/
theorem storable_of_ofDocument (usable : ofDocument row = .ok metadata)
    (dated : metadata.updatedAt = some moment) :
    moment.Storable ∧ moment.nanoseconds < 2000000000 := by
  obtain ⟨-, -, -, updated, -, -⟩ := ofDocument_eq_ok.mp usable
  rw [dated] at updated
  obtain ⟨text, -, reads⟩ := updatedAtOf_eq_some.mp updated
  exact ⟨Timestamp.storable_of_read reads, Timestamp.nanoseconds_lt_of_read reads⟩

/-- The watermark of a row is defined, and by a clock without leap seconds (`nanosecondsTo`) it
is less than a microsecond earlier. In the order of moments it is no later than the row exactly if
the row did not change in a leap second. A row that changed no earlier is selected from the
watermark on exactly if the watermark does not pass over it (`PassesOver`), and its stored moment
is no earlier exactly if that is so or both rows changed in one leap second. -/
theorem watermark_selects_iff (usable : ofDocument row = .ok metadata)
    (dated : metadata.updatedAt = some moment) :
    ∃ watermark, Instant.ofMicros? moment.toMicros = some watermark ∧
      (0 ≤ watermark.nanosecondsTo moment ∧ watermark.nanosecondsTo moment < 1000) ∧
      (watermark ≤ moment ↔ ¬ moment.IsLeap) ∧
      ∀ laterRow laterMetadata later, ofDocument laterRow = .ok laterMetadata →
        laterMetadata.updatedAt = some later → moment ≤ later →
        (watermark ≤ later ↔ ¬ moment.PassesOver later) ∧
        (moment.toMicros ≤ later.toMicros ↔
          ¬ (moment.PassesOver later ∧ later.seconds ≠ moment.seconds)) := by
  obtain ⟨storable, bounded⟩ := storable_of_ofDocument usable dated
  refine ⟨moment.rounded, Instant.ofMicros?_toMicros storable, moment.nanosecondsTo_rounded,
    Instant.rounded_le_iff bounded, fun _ _ later _ _ follows => ?_⟩
  exact ⟨Instant.rounded_le_of_le_iff bounded follows,
    Instant.toMicros_le_of_le_iff bounded follows⟩

/-- A row that changed in the middle of a leap second. -/
def leapRow : Document :=
  .object [("id", .text "1"), ("updatedAt", .text "2024-06-30T23:59:60.5Z")]

/-- A row that changed less than half a second after the leap second. -/
def rowBehind : Document :=
  .object [("id", .text "2"), ("updatedAt", .text "2024-07-01T00:00:00.4Z")]

/-- The watermark of a row from a leap second is later than the row, and passes over one that
changed after the leap second. -/
theorem watermark_selects_iff_leap :
    ofDocument leapRow = .ok ⟨"1", some ⟨1719791999, 1500000000⟩, none, false⟩ ∧
      ofDocument rowBehind = .ok ⟨"2", some ⟨1719792000, 400000000⟩, none, false⟩ ∧
      (⟨1719791999, 1500000000⟩ : Instant) ≤ ⟨1719792000, 400000000⟩ ∧
      ∃ watermark, Instant.ofMicros? 1719792000500000 = some watermark ∧
        ¬ watermark ≤ ⟨1719791999, 1500000000⟩ ∧ ¬ watermark ≤ ⟨1719792000, 400000000⟩ ∧
        ¬ (1719792000500000 : Int) ≤ 1719792000400000 := by
  have usable : ofDocument leapRow = .ok ⟨"1", some ⟨1719791999, 1500000000⟩, none, false⟩ := by
    rfl
  have behind : ofDocument rowBehind = .ok ⟨"2", some ⟨1719792000, 400000000⟩, none, false⟩ := by
    rfl
  have follows : (⟨1719791999, 1500000000⟩ : Instant) ≤ ⟨1719792000, 400000000⟩ :=
    Instant.le_iff.mpr (by decide)
  have passed : Instant.PassesOver ⟨1719791999, 1500000000⟩ ⟨1719792000, 400000000⟩ :=
    ⟨(by decide : 1000000000 ≤ 1500000000), .inr (by decide)⟩
  obtain ⟨watermark, stored, -, own, others⟩ := watermark_selects_iff usable rfl
  obtain ⟨selected, ordered⟩ := others _ _ _ behind rfl follows
  exact ⟨usable, behind, follows, watermark, stored, fun early => own.mp early passed.1,
    fun early => selected.mp early passed, fun early => ordered.mp early ⟨passed, by decide⟩⟩

end EntityMetadata

end OfflineSync
