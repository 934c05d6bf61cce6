import Mathlib.Logic.Function.Iterate
import OfflineSync.Proofs.Store.PulledRows

/-!
# Rows that are applied again

A pull that was stopped begins again at its watermark, and so applies the last of the rows that it
had applied once more: `Replays` tells which. The watermark is where it would be, and each field of
a copy has the value that it would have, but for the number of times that the value was read and
printed (`FieldState.Aged`): a row that does not set a field reads and prints it.
-/

namespace OfflineSync

/-- Whether a value is what another becomes by being printed and read some times. -/
def Reread (value later : Option Document) : Prop :=
  ∃ times : Nat, later = value.map Document.reprinted^[times]

namespace Reread

variable {value middle later : Option Document}

theorem refl (value : Option Document) : Reread value value :=
  ⟨0, by simp⟩

/-- To be read once more is to be read some times. -/
theorem once (value : Option Document) : Reread value (value.map Document.reprinted) :=
  ⟨1, rfl⟩

theorem trans (first : Reread value middle) (second : Reread middle later) :
    Reread value later := by
  obtain ⟨times, rfl⟩ := first
  obtain ⟨more, rfl⟩ := second
  refine ⟨more + times, ?_⟩
  rw [Option.map_map, ← Function.iterate_add]

/-- What is read some more times is so after both are read once. -/
theorem map_reprinted (reread : Reread value later) :
    Reread (value.map Document.reprinted) (later.map Document.reprinted) := by
  obtain ⟨times, rfl⟩ := reread
  refine ⟨times, ?_⟩
  rw [Option.map_map, Option.map_map, (Function.Commute.iterate_self Document.reprinted times).comp_eq]

/-- What is set over both hides that one is read more times. -/
theorem or_left (reread : Reread value later) (set : Option Document) :
    Reread (set.or value) (set.or later) := by
  cases set with
  | none => exact reread
  | some document => exact refl _

/-- A value that is read more times is there exactly if it was. -/
theorem isSome (reread : Reread value later) : later.isSome = value.isSome := by
  obtain ⟨times, rfl⟩ := reread
  exact Option.isSome_map

/-- A value that the reader gives back stays itself. -/
theorem eq_of_givesBack (reread : Reread value later)
    (back : ∀ document, value = some document → document.reprinted = document) : later = value := by
  obtain ⟨times, rfl⟩ := reread
  cases value with
  | none => rfl
  | some document =>
    have fixed : Document.reprinted^[times] document = document :=
      Function.iterate_fixed (back document rfl) times
    rw [Option.map_some, fixed]

end Reread

/-- Whether a field is as another, but for what was written being read some more times
(`Reread`). -/
inductive FieldState.Aged : FieldState → FieldState → Prop where
  | untouched (reading : Option Document) : Aged (.untouched reading) (.untouched reading)
  | written {value later : Option Document} (reread : Reread value later) :
      Aged (.written value) (.written later)

namespace RemoteRow

/-- Whether a row decides a field of an entity: it removes the entity, or has the field. -/
def Sets (id name : String) (row : RemoteRow) : Prop :=
  row.metadata.id = id ∧ (row.metadata.deleted ∨ (row.document.field? name).isSome)

variable {id name : String} {row : RemoteRow} {rows : List RemoteRow} {state other : FieldState}

/-- A row that decides a field (`Sets`) leaves nothing of what the field was. -/
theorem touch_of_sets (sets : row.Sets id name) : row.touch id name state = row.touch id name other := by
  obtain ⟨own, decided⟩ := sets
  unfold touch
  rw [if_pos own, if_pos own]
  by_cases deleted : row.metadata.deleted
  · rw [if_pos deleted, if_pos deleted]
  · obtain ⟨value, found⟩ := Option.isSome_iff_exists.mp (decided.resolve_left deleted)
    rw [if_neg deleted, if_neg deleted, found, Option.some_or, Option.some_or]

/-- Rows of which one decides a field leave nothing of what the field was. -/
theorem touched_of_sets (sets : ∃ row ∈ rows, row.Sets id name) :
    touched id name rows state = touched id name rows other := by
  induction rows generalizing state other with
  | nil => simp at sets
  | cons row rest inductionHypothesis =>
    by_cases first : row.Sets id name
    · exact congrArg (touched id name rest) (touch_of_sets first)
    · obtain ⟨later, member, decides⟩ := sets
      rcases List.mem_cons.mp member with rfl | member
      · exact absurd decides first
      · exact inductionHypothesis ⟨later, member, decides⟩

/-- Rows that do not decide a field only read and print it. -/
theorem reread_touched (keep : ∀ row ∈ rows, ¬ row.Sets id name) :
    Reread state.reading (touched id name rows state).reading := by
  induction rows generalizing state with
  | nil => exact .refl _
  | cons row rest inductionHypothesis =>
    have one : Reread state.reading (row.touch id name state).reading := by
      unfold touch
      by_cases own : row.metadata.id = id
      · have decides := not_and.mp (keep row (List.mem_cons_self ..)) own
        rw [not_or, Option.not_isSome_iff_eq_none] at decides
        obtain ⟨live, absent⟩ := decides
        rw [if_pos own, if_neg live, absent, Option.none_or]
        exact .once _
      · rw [if_neg own]
        exact .refl _
    exact one.trans (inductionHypothesis fun later member => keep later (List.mem_cons_of_mem _ member))

/-- Rows of other entities leave a field as it is. -/
theorem touched_of_foreign (foreign : ∀ row ∈ rows, row.metadata.id ≠ id) :
    touched id name rows state = state := by
  induction rows generalizing state with
  | nil => rfl
  | cons row rest inductionHypothesis =>
    have first : row.touch id name state = state := if_neg (foreign row (List.mem_cons_self ..))
    have others : touched id name rest state = state :=
      inductionHypothesis fun later member => foreign later (List.mem_cons_of_mem _ member)
    exact (congrArg (touched id name rest) first).trans others

end RemoteRow

namespace FieldState.Aged

variable {id name : String} {row : RemoteRow} {rows replayed : List RemoteRow}
  {state middle later : FieldState}

theorem refl (state : FieldState) : Aged state state := by
  cases state with
  | untouched reading => exact .untouched reading
  | written value => exact .written (.refl value)

theorem trans (first : Aged state middle) (second : Aged middle later) : Aged state later := by
  cases first with
  | untouched reading => exact second
  | written reread =>
    cases second with
    | written more => exact .written (reread.trans more)

/-- What is read of an aged field is read some more times. -/
theorem reading (aged : Aged state later) : Reread state.reading later.reading := by
  cases aged with
  | untouched reading => exact .refl reading
  | written reread => exact reread.map_reprinted

/-- A row of the entity writes what it reads, the later for being read some more times. -/
theorem of_reading (own : row.metadata.id = id) (reread : Reread state.reading later.reading) :
    Aged (row.touch id name state) (row.touch id name later) := by
  unfold RemoteRow.touch
  rw [if_pos own, if_pos own]
  by_cases deleted : row.metadata.deleted
  · rw [if_pos deleted, if_pos deleted]
    exact refl _
  · rw [if_neg deleted, if_neg deleted]
    exact .written (reread.or_left _)

/-- A row leaves an aged field aged. -/
theorem touch (aged : Aged state later) (row : RemoteRow) :
    Aged (row.touch id name state) (row.touch id name later) := by
  by_cases own : row.metadata.id = id
  · exact of_reading own aged.reading
  · unfold RemoteRow.touch
    rw [if_neg own, if_neg own]
    exact aged

/-- Rows leave an aged field aged. -/
theorem touched (aged : Aged state later) (rows : List RemoteRow) :
    Aged (RemoteRow.touched id name rows state) (RemoteRow.touched id name rows later) := by
  induction rows generalizing state later with
  | nil => exact aged
  | cons row rest inductionHypothesis => exact inductionHypothesis (aged.touch row)

/-- Rows of which one is of the entity write what they read. -/
theorem touched_of_reading (own : ∃ row ∈ rows, row.metadata.id = id)
    (reread : Reread state.reading later.reading) :
    Aged (RemoteRow.touched id name rows state) (RemoteRow.touched id name rows later) := by
  induction rows with
  | nil => simp at own
  | cons row rest inductionHypothesis =>
    by_cases first : row.metadata.id = id
    · exact (of_reading first reread).touched rest
    · have skipped (state : FieldState) : row.touch id name state = state := if_neg first
      obtain ⟨next, member, same⟩ := own
      rcases List.mem_cons.mp member with rfl | member
      · exact absurd same first
      · have rested := inductionHypothesis ⟨next, member, same⟩
        rw [← skipped state, ← skipped later] at rested
        exact rested

/-- To have applied any of some rows before them ages a field at most. -/
theorem again (within : ∀ row ∈ replayed, row ∈ rows) :
    Aged (RemoteRow.touched id name rows state)
      (RemoteRow.touched id name (replayed ++ rows) state) := by
  rw [RemoteRow.touched_append]
  by_cases sets : ∃ row ∈ rows, row.Sets id name
  · rw [RemoteRow.touched_of_sets sets]
    exact refl _
  · by_cases own : ∃ row ∈ rows, row.metadata.id = id
    · refine touched_of_reading own (RemoteRow.reread_touched fun row member decides => ?_)
      exact sets ⟨row, within row member, decides⟩
    · have foreign : ∀ row ∈ replayed, row.metadata.id ≠ id := fun row member same =>
        own ⟨row, within row member, same⟩
      rw [RemoteRow.touched_of_foreign foreign]
      exact refl _

end FieldState.Aged

/-! ### Values that the reader gives back -/

namespace FieldState

/-- Whether the reader gives back what stands in a field. -/
def GivesBack : FieldState → Prop
  | .untouched value | .written value => ∀ document, value = some document → document.reprinted = document

variable {id name : String} {rows : List RemoteRow} {state later : FieldState}

/-- What is read of a field that the reader gives back is given back. -/
theorem GivesBack.reading (back : state.GivesBack) :
    ∀ document, state.reading = some document → document.reprinted = document := by
  cases state with
  | untouched value => exact back
  | written value =>
    intro document read
    obtain ⟨older, held, rfl⟩ := Option.map_eq_some_iff.mp read
    rw [back older held, back older held]

/-- A row that the reader gives back leaves the fields of a copy so. -/
theorem GivesBack.touch {row : RemoteRow} (back : state.GivesBack)
    (given : row.document.reprinted = row.document) : (row.touch id name state).GivesBack := by
  unfold RemoteRow.touch
  split
  · split
    · exact nofun
    · intro document held
      cases set : row.document.field? name with
      | none =>
        rw [set, Option.none_or] at held
        exact back.reading document held
      | some value =>
        rw [set, Option.some_or] at held
        cases held
        exact Document.reprinted_field given set
  · exact back

/-- Rows that the reader gives back leave the fields of a copy so (`GivesBack`). -/
theorem GivesBack.touched (back : state.GivesBack)
    (given : ∀ row ∈ rows, row.document.reprinted = row.document) :
    (RemoteRow.touched id name rows state).GivesBack := by
  induction rows generalizing state with
  | nil => exact back
  | cons row rest inductionHypothesis =>
    exact inductionHypothesis (back.touch (given row (List.mem_cons_self ..)))
      fun later member => given later (List.mem_cons_of_mem _ member)

/-- A field that the reader gives back (`GivesBack`) does not age. -/
theorem Aged.eq (aged : Aged state later) (back : state.GivesBack) : later = state := by
  cases aged with
  | untouched reading => rfl
  | written reread => rw [reread.eq_of_givesBack back]

end FieldState

namespace RemoteRow

/-- Whether a row is among those that a remote gives for a watermark. -/
def isSince (token : Option Int) (row : RemoteRow) : Bool :=
  token.all fun present => present ≤ row.micros

/-- The rows that a remote gives for a watermark: those that changed at it or later, and
all of them where there is none. -/
def since (token : Option Int) (rows : List RemoteRow) : List RemoteRow :=
  rows.filter (isSince token)

/-- Whether rows stand in the order of their last changes. -/
def InOrder (rows : List RemoteRow) : Prop :=
  rows.Pairwise fun earlier later => earlier.micros ≤ later.micros

variable {row other : RemoteRow} {rows more : List RemoteRow} {token raised : Option Int}

/-- After a watermark was raised by a row, rows that changed before that row are not given. -/
theorem isSince_raise :
    other.isSince (row.raise token) ↔ other.isSince token ∧ row.micros ≤ other.micros := by
  cases token with
  | none => simp [isSince, raise]
  | some present =>
    simp only [isSince, raise, Option.map_some, Option.getD_some, Option.all_some,
      decide_eq_true_eq]
    omega

/-- After rows were applied, up to the watermark `tokenAfter`, none is given that changed before
one of them. -/
theorem isSince_tokenAfter :
    other.isSince (tokenAfter rows token) ↔
      other.isSince token ∧ ∀ row ∈ rows, row.micros ≤ other.micros := by
  induction rows generalizing token with
  | nil => simp [tokenAfter]
  | cons row rest inductionHypothesis =>
    have raised : other.isSince (tokenAfter rest (row.raise token)) ↔ _ := inductionHypothesis
    change other.isSince (tokenAfter rest (row.raise token)) ↔ _
    rw [raised, isSince_raise, List.forall_mem_cons, and_assoc]

/-- Whether a watermark is at a moment or later. -/
def Covers (token : Option Int) (micros : Int) : Prop :=
  ∃ present, token = some present ∧ micros ≤ present

/-- A watermark that is raised by a row covers that row. -/
theorem covers_raise : Covers (row.raise token) row.micros := by
  cases token with
  | none => exact ⟨row.micros, rfl, Int.le_refl _⟩
  | some present => exact ⟨max present row.micros, rfl, Int.le_max_right _ _⟩

/-- A raised watermark covers what it covered. -/
theorem Covers.tokenAfter {micros : Int} (covers : Covers token micros) :
    Covers (tokenAfter rows token) micros := by
  induction rows generalizing token with
  | nil => exact covers
  | cons row rest inductionHypothesis =>
    obtain ⟨present, rfl, bound⟩ := covers
    exact inductionHypothesis
      ⟨max present row.micros, rfl, Int.le_trans bound (Int.le_max_left _ _)⟩

/-- A watermark `Covers` the rows that were applied. -/
theorem covers_tokenAfter (applied : row ∈ rows) : Covers (tokenAfter rows token) row.micros := by
  induction rows generalizing token with
  | nil => cases applied
  | cons first rest inductionHypothesis =>
    rcases List.mem_cons.mp applied with rfl | later
    · exact covers_raise.tokenAfter
    · exact inductionHypothesis later

/-- Rows that a watermark covers do not raise it. -/
theorem tokenAfter_of_covers (covers : ∀ row ∈ rows, Covers token row.micros) :
    tokenAfter rows token = token := by
  induction rows with
  | nil => rfl
  | cons row rest inductionHypothesis =>
    obtain ⟨present, rfl, bound⟩ := covers row (List.mem_cons_self ..)
    have same : row.raise (some present) = some present := congrArg some (max_eq_left bound)
    change tokenAfter rest (row.raise (some present)) = some present
    rw [same]
    exact inductionHypothesis fun later member => covers later (List.mem_cons_of_mem _ member)

/-- The rows since a watermark are the last of rows that stand in order. -/
theorem InOrder.since_isSuffix (inOrder : InOrder rows) (token : Option Int) :
    since token rows <:+ rows := by
  induction rows with
  | nil => exact List.suffix_refl _
  | cons row rest inductionHypothesis =>
    obtain ⟨first, later⟩ := List.pairwise_cons.mp inOrder
    by_cases given : row.isSince token
    · have all : ∀ other ∈ row :: rest, other.isSince token := by
        refine List.forall_mem_cons.mpr ⟨given, fun other member => ?_⟩
        cases token with
        | none => rfl
        | some present =>
          have bound := first other member
          simp only [isSince, Option.all_some, decide_eq_true_eq] at given ⊢
          omega
      have whole : since token (row :: rest) = row :: rest := List.filter_eq_self.mpr all
      rw [whole]
    · rw [since, List.filter_cons_of_neg given]
      exact (inductionHypothesis later).trans (List.suffix_cons row rest)

/-- The rows `since` a raised watermark are among those since the watermark before. -/
theorem since_since (raises : ∀ row : RemoteRow, row.isSince raised → row.isSince token) :
    since raised (since token rows) = since raised rows := by
  unfold since
  rw [List.filter_filter]
  refine List.filter_congr fun row _ => ?_
  cases given : row.isSince raised with
  | false => rfl
  | true => simp [raises row given]

end RemoteRow

/-- Whether some runs have applied rows in turn, where one run would have got as far as a
first part of the rows that it is given. To apply the last of these once more, from the
watermark on, leaves each field as that run would, but for being read some more times. -/
structure Replays (rows : List RemoteRow) (token : Option Int) (reached applied : List RemoteRow) :
    Prop where
  isPrefix : reached <+: RemoteRow.since token rows
  tokens : RemoteRow.tokenAfter applied token = RemoteRow.tokenAfter reached token
  aged : ∀ id name state, FieldState.Aged (RemoteRow.touched id name reached state)
    (RemoteRow.touched id name
      (applied ++ RemoteRow.since (RemoteRow.tokenAfter reached token) reached) state)

namespace Replays

open RemoteRow

variable {rows reached applied rest further : List RemoteRow} {token : Option Int}

/-- No run has applied anything at first. -/
theorem start (rows : List RemoteRow) (token : Option Int) : Replays rows token [] [] where
  isPrefix := List.nil_prefix
  tokens := rfl
  aged := fun _ _ state => .refl state

/-- Of rows in order, those given once the first were applied are the last of these, and
all others. -/
theorem since_append (inOrder : InOrder (reached ++ rest))
    (given : ∀ row ∈ rest, row.isSince token) :
    since (tokenAfter reached token) (reached ++ rest) =
      since (tokenAfter reached token) reached ++ rest := by
  have later : since (tokenAfter reached token) rest = rest := by
    refine List.filter_eq_self.mpr fun row member => isSince_tokenAfter.mpr ⟨given row member, ?_⟩
    exact fun earlier done => (List.pairwise_append.mp inOrder).2.2 earlier done row member
  unfold since at later ⊢
  rw [List.filter_append, later]

/-- The rows that are given to a run that resumes. -/
theorem since_tokenAfter (inOrder : InOrder rows) (given : since token rows = reached ++ rest) :
    since (tokenAfter reached token) rows =
      since (tokenAfter reached token) reached ++ rest := by
  have ordered : InOrder (reached ++ rest) := given ▸ List.Pairwise.filter _ inOrder
  have among : ∀ row ∈ rest, row.isSince token := fun row member =>
    (List.mem_filter.mp (given ▸ List.mem_append_right _ member : row ∈ since token rows)).2
  rw [← since_since fun row later => (isSince_tokenAfter.mp later).1, given]
  exact since_append ordered among

/-- A run that does not get beyond the watermark has only applied rows again. -/
theorem again (replays : Replays rows token reached applied)
    (within : further <+: since (tokenAfter reached token) reached) :
    Replays rows token reached (applied ++ further) where
  isPrefix := replays.isPrefix
  tokens := by
    rw [tokenAfter_append, replays.tokens]
    refine tokenAfter_of_covers fun row member => covers_tokenAfter ?_
    exact List.mem_of_mem_filter (within.subset member)
  aged := by
    intro id name state
    have older := replays.aged id name state
    rw [touched_append] at older
    rw [List.append_assoc, touched_append]
    exact older.trans (.again fun row member => within.subset member)

/-- Rows behind those at the watermark raise the watermark as they would in one run. -/
theorem tokens_ahead (replays : Replays rows token reached applied) (further : List RemoteRow) :
    tokenAfter (applied ++ (since (tokenAfter reached token) reached ++ further)) token =
      tokenAfter (reached ++ further) token := by
  have same : tokenAfter (since (tokenAfter reached token) reached) (tokenAfter reached token) =
      tokenAfter reached token :=
    tokenAfter_of_covers fun row member => covers_tokenAfter (List.mem_of_mem_filter member)
  simp [replays.tokens, same]

/-- Rows behind those at the watermark leave fields as they would in one run, but aged. -/
theorem aged_ahead (replays : Replays rows token reached applied) (further : List RemoteRow)
    (id name : String) (state : FieldState) :
    FieldState.Aged (touched id name (reached ++ further) state)
      (touched id name (applied ++ (since (tokenAfter reached token) reached ++ further)) state) := by
  rw [touched_append, ← List.append_assoc, touched_append]
  exact (replays.aged id name state).touched further

/-- A run that gets beyond the watermark has applied the rows at the watermark again, and some for
the first time: it `Replays` a longer first part. -/
theorem beyond (replays : Replays rows token reached applied) (inOrder : InOrder rows)
    (given : since token rows = (reached ++ further) ++ rest) :
    Replays rows token (reached ++ further)
      (applied ++ (since (tokenAfter reached token) reached ++ further)) where
  isPrefix := ⟨rest, given.symm⟩
  tokens := replays.tokens_ahead further
  aged := by
    intro id name state
    have whole : InOrder ((reached ++ further) ++ rest) := given ▸ List.Pairwise.filter _ inOrder
    have ordered : InOrder (reached ++ further) := whole.sublist (List.sublist_append_left _ _)
    have among : ∀ row ∈ further, row.isSince token := fun row member =>
      (List.mem_filter.mp (given ▸ List.mem_append_left _ (List.mem_append_right _ member) :
        row ∈ since token rows)).2
    -- The rows to be applied again next are the last of those that this run has applied.
    have last : since (tokenAfter (reached ++ further) token) (reached ++ further) <:+
        since (tokenAfter reached token) reached ++ further := by
      have raises : ∀ row : RemoteRow, row.isSince (tokenAfter (reached ++ further) token) →
          row.isSince (tokenAfter reached token) := by
        intro row later
        rw [tokenAfter_append] at later
        exact (isSince_tokenAfter.mp later).1
      have selected : InOrder (since (tokenAfter reached token) reached ++ further) :=
        ordered.sublist (List.filter_sublist.append_right _)
      rw [← since_since raises, since_append ordered among]
      exact selected.since_isSuffix _
    obtain ⟨first, split⟩ := last
    refine (replays.aged_ahead further id name state).trans ?_
    rw [← split, ← List.append_assoc applied, List.append_assoc (applied ++ first)]
    generalize applied ++ first = earlier
    rw [touched_append, touched_append]
    exact .again fun _ member => member

/-- A run that resumes, and is stopped anywhere, leaves what one run leaves that is
stopped somewhere. -/
theorem resume (replays : Replays rows token reached applied) (inOrder : InOrder rows)
    (within : further <+: since (tokenAfter applied token) rows) :
    ∃ next, Replays rows token next (applied ++ further) := by
  obtain ⟨rest, given⟩ := replays.isPrefix
  rw [replays.tokens, since_tokenAfter inOrder given.symm] at within
  obtain ⟨left, split⟩ := within
  rcases List.append_eq_append_iff.mp split with ⟨more, whole, -⟩ | ⟨more, rfl, whole⟩
  · exact ⟨reached, replays.again ⟨more, whole.symm⟩⟩
  · have further : since token rows = (reached ++ more) ++ left := by
      rw [← given, whole, List.append_assoc]
    exact ⟨reached ++ more, replays.beyond inOrder further⟩

/-- A run that resumes and gets to the last row leaves what one run leaves that does. -/
theorem complete (replays : Replays rows token reached applied) (inOrder : InOrder rows) :
    tokenAfter (applied ++ since (tokenAfter applied token) rows) token =
        tokenAfter (since token rows) token ∧
      ∀ id name state, FieldState.Aged (touched id name (since token rows) state)
        (touched id name (applied ++ since (tokenAfter applied token) rows) state) := by
  obtain ⟨rest, given⟩ := replays.isPrefix
  rw [replays.tokens, since_tokenAfter inOrder given.symm, ← given]
  exact ⟨replays.tokens_ahead rest, replays.aged_ahead rest⟩

end Replays

end OfflineSync
