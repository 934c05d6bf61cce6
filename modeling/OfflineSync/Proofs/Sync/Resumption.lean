import OfflineSync.Proofs.Calendar.Range
import OfflineSync.Proofs.Store.Replays
import OfflineSync.Sync.Pull

/-!
# Pulls that are stopped and resumed

A remote gives the rows that changed since the watermark of a query, oldest change first, in pages
(`Run.Offers`). Pulls of the query may be stopped anywhere, after each of which the next one resumes
at the watermark (`Interrupted`); one that reaches the last page leaves the watermark where a single
pull leaves it. It leaves the same local copies too, but for values that the rows applied again had
to read and print more often, `CopyAged`.
-/

namespace OfflineSync

/-- The watermark of a query, as it is read, is the one that is stored. -/
theorem Store.watermarkAt_eq_ok {store : Store} {tokenKey : String} {watermark : Option Instant}
    (read : store.watermarkAt tokenKey = .ok watermark) :
    watermark.map Instant.toMicros = store.watermark? tokenKey := by
  unfold watermarkAt at read
  cases held : store.watermark? tokenKey with
  | none =>
    rw [held] at read
    cases read
    rfl
  | some micros =>
    simp only [held, map_eq_ok] at read
    obtain ⟨instant, read, rfl⟩ := read
    unfold readWatermark at read
    split at read
    · rename_i stands
      cases read
      rw [Option.map_some, Instant.toMicros_of_ofMicros? stands]
    · cases read

section Pages

variable {σ : Type}

/-- Whether a remote gives rows in answer to a request, and to those that follow the links
of its pages, as far as a number of requests goes. An answer is a page of the first rows
that are still owed, with a link to the others, or it is none; and nobody edits meanwhile. -/
def Delivers (remote : Remote σ) (table : String) :
    Nat → Request → σ → List RemoteRow → Prop
  | 0, _, _, _ => True
  | limit + 1, request, state, owed =>
    (remote request state).1.edits = [] ∧
    ∀ page, pageOfAnswer table (remote request state).1.answer = .ok page →
      ∃ given rest, owed = given ++ rest ∧ page.items = given.map RemoteRow.document ∧
        match page.nextLink with
        | none => rest = []
        | some link =>
          Delivers remote table limit (.nextPage table link) (remote request state).2 rest

/-- Whether a remote answers the query of a run with those of some rows that changed since
the watermark. -/
def Run.Offers (run : Run σ) (remote : Remote σ) (options : PullOptions) (query : PullQuery)
    (rows : List RemoteRow) : Prop :=
  ∀ watermark, run.store.watermarkAt query.tokenKey = .ok watermark →
    Delivers remote query.table options.pageLimit
      (.query query.table (options.compile (query.describe watermark options.defaultPageSize)))
      run.remote (RemoteRow.since (watermark.map Instant.toMicros) rows)

variable {remote : Remote σ} {table tokenKey : String}

/-- A page that arrives applies the first of its rows by `applyRows`, and all of them where none
fails. -/
theorem Run.applyRows_of_applyPage (run : Run σ) (given : List RemoteRow) :
    ∃ applied, applied <+: given ∧
      Store.applyRows table tokenKey run.store applied =
        .ok (run.applyPage table tokenKey (given.map RemoteRow.document)).2.store ∧
      ∀ counts, (run.applyPage table tokenKey (given.map RemoteRow.document)).1 = .ok counts →
        applied = given := by
  obtain ⟨applied, within, stored, complete⟩ :=
    Store.applyRows_of_applyPage table tokenKey run.store given
  exact ⟨applied, within, stored, fun counts counted => complete counts (mapError_eq_ok.mp counted)⟩

/-- The pages of a pull apply the first of the rows that are owed, and all of them where
nothing stops it. -/
theorem applyRows_of_pullPages {limit : Nat} {request : Request} {run : Run σ}
    {owed : List RemoteRow} (delivers : Delivers remote table limit request run.remote owed) :
    ∃ applied, applied <+: owed ∧
      Store.applyRows table tokenKey run.store applied =
        .ok (run.pullPages remote table tokenKey limit request).2.store ∧
      ((run.pullPages remote table tokenKey limit request).1.error = none → applied = owed) := by
  induction limit generalizing request run owed with
  | zero => exact ⟨[], List.nil_prefix, rfl, nofun⟩
  | succ limit inductionHypothesis =>
    obtain ⟨quiet, pages⟩ := delivers
    have unedited := Run.store_send quiet
    unfold Run.pullPages
    split
    · exact ⟨[], List.nil_prefix, rfl, nofun⟩
    · dsimp only
      cases answered : pageOfAnswer table (run.send remote request).1 with
      | error fault => exact ⟨[], List.nil_prefix, congrArg Except.ok unedited.symm, nofun⟩
      | ok page =>
        obtain ⟨given, rest, rfl, items, follows⟩ := pages page answered
        obtain ⟨applied, within, stored, complete⟩ :=
          @Run.applyRows_of_applyPage _ table tokenKey (run.send remote request).2 given
        rw [← items] at stored complete
        rw [unedited] at stored
        dsimp only
        cases arrived : (run.send remote request).2.applyPage table tokenKey page.items with
        | mk counted next =>
          rw [arrived] at stored complete
          cases counted with
          | error fault =>
            exact ⟨applied, within.trans (List.prefix_append _ _), stored, nofun⟩
          | ok counts =>
            cases complete counts rfl
            have asked : next.remote = (remote request run.remote).2 :=
              congrArg (fun arrival => arrival.2.remote) arrived.symm
            dsimp only
            cases link : page.nextLink with
            | none =>
              rw [link] at follows
              cases follows
              rw [List.append_nil]
              exact ⟨given, List.prefix_refl _, stored, fun _ => rfl⟩
            | some further =>
              rw [link, ← asked] at follows
              obtain ⟨more, among, others, rested⟩ := inductionHypothesis follows
              refine ⟨given ++ more, (List.prefix_append_right_inj given).mpr among, ?_, ?_⟩
              · rw [Store.applyRows_append stored]
                exact others
              · intro complete
                rw [rested complete]

/-- A pull of a query applies, by `applyRows`, the first of the rows since its watermark, and all of
them where nothing stops it. -/
theorem applyRows_of_pullQuery {run : Run σ} {options : PullOptions} {query : PullQuery}
    {rows : List RemoteRow} (offers : run.Offers remote options query rows) :
    ∃ applied, applied <+: RemoteRow.since (run.store.watermark? query.tokenKey) rows ∧
      Store.applyRows query.table query.tokenKey run.store applied =
        .ok (run.pullQuery remote options query).2.store ∧
      ((run.pullQuery remote options query).1.error = none →
        applied = RemoteRow.since (run.store.watermark? query.tokenKey) rows) := by
  unfold Run.pullQuery
  cases read : run.store.watermarkAt query.tokenKey with
  | error fault => exact ⟨[], List.nil_prefix, rfl, nofun⟩
  | ok watermark =>
    rw [← Store.watermarkAt_eq_ok read]
    exact applyRows_of_pullPages (offers watermark read)

end Pages

/-! ### Pulls in turn -/

/-- Whether pulls of a query, each of which may be stopped anywhere, lead from one store
to another. -/
inductive Interrupted (query : PullQuery) (rows : List RemoteRow) (start : Store) : Store → Prop where
  | none : Interrupted query rows start start
  | pulled {σ : Type} {remote : Remote σ} {options : PullOptions} {run : Run σ}
      (earlier : Interrupted query rows start run.store)
      (offers : run.Offers remote options query rows) :
      Interrupted query rows start (run.pullQuery remote options query).2.store

/-- Whether a pull of a query that reaches the last page leads from one store to another. -/
inductive Completed (query : PullQuery) (rows : List RemoteRow) (start : Store) : Store → Prop where
  | pulled {σ : Type} {remote : Remote σ} {options : PullOptions} {run : Run σ}
      (begins : run.store = start) (offers : run.Offers remote options query rows)
      (complete : (run.pullQuery remote options query).1.error = none) :
      Completed query rows start (run.pullQuery remote options query).2.store

section Resumption

variable {query : PullQuery} {rows : List RemoteRow} {start middle whole last : Store}

/-- A complete pull applies the rows since the watermark. -/
theorem Completed.applyRows (completed : Completed query rows start whole) :
    Store.applyRows query.table query.tokenKey start
      (RemoteRow.since (start.watermark? query.tokenKey) rows) = .ok whole := by
  cases completed with
  | pulled begins offers complete =>
    obtain ⟨applied, -, stored, all⟩ := applyRows_of_pullQuery offers
    rw [all complete, begins] at stored
    exact stored

/-- Pulls that were stopped have applied what one pull may have applied, and the last of it more
than once (`Replays`). -/
theorem Interrupted.replays (inOrder : RemoteRow.InOrder rows)
    (interrupted : Interrupted query rows start middle) :
    ∃ reached applied, Replays rows (start.watermark? query.tokenKey) reached applied ∧
      Store.applyRows query.table query.tokenKey start applied = .ok middle := by
  induction interrupted with
  | none => exact ⟨[], [], .start _ _, rfl⟩
  | @pulled σ remote options run earlier offers inductionHypothesis =>
    obtain ⟨reached, applied, replays, stored⟩ := inductionHypothesis
    obtain ⟨further, within, more, -⟩ := applyRows_of_pullQuery offers
    rw [Store.watermark?_applyRows stored] at within
    obtain ⟨next, resumed⟩ := replays.resume inOrder within
    exact ⟨next, applied ++ further, resumed, (Store.applyRows_append stored).trans more⟩

/-- Whether two local copies are the same, but for values that were printed and read some
more times. -/
inductive CopyAged : Option EntityRow → Option EntityRow → Prop where
  | same (copy : Option EntityRow) : CopyAged copy copy
  | reread {copy later : EntityRow} {document other : Document} {id : String}
      (isCopy : copy.IsCopy document id) (laterIsCopy : later.IsCopy other id)
      (fields : ∀ name, Reread (document.field? name) (other.field? name)) :
      CopyAged (some copy) (some later)

/-- Copies whose fields are aged are left in the same way: both were written, or they are
the same. -/
theorem Store.Shows.same_or_written {key : EntityKey} {fields later : String → FieldState}
    (shows : start.Shows whole key fields) (showsLater : start.Shows last key later)
    (aged : ∀ name, FieldState.Aged (fields name) (later name)) :
    last.entity? key = whole.entity? key ∨
      ∃ copy other document otherDocument, whole.entity? key = some copy ∧
        last.entity? key = some other ∧ copy.IsCopy document key.id ∧
        other.IsCopy otherDocument key.id ∧
        (∀ name, fields name = .written (document.field? name)) ∧
        ∀ name, later name = .written (otherDocument.field? name) := by
  -- Every copy has an identity, so that this field tells in which way it was left.
  have identity := aged EntityMetadata.idField
  cases shows with
  | untouched same states =>
    cases showsLater with
    | untouched sameLater statesLater => exact .inl (sameLater.trans same.symm)
    | removed _ statesLater | written _ _ statesLater =>
      rw [states, statesLater] at identity
      cases identity
  | removed absent states =>
    cases showsLater with
    | untouched _ statesLater =>
      rw [states, statesLater] at identity
      cases identity
    | removed absentLater statesLater => exact .inl (absentLater.trans absent.symm)
    | written found isCopy statesLater =>
      rw [states, statesLater] at identity
      cases identity with
      | written reread => cases reread.isSome.symm.trans isCopy.idField
  | written found isCopy states =>
    cases showsLater with
    | untouched _ statesLater =>
      rw [states, statesLater] at identity
      cases identity
    | removed absentLater statesLater =>
      rw [states, statesLater] at identity
      cases identity with
      | written reread => cases reread.isSome.trans isCopy.idField
    | written foundLater laterIsCopy statesLater =>
      exact .inr ⟨_, _, _, _, found, foundLater, isCopy, laterIsCopy, states, statesLater⟩

/-- Copies whose fields are aged are aged (`CopyAged`). -/
theorem Store.Shows.copyAged {key : EntityKey} {fields later : String → FieldState}
    (shows : start.Shows whole key fields) (showsLater : start.Shows last key later)
    (aged : ∀ name, FieldState.Aged (fields name) (later name)) :
    CopyAged (whole.entity? key) (last.entity? key) := by
  rcases shows.same_or_written showsLater aged with
    same | ⟨copy, other, document, otherDocument, found, foundLater, isCopy, otherIsCopy, states,
      statesLater⟩
  · rw [same]
    exact .same _
  · rw [found, foundLater]
    refine .reread isCopy otherIsCopy fun name => ?_
    have written := aged name
    rw [states, statesLater] at written
    cases written with
    | written reread => exact reread

/-- Copies whose fields are the same are the same. -/
theorem Store.Shows.entity?_eq {key : EntityKey} {fields : String → FieldState}
    (shows : start.Shows whole key fields) (showsLater : start.Shows last key fields) :
    last.entity? key = whole.entity? key := by
  rcases shows.same_or_written showsLater fun name => .refl (fields name) with
    same | ⟨copy, other, document, otherDocument, found, foundLater, isCopy, otherIsCopy, states,
      statesLater⟩
  · exact same
  · have fieldwise (name : String) : document.field? name = otherDocument.field? name :=
      FieldState.written.inj ((states name).symm.trans (statesLater name))
    have one : document = otherDocument := isCopy.readable.ascends.ext otherIsCopy.readable.ascends
      isCopy.entity.isObject otherIsCopy.entity.isObject fieldwise
    subst one
    rw [found, foundLater, isCopy.eq otherIsCopy]

/-- The reader gives back each field of a copy that it gives back. -/
theorem givesBack_readField? {key : EntityKey} (name : String)
    (held : ∀ document, start.document? key = some document → document.reprinted = document) :
    (FieldState.untouched (start.readField? key name)).GivesBack := by
  intro value found
  obtain ⟨document, denoted, field⟩ := Option.bind_eq_some_iff.mp found
  exact Document.reprinted_field (held document denoted) field

/-- Pulls that are stopped anywhere (`Interrupted`), and a last one that is not
(`Completed`), leave the watermark where one pull leaves it. They leave the local copies that it
leaves, but for values that were read and printed more times (`CopyAged`), and exactly these
where the reader gives back the rows and what was held before. -/
theorem interrupted_pulls_lose_nothing (inOrder : RemoteRow.InOrder rows)
    (uninterrupted : Completed query rows start whole)
    (interrupted : Interrupted query rows start middle) (resumed : Completed query rows middle last) :
    last.watermark? query.tokenKey = whole.watermark? query.tokenKey ∧
      (∀ key, CopyAged (whole.entity? key) (last.entity? key)) ∧
      ((∀ row ∈ rows, row.document.reprinted = row.document) →
        (∀ id document, start.document? ⟨query.table, id⟩ = some document →
          document.reprinted = document) →
        ∀ key, last.entity? key = whole.entity? key) := by
  have once := uninterrupted.applyRows
  obtain ⟨reached, applied, replays, stored⟩ := interrupted.replays inOrder
  have again := resumed.applyRows
  rw [Store.watermark?_applyRows stored, ← Store.applyRows_append stored] at again
  obtain ⟨tokens, aged⟩ := replays.complete inOrder
  have shows := Store.shows_applyRows once
  have showsLater := Store.shows_applyRows again
  have others (key : EntityKey) (other : key.table ≠ query.table) :
      last.entity? key = whole.entity? key := by
    rw [Store.entity?_applyRows_of_other once other, Store.entity?_applyRows_of_other again other]
  refine ⟨?_, fun key => ?_, fun back held key => ?_⟩
  · rw [Store.watermark?_applyRows once, Store.watermark?_applyRows again, tokens]
  · by_cases own : key.table = query.table
    · obtain ⟨_, id⟩ := key
      subst own
      exact (shows id).copyAged (showsLater id) fun name => aged id name _
    · rw [others key own]
      exact .same _
  · by_cases own : key.table = query.table
    · obtain ⟨_, id⟩ := key
      subst own
      have unaged (name : String) := (aged id name _).eq (FieldState.GivesBack.touched
        (givesBack_readField? name (held id)) fun row member =>
          back row (List.mem_of_mem_filter member))
      have again := showsLater id
      rw [funext unaged] at again
      exact (shows id).entity?_eq again
    · exact others key own

end Resumption

namespace Overlap

open Store

/-- A row of an entity that changed at the start of 1970. -/
def changes : Document :=
  .object [("id", .text "1"), ("updatedAt", .text "1970-01-01T00:00:00Z")]

@[inherit_doc changes]
def row : RemoteRow where
  document := changes
  metadata := ⟨"1", some ⟨0, 0⟩, none, false⟩
  changed := ⟨0, 0⟩
  readable := by
    have names : compare "id" "updatedAt" = .lt := by decide
    refine .object (by decide) (List.pairwise_pair.mpr names) ?_
    exact List.forall_mem_cons.mpr ⟨.text, List.forall_mem_singleton.mpr .text⟩
  usable := by rfl
  dated := rfl

/-- The row laid over a copy that has a number of its own. -/
def merged (upper : Bool) : Document :=
  .object [("id", .text "1"), ("updatedAt", .text "1970-01-01T00:00:00Z"),
    ("x", .number (.float (Drift.number upper)))]

/-- The store in which the entity is held before the row is pulled. -/
def held : Store where
  entities := [(⟨"todo", "1"⟩, .ofDocument (Drift.document true) ⟨"1", none, none, false⟩)]
  queue := []
  watermarks := []
  lastSequence := 0

/-- The store after the row was pulled. -/
def pulled (upper : Bool) : Store where
  entities := [(⟨"todo", "1"⟩, .ofDocument (merged upper) row.metadata)]
  queue := []
  watermarks := [("dt.todo.all", 0)]
  lastSequence := 0

theorem read_render_merged (upper : Bool) :
    Document.read (merged upper).render = some (merged !upper) := by
  have readable : (merged upper).Readable Document.depthLimit := by
    have first : compare "id" "updatedAt" = .lt := by decide
    have second : compare "id" "x" = .lt := by decide
    have third : compare "updatedAt" "x" = .lt := by decide
    refine .object (by decide) ?_ ?_
    · refine List.pairwise_cons.mpr ⟨?_, List.pairwise_pair.mpr third⟩
      exact List.forall_mem_cons.mpr ⟨first, List.forall_mem_singleton.mpr second⟩
    · refine List.forall_mem_cons.mpr ⟨.text, List.forall_mem_cons.mpr ⟨.text, ?_⟩⟩
      exact List.forall_mem_singleton.mpr (.number trivial)
  rw [readable.read_render]
  simp [merged, Document.reprinted, Document.reprintedFields, Number.reprinted, Drift.reread_number]

theorem usable_merged (upper : Bool) : EntityMetadata.ofDocument (merged upper) = .ok row.metadata := by
  rfl

/-- The row is laid over what is read of a copy. -/
theorem applied_row {store next : Store} {older : Document} {version : Option String}
    {updatedAt : Option Instant}
    (read : store.readEntity ⟨"todo", "1"⟩ = .ok (some ⟨"todo", "1", older, version, updatedAt⟩))
    (written : store.putEntity "todo" (older.overlay row.document) = .ok next) :
    store.applyKnownRow "todo" row.document row.metadata "dt.todo.all" =
      .ok (.replaced, next.noteChange "dt.todo.all" row.metadata) := by
  have merges : store.mergeEntity "todo" row.document = .ok next :=
    mergeEntity_eq_ok.mpr ⟨_, row.usable, .inl ⟨_, read, written⟩⟩
  exact bind_eq_ok.mpr ⟨_, read, bind_eq_ok.mpr ⟨next, merges, rfl⟩⟩

theorem applied_held :
    held.applyKnownRow "todo" row.document row.metadata "dt.todo.all" = .ok (.replaced, pulled false) := by
  have read : held.readEntity ⟨"todo", "1"⟩ =
      .ok (some ⟨"todo", "1", Drift.document false, none, none⟩) :=
    readEntity_eq_ok_some.mpr
      ⟨_, rfl, EntityRow.read_eq_ok.mpr ⟨_, Drift.read_render_document true, rfl⟩⟩
  exact applied_row read (putEntity_eq_ok.mpr ⟨_, usable_merged false, rfl⟩)

theorem applied_pulled : (pulled false).applyKnownRow "todo" row.document row.metadata "dt.todo.all" =
    .ok (.replaced, pulled true) := by
  have read : (pulled false).readEntity ⟨"todo", "1"⟩ =
      .ok (some ⟨"todo", "1", merged true, none, some ⟨0, 0⟩⟩) :=
    readEntity_eq_ok_some.mpr
      ⟨_, rfl, EntityRow.read_eq_ok.mpr ⟨_, read_render_merged false, rfl⟩⟩
  exact applied_row read (putEntity_eq_ok.mpr ⟨_, usable_merged true, rfl⟩)

/-- The query for the rows. -/
def query : PullQuery := .all "todo"

/-- A pull takes two pages at most. -/
def options : PullOptions := ⟨fun _ => "", 1, 2⟩

/-- A pull that starts from a store. -/
def run (store : Store) : Run Unit := ⟨store, (), .never, [], ⟨0, 0⟩⟩

/-- The row on a page, which is the last one or has a link to a further one. -/
def page (further : Bool) : Document :=
  .object [("items", .array [row.document]),
    ("nextLink", .optionalText (if further then some "more" else none))]

/-- A remote that gives the page in answer to the query, and fails to give a further one. -/
def remote (further : Bool) : Remote Unit
  | .query _ _, _ => (⟨[], false, .ok ⟨200, none, some (page further)⟩⟩, ())
  | _, _ => (⟨[], false, .ok ⟨500, none, none⟩⟩, ())

theorem pageOfAnswer_page (further : Bool) :
    pageOfAnswer "todo" (.ok ⟨200, none, some (page further)⟩) =
      .ok ⟨[row.document], if further then some "more" else none⟩ := by
  cases further <;> rfl

/-- Whether the watermark of the query is read, and is not above the row. -/
def Below (store : Store) : Prop :=
  ∃ watermark, store.watermarkAt query.tokenKey = .ok watermark ∧
    RemoteRow.since (watermark.map Instant.toMicros) [row] = [row]

theorem below_held : Below held :=
  ⟨none, rfl, rfl⟩

theorem below_pulled (upper : Bool) : Below (pulled upper) :=
  ⟨some ⟨0, 0⟩, rfl, rfl⟩

/-- The row is given to a pull. -/
theorem offers_row {store : Store} (below : Below store) (further : Bool) :
    (run store).Offers (remote further) options query [row] := by
  obtain ⟨watermark, read, since⟩ := below
  intro other readAgain
  cases read.symm.trans readAgain
  rw [since]
  refine ⟨rfl, fun given answered => ?_⟩
  cases (pageOfAnswer_page further).symm.trans answered
  refine ⟨[row], [], rfl, rfl, ?_⟩
  cases further with
  | false => rfl
  | true => exact ⟨rfl, nofun⟩

section Pulls

variable {store next : Store} (below : Below store)
  (applied : store.applyKnownRow "todo" row.document row.metadata "dt.todo.all" =
    .ok (.replaced, next))
include below applied

/-- A pull applies the row, and is stopped only by the page that it is refused. -/
theorem pullQuery_row (further : Bool) :
    ((run store).pullQuery (remote further) options query).2.store = next ∧
      (further = false →
        ((run store).pullQuery (remote further) options query).1.error = none) := by
  obtain ⟨watermark, read, -⟩ := below
  have usable : EntityMetadata.ofDocument row.document = .ok row.metadata := row.usable
  have stored : store.applyPage "todo" "dt.todo.all" [row.document] =
      (.ok (PageCounts.none.count .replaced), next) := by
    simp [applyPage, usable, applied, Except.map]
  have begins : (run store).pullQuery (remote further) options query =
      (run store).pullPages (remote further) "todo" "dt.todo.all" 2 (.query "todo" "") := by
    unfold Run.pullQuery
    rw [show (run store).store.watermarkAt query.tokenKey = .ok watermark from read]
    rfl
  have answered := pageOfAnswer_page further
  rw [begins]
  cases further with
  | false =>
    simp [Run.pullPages, Run.send, Run.applyPage, editAll, remote, run, CancelSignal.isFired,
      answered, stored, Except.mapError, TablePullResult.onePage]
  | true =>
    have refused : pageOfAnswer "todo" (.ok ⟨500, none, none⟩) =
        .error (.transport "HTTP 500 fetching todo") := rfl
    simp [Run.pullPages, Run.send, Run.applyPage, editAll, remote, run, CancelSignal.isFired,
      answered, stored, Except.mapError, refused]

theorem completed_row : Completed query [row] store next := by
  obtain ⟨stored, complete⟩ := pullQuery_row below applied false
  rw [← stored]
  exact .pulled rfl (offers_row below false) (complete rfl)

theorem interrupted_row : Interrupted query [row] store next := by
  rw [← (pullQuery_row below applied true).1]
  exact @Interrupted.pulled _ _ _ _ _ _ (run store) .none (offers_row below true)

end Pulls

theorem merged_entity?_ne :
    (pulled true).entity? ⟨"todo", "1"⟩ ≠ (pulled false).entity? ⟨"todo", "1"⟩ := by
  intro same
  have one : (merged true).render = (merged false).render :=
    congrArg EntityRow.text (Option.some.inj same)
  have read := read_render_merged true
  rw [one, read_render_merged false] at read
  revert read
  decide

/-- One number of the copy is not read back as it is printed: the pull that was stopped
and resumed reads it once more. -/
theorem interrupted_pulls_lose_nothing_overlap :
    Completed query [row] held (pulled false) ∧ Interrupted query [row] held (pulled false) ∧
      Completed query [row] (pulled false) (pulled true) ∧
      (pulled true).watermark? query.tokenKey = (pulled false).watermark? query.tokenKey ∧
      CopyAged ((pulled false).entity? ⟨"todo", "1"⟩) ((pulled true).entity? ⟨"todo", "1"⟩) ∧
      (pulled true).entity? ⟨"todo", "1"⟩ ≠ (pulled false).entity? ⟨"todo", "1"⟩ := by
  have whole : Completed query [row] held (pulled false) := completed_row below_held applied_held
  have middle : Interrupted query [row] held (pulled false) :=
    interrupted_row below_held applied_held
  have last : Completed query [row] (pulled false) (pulled true) :=
    completed_row (below_pulled false) applied_pulled
  obtain ⟨tokens, aged, -⟩ :=
    interrupted_pulls_lose_nothing (List.pairwise_singleton _ _) whole middle last
  exact ⟨whole, middle, last, tokens, aged _, merged_entity?_ne⟩

end Overlap

end OfflineSync
