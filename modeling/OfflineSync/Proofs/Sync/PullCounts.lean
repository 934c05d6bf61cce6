import OfflineSync.Proofs.Store.Confinement
import OfflineSync.Proofs.Store.RowCounts
import OfflineSync.Proofs.Sync.PulledPages
import OfflineSync.Proofs.Sync.Resumption

/-!
# Counts of pulled tables

The result of a table counts the rows of each page that was applied as a whole, over all
of its queries, wherever the pull is stopped (`Run.Pulls.total`). While nobody edits, the
counts tell how many more copies the table has, but for the rows of a page that the store
refuses: those before the refused row stay applied, as `Store.applyPage` applies each row on
its own, and the result does not count them (`Run.Pulls.gains`). Where every document has
come as a text no page is refused (`Run.Pulls.whole`).
-/

namespace OfflineSync

/-- The rows of a page that `ofBody` reads are `Readable` wherever its body is. -/
theorem Page.readable_of_ofBody {body : Option Document} {page : Page} {depth : Nat}
    (readable : ∀ document, body = some document → document.Readable depth)
    (described : ofBody body = .ok page) : ∀ row ∈ page.items, row.Readable depth := by
  unfold ofBody at described
  split at described
  · cases described
    nofun
  · cases described
    nofun
  · cases described
    exact (readable _ rfl).item
  · obtain ⟨items, held, described⟩ := bind_eq_ok.mp described
    obtain ⟨link, -, described⟩ := bind_eq_ok.mp described
    cases described
    unfold itemsOf at held
    split at held
    · rename_i found
      cases held
      exact ((readable _ rfl).field found).item
    · cases held
      nofun
    · cases held
      nofun
    · cases held
  · cases described

/-- Whether every answer of a remote is a value: with the names of its objects in order and
its integers of 64 bits, nested however deep. -/
def AnswersInValues {σ : Type} (remote : Remote σ) : Prop :=
  ∀ request state response document, (remote request state).1.answer = .ok response →
    response.body = some document → ∃ depth, document.Readable depth

/-- Whether every answer of a remote has come as a text. -/
def AnswersInTexts {σ : Type} (remote : Remote σ) : Prop :=
  ∀ request state response document, (remote request state).1.answer = .ok response →
    response.body = some document → document.Denoted

/-- Whether nobody edits while a remote answers. -/
def Undisturbed {σ : Type} (remote : Remote σ) : Prop :=
  ∀ request state, (remote request state).1.edits = []

namespace Run

variable {σ : Type} {remote : Remote σ} {table : String} {keys : List String} {run after : Run σ}
  {pages : List (List Document)} {result : TablePullResult} {request : Request} {page : Page}

/-- The page that comes from a remote is the one in the body of its answer. -/
theorem ofBody_of_answered
    (answered : pageOfAnswer table (run.send remote request).1 = .ok page) :
    ∃ response, (remote request run.remote).1.answer = .ok response ∧
      Page.ofBody response.body = .ok page := by
  unfold pageOfAnswer at answered
  split at answered
  · cases answered
  · rename_i response told
    split at answered
    · exact ⟨response, told, mapError_eq_ok.mp answered⟩
    · cases answered

/-- The rows of a page that comes from a remote have come as texts (`AnswersInTexts`). -/
theorem denoted_of_answered (texts : AnswersInTexts remote)
    (answered : pageOfAnswer table (run.send remote request).1 = .ok page) :
    ∀ row ∈ page.items, row.Denoted := by
  obtain ⟨response, told, described⟩ := ofBody_of_answered answered
  exact Page.readable_of_ofBody (texts request run.remote response · told) described

/-- The names of a row that comes from a remote are in order, if it answers in values
(`AnswersInValues`). -/
theorem ascends_of_answered (values : AnswersInValues remote)
    (answered : pageOfAnswer table (run.send remote request).1 = .ok page) :
    ∀ row ∈ page.items, row.Ascends := by
  obtain ⟨response, told, described⟩ := ofBody_of_answered answered
  cases body : response.body with
  | none =>
    rw [body] at described
    cases described
    nofun
  | some document =>
    obtain ⟨depth, readable⟩ := values request run.remote response document told body
    have given : ∀ other, response.body = some other → other.Readable depth := by
      intro other same
      cases body.symm.trans same
      exact readable
    exact fun row among => (Page.readable_of_ofBody given described row among).ascends

/-- The pages that a result counts have as many rows as it does: their `total`. -/
theorem Pulls.total (pulls : Pulls remote table keys run pages result after) :
    result.counts.total = (pages.take result.pages).flatten.length := by
  induction pulls with
  | stopped | unanswered | refused => rfl
  | applied among answered applies rest inductionHypothesis =>
    rw [TablePullResult.followedBy, TablePullResult.onePage, PageCounts.total_add,
      Store.total_of_applyPage applies, inductionHypothesis]
    simp only [Nat.add_comm 1, List.take_succ_cons, List.flatten_cons, List.length_append]

/-- While nobody edits, the rows that are applied of a page tell how many more copies the
table has than before the page was asked for. -/
theorem arrival_counts (values : AnswersInValues remote) (undisturbed : Undisturbed remote)
    (reachable : run.store.Reachable)
    (answered : pageOfAnswer table (run.send remote request).1 = .ok page) (tokenKey : String) :
    let sent := (run.send remote request).2
    let after := (sent.applyPage table tokenKey page.items).2
    after.store.Reachable ∧ ∃ counts : PageCounts,
      counts.total = (sent.store.appliedRows table tokenKey page.items).length ∧
      (∀ told, (sent.store.applyPage table tokenKey page.items).1 = .ok told → told = counts) ∧
      Store.Gains table counts run.store after.store := by
  intro sent after
  have unedited : sent.store = run.store := store_send (undisturbed request run.remote)
  have reachableSent : sent.store.Reachable := unedited ▸ reachable
  obtain ⟨counts, total, told, gains⟩ :=
    Store.applyPage_counts sent.store table tokenKey page.items
  refine ⟨reachableSent.applyPage table tokenKey page.items, counts, total, told, ?_⟩
  rw [← unedited]
  exact gains reachableSent.ascending (ascends_of_answered values answered)

/-- While nobody edits (`Undisturbed`), the counts of a result tell how many more copies the table
has, but for the rows of a page that the store refuses. -/
theorem Pulls.gains (pulls : Pulls remote table keys run pages result after)
    (values : AnswersInValues remote) (undisturbed : Undisturbed remote)
    (reachable : run.store.Reachable) :
    ∃ uncounted : PageCounts,
      uncounted.total = (pages.drop result.pages).flatten.length ∧
      Store.Gains table (result.counts.add uncounted) run.store after.store := by
  induction pulls with
  | stopped run error => exact ⟨.none, rfl, .refl table run.store⟩
  | unanswered run request fault =>
    refine ⟨.none, rfl, ?_⟩
    rw [store_send (undisturbed request run.remote)]
    exact .refl table run.store
  | @refused run request page refusal tokenKey among answered refuses =>
    obtain ⟨-, counts, total, -, gains⟩ :=
      arrival_counts values undisturbed reachable answered tokenKey
    refine ⟨counts, ?_, ?_⟩
    · simpa [TablePullResult.stopped] using total
    · rw [TablePullResult.stopped, PageCounts.none_add]
      exact gains
  | @applied run after request page counts pages result tokenKey among answered applies rest
      inductionHypothesis =>
    obtain ⟨reached, same, -, told, gains⟩ :=
      arrival_counts values undisturbed reachable answered tokenKey
    cases told counts applies
    obtain ⟨uncounted, total, others⟩ := inductionHypothesis reached
    refine ⟨uncounted, ?_, ?_⟩
    · rw [TablePullResult.followedBy, TablePullResult.onePage, Nat.add_comm, List.drop_succ_cons,
        total]
    · rw [TablePullResult.followedBy, TablePullResult.onePage, PageCounts.add_assoc]
      exact gains.add others

/-- No page is refused where every document comes as a text. -/
theorem Pulls.whole (pulls : Pulls remote table keys run pages result after)
    (texts : AnswersInTexts remote) (legible : run.store.Legible) :
    pages.length = result.pages := by
  induction pulls with
  | stopped | unanswered => rfl
  | refused among answered refuses =>
    obtain ⟨⟨counts, applies⟩, -⟩ :=
      (legible.editAll _ _).applyPage (denoted_of_answered texts answered)
    cases refuses.symm.trans applies
  | applied among answered applies rest inductionHypothesis =>
    obtain ⟨-, kept⟩ := (legible.editAll _ _).applyPage (denoted_of_answered texts answered)
    rw [List.length_cons, inductionHypothesis kept]
    exact Nat.add_comm _ _

end Run

/-- Counts that are added to others leave the balance of those exactly if they balance by
themselves. -/
theorem PageCounts.balances_iff {counts uncounted : PageCounts} {before after : Nat}
    (balances : (counts.add uncounted).Balances before after) :
    counts.Balances before after ↔ uncounted.additions = uncounted.deletions := by
  simp only [Balances, add] at *
  omega

/-- The counts of a pulled table add up to the rows of the pages that the result counts,
however the pull of its queries ends. While nobody edits, the table has as many copies more
as these counts tell and the counts of the rows that were applied of a refused page, and
every other table has as many as before (`Store.Gains`). So the counts of the result are conserved
(`Balances`) exactly if those rows have added as many copies as they have removed. A page is refused
only where the store refuses a row, which it does not if every document has come as a text. -/
theorem pulled_counts_conserved_iff {σ : Type} {remote : Remote σ} {options : PullOptions}
    {run : Run σ} {table : String} {queries : List PullQuery} (values : AnswersInValues remote)
    (undisturbed : Undisturbed remote) (reachable : run.store.Reachable)
    (own : ∀ query ∈ queries, query.table = table) :
    let pages := run.tablePages remote options queries
    let result := (run.pullTable remote options queries).1
    let after := (run.pullTable remote options queries).2.store
    result.counts.total = (pages.take result.pages).flatten.length ∧
      (∃ uncounted : PageCounts,
        uncounted.total = (pages.drop result.pages).flatten.length ∧
        Store.Gains table (result.counts.add uncounted) run.store after ∧
        (result.counts.Balances (run.store.countTable table) (after.countTable table) ↔
          uncounted.additions = uncounted.deletions)) ∧
      (pages.length = result.pages ∨ pages.length = result.pages + 1 ∧
        ∃ refusal, result.error = some (.ofStore refusal)) ∧
      (run.store.Textual → AnswersInTexts remote → pages.length = result.pages) := by
  intro pages result after
  have pulls := Run.pulls_pullTable remote options own run
  obtain ⟨uncounted, total, gains⟩ := pulls.gains values undisturbed reachable
  refine ⟨pulls.total, ⟨uncounted, total, gains, ?_⟩, pulls.length, fun textual texts => ?_⟩
  · exact PageCounts.balances_iff gains.own
  · exact pulls.whole texts textual.legible

namespace Refusal

open Store.Stray (entity)

/-- Arrays in one another. -/
def nested : Nat → Document
  | 0 => .array []
  | depth + 1 => .array [nested depth]

theorem chars_nested (depth : Nat) :
    ∃ rest, (nested depth).chars = List.replicate (depth + 1) '[' ++ rest := by
  induction depth with
  | zero => exact ⟨[']'], rfl⟩
  | succ depth inductionHypothesis =>
    obtain ⟨rest, chars⟩ := inductionHypothesis
    have outer : (nested (depth + 1)).chars = '[' :: ((nested depth).chars ++ [']']) := rfl
    exact ⟨rest ++ [']'], by rw [outer, chars, List.append_assoc]; rfl⟩

/-- Brackets that open more levels than remain are not read. -/
theorem readValue_brackets {count depth : Nat} (exceeds : depth ≤ count + 1) (fuel : Nat)
    (rest : List Char) :
    Document.readValue fuel depth (List.replicate (count + 1) '[' ++ rest) = none := by
  have solid (more : List Char) : Document.skipBlanks ('[' :: more) = '[' :: more := rfl
  induction count generalizing depth fuel with
  | zero =>
    cases fuel with
    | zero => rfl
    | succ fuel =>
      unfold Document.readValue
      rw [List.replicate_one, List.singleton_append, solid]
      exact if_pos exceeds
  | succ count inductionHypothesis =>
    cases fuel with
    | zero => rfl
    | succ fuel =>
      have inner : Document.readItems fuel (depth - 1)
          (List.replicate (count + 1) '[' ++ rest) = none := by
        cases fuel with
        | zero => rfl
        | succ fuel =>
          unfold Document.readItems
          rw [inductionHypothesis (by omega)]
      rw [List.replicate_succ, List.cons_append] at inner
      unfold Document.readValue
      simp only [List.replicate_succ, List.cons_append, solid]
      split
      · rfl
      · exact congrArg (Option.map _) inner

/-- An entity that is nested deeper than texts are read. -/
def deep : Document := .object [("deep", nested 127), ("id", .text "1")]

/-- What is printed of this entity is not read. -/
theorem read_deep : Document.read deep.render = none := by
  obtain ⟨brackets, nests⟩ := chars_nested 127
  obtain ⟨rest, chars⟩ : ∃ rest, deep.chars = '\x7b' :: '"' ::
      ("deep".toList.flatMap Document.escapeChar ++ '"' :: ':' ::
        (List.replicate 128 '[' ++ rest)) := by
    refine ⟨brackets ++ ',' :: (Document.charsOfFields [("id", .text "1")] ++ ['\x7d']), ?_⟩
    simp only [deep, Document.chars, Document.charsOfFields, nests, Document.quote]
    simp
  have quote (more : List Char) : Document.skipBlanks ('"' :: more) = '"' :: more := rfl
  have brace (more : List Char) : Document.skipBlanks ('\x7b' :: more) = '\x7b' :: more := rfl
  have colon (more : List Char) : Document.skipBlanks (':' :: more) = ':' :: more := rfl
  have unread (fuel : Nat) : Document.readValue fuel 127 (List.replicate 128 '[' ++ rest) = none :=
    readValue_brackets (by decide) fuel rest
  have field (fuel : Nat) : Document.readFields (fuel + 1) 127 ('"' ::
      ("deep".toList.flatMap Document.escapeChar ++ '"' :: ':' ::
        (List.replicate 128 '[' ++ rest))) = none := by
    unfold Document.readFields
    simp only [quote, Document.readString_quoted, colon, unread]
  have value (fuel : Nat) :
      Document.readValue (fuel + 2) Document.depthLimit deep.chars = none := by
    have nests : ¬ Document.depthLimit ≤ 1 := by decide
    rw [chars]
    unfold Document.readValue
    simp only [brace, quote, if_neg nests]
    split
    · rename_i same
      exact absurd (List.cons.inj same).1 (by decide)
    · rw [show Document.depthLimit - 1 = 127 from rfl, field]
      rfl
  have printed : Document.read deep.render = Document.readChars deep.chars :=
    congrArg Document.readChars String.toList_ofList
  rw [printed]
  unfold Document.readChars
  rw [value]

/-- The store with a copy of this entity. -/
def stored (copy : EntityRow) : Store where
  entities := [(⟨"todo", "1"⟩, copy)]
  queue := []
  watermarks := []
  lastSequence := 0

/-- The store after a row was added. -/
def half (copy : EntityRow) : Store :=
  { stored copy with
    entities := [(⟨"todo", "1"⟩, copy),
      (⟨"todo", "2"⟩, .ofDocument (entity "2") ⟨"2", none, none, false⟩)] }

/-- The first row is applied, and the second one refused. -/
theorem applyPage_stored {copy : EntityRow} (unread : Document.read copy.text = none)
    (tokenKey : String) : (stored copy).applyPage "todo" tokenKey [entity "2", entity "1"] =
      (.error .unreadable, half copy) := by
  have first : (stored copy).applyKnownRow "todo" (entity "2") ⟨"2", none, none, false⟩ tokenKey =
      .ok (.inserted, half copy) := rfl
  have held : (half copy).readEntity ⟨"todo", "1"⟩ = .error .unreadable := by
    change (EntityRow.read ⟨"todo", "1"⟩ copy).map some = _
    unfold EntityRow.read
    rw [unread]
    rfl
  have second : (half copy).applyKnownRow "todo" (entity "1") ⟨"1", none, none, false⟩ tokenKey =
      .error .unreadable := by
    unfold Store.applyKnownRow
    dsimp only
    rw [held]
    rfl
  have usable : EntityMetadata.ofDocument (entity "2") = .ok ⟨"2", none, none, false⟩ := rfl
  have usableOther : EntityMetadata.ofDocument (entity "1") = .ok ⟨"1", none, none, false⟩ := rfl
  simp only [Store.applyPage, usable, usableOther, first, second]
  rfl

/-- The copy of the entity that is not read. -/
def deepCopy : EntityRow := .ofDocument deep ⟨"1", none, none, false⟩

theorem reachable_stored : (stored deepCopy).Reachable := by
  have applied : Store.empty.applyRemoteRow "todo" deep "" = .ok (.inserted, stored deepCopy) := rfl
  exact .step .empty (.pulled applied)

/-- A remote that gives one page, whose second row is of this entity. -/
def remote : Remote Unit := fun _ _ =>
  (⟨[], false, .ok ⟨200, none, some (.array [entity "2", entity "1"])⟩⟩, ())

theorem answersInValues_remote : AnswersInValues remote := by
  have readable (id : String) : (entity id).Readable 2 :=
    .object Nat.one_lt_two (List.pairwise_singleton ..) (List.forall_mem_singleton.mpr .text)
  intro request state response document answered given
  cases answered
  cases given
  exact ⟨3, .array (by decide) (List.forall_mem_cons.mpr
    ⟨readable "2", List.forall_mem_singleton.mpr (readable "1")⟩)⟩

/-- A pull that takes three pages at most. -/
def options : PullOptions := ⟨fun _ => "", 10, 3⟩

/-- A pull into a store with a copy. -/
def run (copy : EntityRow) : Run Unit := ⟨stored copy, (), .waiting, [], ⟨0, 0⟩⟩

/-- The pull counts no row, but the store has the first one. -/
theorem pullTable_run {copy : EntityRow} (unread : Document.read copy.text = none) :
    ((run copy).pullTable remote options [.all "todo"]).1 =
        .stopped (some (.ofStore .unreadable)) ∧
      ((run copy).pullTable remote options [.all "todo"]).2.store = half copy := by
  let query : PullQuery := .all "todo"
  let sent := ((run copy).send remote (.query query.table "")).2
  have refused : sent.store.applyPage query.table query.tokenKey [entity "2", entity "1"] =
      (.error .unreadable, half copy) := applyPage_stored unread query.tokenKey
  have watermark : (run copy).store.watermarkAt query.tokenKey = .ok none := rfl
  have waits : (run copy).signal.isFired = false := rfl
  have answered : pageOfAnswer query.table ((run copy).send remote (.query query.table "")).1 =
      .ok ⟨[entity "2", entity "1"], none⟩ := rfl
  have queried : (run copy).pullQuery remote options query =
      (.stopped (some (.ofStore .unreadable)), { sent with store := half copy }) := by
    unfold Run.pullQuery
    rw [watermark]
    dsimp only [options]
    unfold Run.pullPages
    rw [waits]
    dsimp only
    rw [answered]
    dsimp only [Run.applyPage]
    rw [refused]
    rfl
  unfold Run.pullTable
  rw [queried]
  exact ⟨rfl, rfl⟩

/-- The first row is applied and the second one refused. The pull counts nothing, and the
table has a copy more. -/
theorem pulled_counts_conserved_iff_refused :
    (run deepCopy).store.Reachable ∧
      ((run deepCopy).pullTable remote options [.all "todo"]).1 =
        .stopped (some (.ofStore .unreadable)) ∧
      ¬ PageCounts.none.Balances ((run deepCopy).store.countTable "todo")
        (((run deepCopy).pullTable remote options [.all "todo"]).2.store.countTable "todo") := by
  have unread : Document.read deepCopy.text = none := read_deep
  obtain ⟨told, after⟩ := pullTable_run unread
  obtain ⟨-, ⟨uncounted, -, gains, exactly⟩, -⟩ :=
    @pulled_counts_conserved_iff _ remote options (run deepCopy) "todo" _ answersInValues_remote
      (fun _ _ => rfl) reachable_stored
      (List.forall_mem_singleton.mpr rfl : ∀ query ∈ [PullQuery.all "todo"], query.table = "todo")
  rw [told] at gains exactly
  refine ⟨reachable_stored, told, fun balances => ?_⟩
  have even := exactly.mp balances
  have own := gains.own
  rw [after] at own
  change 2 + (0 + uncounted.deletions) = 1 + (0 + uncounted.additions) at own
  omega

end Refusal

end OfflineSync
