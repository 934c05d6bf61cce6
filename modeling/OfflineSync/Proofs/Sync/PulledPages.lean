import OfflineSync.Proofs.Store.RaisedWatermarks
import OfflineSync.Proofs.Sync.TableTasks

/-!
# The pages of a pull

A pull of a table applies pages one after the other until one is the last of the last query or
something stops it: the caller, the remote, or a row that the store refuses. `Run.Pulls` has one
constructor for each of these, so that what holds of every pull (`pulls_pullTable`) is shown by
cases on how a page is pulled.
-/

namespace OfflineSync.Run

variable {σ : Type}

/-- The rows that a pull applies, page by page: all rows of a page, or those before the one
that the store refuses. -/
def appliedPages (remote : Remote σ) (table tokenKey : String) :
    Nat → Request → Run σ → List (List Document)
  | 0, _, _ => []
  | limit + 1, request, run =>
    if run.signal.isFired then []
    else
      let (answer, run) := run.send remote request
      match pageOfAnswer table answer with
      | .error _ => []
      | .ok page =>
        match run.applyPage table tokenKey page.items with
        | (.error _, _) => [run.store.appliedRows table tokenKey page.items]
        | (.ok _, run) =>
          match page.nextLink with
          | none => [page.items]
          | some link =>
            page.items :: appliedPages remote table tokenKey limit (.nextPage table link) run

/-- The rows that the pull of a query applies, page by page, as `appliedPages`. -/
def pulledPages (remote : Remote σ) (options : PullOptions) (run : Run σ) (query : PullQuery) :
    List (List Document) :=
  match run.store.watermarkAt query.tokenKey with
  | .error _ => []
  | .ok watermark =>
    let text := options.compile (query.describe watermark options.defaultPageSize)
    run.appliedPages remote query.table query.tokenKey options.pageLimit (.query query.table text)

/-- The rows that the pull of a query applies. -/
def pulledRows (remote : Remote σ) (options : PullOptions) (run : Run σ) (query : PullQuery) :
    List Document :=
  (run.pulledPages remote options query).flatten

/-- The rows that the pull of a table applies, page by page, over its queries in order, each by
`pulledPages`. -/
def tablePages (remote : Remote σ) (options : PullOptions) :
    List PullQuery → Run σ → List (List Document)
  | [], _ => []
  | query :: rest, run =>
    let (result, next) := run.pullQuery remote options query
    run.pulledPages remote options query ++
      if result.isSuccessful then next.tablePages remote options rest else []

/-- The ways in which pages are pulled into a table under token keys, one after the other:
from a run to a later one, with the rows that are applied of each page and what is told of
them. -/
inductive Pulls (remote : Remote σ) (table : String) (keys : List String) :
    Run σ → List (List Document) → TablePullResult → Run σ → Prop where
  | stopped (run : Run σ) (error : Option SyncError) :
      Pulls remote table keys run [] (.stopped error) run
  /-- A request that is not answered with a page. -/
  | unanswered (run : Run σ) (request : Request) (fault : SyncError) :
      Pulls remote table keys run [] (.stopped (some fault)) (run.send remote request).2
  /-- A page that the store refuses after some of its rows. -/
  | refused {run : Run σ} {request : Request} {page : Page} {refusal : StoreError}
      {tokenKey : String} (among : tokenKey ∈ keys)
      (answered : pageOfAnswer table (run.send remote request).1 = .ok page)
      (refuses : ((run.send remote request).2.store.applyPage table tokenKey page.items).1 =
        .error refusal) :
      Pulls remote table keys run
        [(run.send remote request).2.store.appliedRows table tokenKey page.items]
        (.stopped (some (.ofStore refusal)))
        ((run.send remote request).2.applyPage table tokenKey page.items).2
  /-- A page that is applied as a whole, and what follows it. -/
  | applied {run after : Run σ} {request : Request} {page : Page} {counts : PageCounts}
      {pages : List (List Document)} {result : TablePullResult} {tokenKey : String}
      (among : tokenKey ∈ keys)
      (answered : pageOfAnswer table (run.send remote request).1 = .ok page)
      (applies : ((run.send remote request).2.store.applyPage table tokenKey page.items).1 =
        .ok counts)
      (rest : Pulls remote table keys
        ((run.send remote request).2.applyPage table tokenKey page.items).2 pages result after) :
      Pulls remote table keys run (page.items :: pages)
        ((TablePullResult.onePage counts).followedBy result) after

variable {remote : Remote σ} {table tokenKey : String} {keys more : List String}
  {options : PullOptions} {run middle after : Run σ} {pages others : List (List Document)}
  {result later : TablePullResult}

theorem pulls_pullPages (remote : Remote σ) (table tokenKey : String) (limit : Nat)
    (request : Request) (run : Run σ) :
    Pulls remote table [tokenKey] run (run.appliedPages remote table tokenKey limit request)
      (run.pullPages remote table tokenKey limit request).1
      (run.pullPages remote table tokenKey limit request).2 := by
  have among : tokenKey ∈ [tokenKey] := List.mem_singleton_self tokenKey
  induction limit generalizing request run with
  | zero => exact .stopped run _
  | succ limit inductionHypothesis =>
    unfold pullPages appliedPages
    dsimp only
    split
    · exact .stopped run _
    · cases answered : pageOfAnswer table (run.send remote request).1 with
      | error fault => exact .unanswered run request fault
      | ok page =>
        dsimp only [applyPage]
        cases arrived : ((run.send remote request).2.store.applyPage table tokenKey page.items).1 with
        | error refusal => exact .refused among answered arrived
        | ok counts =>
          cases page.nextLink with
          | none => exact .applied among answered arrived (.stopped _ none)
          | some link => exact .applied among answered arrived (inductionHypothesis _ _)

theorem pulls_pullQuery (remote : Remote σ) (options : PullOptions) (run : Run σ)
    (query : PullQuery) :
    Pulls remote query.table [query.tokenKey] run (run.pulledPages remote options query)
      (run.pullQuery remote options query).1 (run.pullQuery remote options query).2 := by
  unfold pulledPages pullQuery
  cases run.store.watermarkAt query.tokenKey with
  | error fault => exact .stopped run _
  | ok watermark => exact pulls_pullPages ..

namespace Pulls

theorem mono (pulls : Pulls remote table keys run pages result after) (within : keys ⊆ more) :
    Pulls remote table more run pages result after := by
  induction pulls with
  | stopped run error => exact .stopped run error
  | unanswered run request fault => exact .unanswered run request fault
  | refused among answered refuses => exact .refused (within among) answered refuses
  | applied among answered applies rest inductionHypothesis =>
    exact .applied (within among) answered applies inductionHypothesis

/-- Pages may be pulled after others that nothing stopped: `Pulls` is closed under that. -/
theorem append (first : Pulls remote table keys run pages result middle)
    (successful : result.isSuccessful) (second : Pulls remote table keys middle others later after) :
    Pulls remote table keys run (pages ++ others) (result.followedBy later) after := by
  induction first with
  | stopped run error =>
    cases Option.isNone_iff_eq_none.mp successful
    simpa using second
  | unanswered run request fault => cases successful
  | refused among answered refuses => cases successful
  | applied among answered applies rest inductionHypothesis =>
    rw [TablePullResult.followedBy_assoc]
    exact .applied among answered applies (inductionHypothesis successful second)

/-- As many pages are applied as are counted, and rows of one more where the store refuses
a row. -/
theorem length (pulls : Pulls remote table keys run pages result after) :
    pages.length = result.pages ∨
      pages.length = result.pages + 1 ∧ ∃ refusal, result.error = some (.ofStore refusal) := by
  induction pulls with
  | stopped | unanswered => exact .inl rfl
  | refused among answered refuses => exact .inr ⟨rfl, _, rfl⟩
  | applied among answered applies rest inductionHypothesis =>
    simp only [TablePullResult.followedBy, TablePullResult.onePage, List.length_cons]
    rcases inductionHypothesis with same | ⟨more, refused⟩
    · exact .inl (by omega)
    · exact .inr ⟨by omega, refused⟩

end Pulls

theorem pulls_pullTable (remote : Remote σ) (options : PullOptions) {queries : List PullQuery}
    (own : ∀ query ∈ queries, query.table = table) (run : Run σ) :
    Pulls remote table (queries.map PullQuery.tokenKey) run (run.tablePages remote options queries)
      (run.pullTable remote options queries).1 (run.pullTable remote options queries).2 := by
  induction queries generalizing run with
  | nil => exact .stopped run none
  | cons query rest inductionHypothesis =>
    obtain ⟨rfl, others⟩ := List.forall_mem_cons.mp own
    have among : [query.tokenKey] ⊆ (query :: rest).map PullQuery.tokenKey :=
      List.cons_subset_cons _ (List.nil_subset _)
    have first := (pulls_pullQuery remote options run query).mono among
    unfold pullTable tablePages
    dsimp only
    split
    · rename_i successful
      exact first.append successful ((inductionHypothesis others _).mono (List.subset_cons_self _ _))
    · rw [List.append_nil]
      exact first

end OfflineSync.Run
