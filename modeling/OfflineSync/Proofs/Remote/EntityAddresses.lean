import OfflineSync.Proofs.Web.Segments
import OfflineSync.Remote.Address

/-!
# Addresses of entities

Below a base of the web, `RemoteBase.IsWeb`, every entity has an address of its own. The path of
the base is kept but for an empty segment at its end, and the segments that name the table and
the entity follow it as they are, `segments_tableUrl`, so that the address tells both names,
`names_of_path_tableUrl`, and is not the address of a table. A base whose path is two slashes is
the one that loses more: of its two empty segments `popEmptySegment` removes the second, and
`pushSegment` puts what is appended in the place of the first.

Nothing here depends on how the host of the base was read. What `Host.readSpecial` leaves out,
domains that are spelt outside ASCII, therefore only bounds which texts `isWeb_of_ofText` speaks
of, and no base.
-/

namespace OfflineSync

/-- A request that names an entity has no query. -/
theorem Request.query?_of_itemId? {request : Request} {id : String}
    (names : request.itemId? = some id) : request.query? = none ∧ request.link? = none := by
  cases request with
  | replace | delete => exact ⟨rfl, rfl⟩
  | create | query | nextPage => cases names

/-- Two addresses that have all but their paths in common have different texts unless their
paths are the same. -/
theorem Url.path_of_render {common url other : Url}
    (beside : url = { common with path := url.path, query := none })
    (otherBeside : other = { common with path := other.path, query := none })
    (same : url.render = other.render) : url.path = other.path := by
  have chars : url.chars = other.chars := String.ofList_injective same
  rw [beside, otherBeside] at chars
  simp only [Url.chars, targetChars, List.append_assoc] at chars
  exact List.append_cancel_right (List.append_cancel_left chars)

namespace RemoteBase

open UrlPath

variable {base : RemoteBase} {text table id : String} {itemId : Option String} {url : Url}
  {request : Request}

/-- The names that an address below a base ends with. -/
def namesBelow (table : String) (itemId : Option String) : List (List Char) :=
  (tablesSegment :: table :: itemId.toList).map String.toList

/-- The path that stays of a base in front of the names. -/
def stem (base : RemoteBase) : List Char :=
  beforeNext base.url.popEmptySegment.path

/-- Whether the name of a table, and the identity of an entity if there is one, are valid. -/
structure ValidNames (table : String) (itemId : Option String) : Prop where
  ofTable : TableName.validate table = .ok ()
  ofItem : ∀ id, itemId = some id → EntityId.validate id = .ok ()

/-- Whether a base belongs to the web and has a path from the root. -/
structure IsWeb (base : RemoteBase) : Prop where
  special : base.url.kind = .special
  rooted : IsRooted base.url.path

/-- A base of a special scheme that `ofText` accepts is one of the web (`IsWeb`). -/
theorem isWeb_of_ofText (accepted : ofText text = .ok base) (special : base.url.kind = .special) :
    base.IsWeb := by
  refine ⟨special, ?_⟩
  unfold ofText at accepted
  split at accepted
  · cases accepted
  · rename_i url read
    split at accepted
    · cases accepted
    · cases accepted
      exact Url.isRooted_of_read read special

namespace ValidNames

theorem of_table (valid : TableName.validate table = .ok ()) : ValidNames table none :=
  ⟨valid, nofun⟩

theorem of_item (valid : TableName.validate table = .ok ())
    (validId : EntityId.validate id = .ok ()) : ValidNames table (some id) :=
  ⟨valid, fun _ same => Option.some.inj same ▸ validId⟩

/-- The names of an address below a base are all formed like identities. -/
theorem wellFormed (valid : ValidNames table itemId) :
    ∀ name ∈ tablesSegment :: table :: itemId.toList, EntityId.wellFormed name.toList := by
  refine List.forall_mem_cons.mpr ⟨by decide, List.forall_mem_cons.mpr ⟨?_, ?_⟩⟩
  · obtain ⟨-, -, formed⟩ := TableName.validate_eq_ok.mp valid.ofTable
    exact TableName.wellFormed_identity formed
  · intro id among
    have validId := valid.ofItem id (Option.mem_toList.mp among)
    obtain ⟨-, -, formed⟩ := EntityId.validate_eq_ok.mp validId
    exact formed

theorem no_slash (valid : ValidNames table itemId) :
    ∀ name ∈ namesBelow table itemId, '/' ∉ name := by
  intro name among
  obtain ⟨text, listed, rfl⟩ := List.mem_map.mp among
  exact no_slash_of_wellFormed (valid.wellFormed text listed)

end ValidNames

/-- The names are put behind what stays of the path of the base (`stem`), and nothing else
changes. -/
theorem tableUrl_eq (web : base.IsWeb) (valid : ValidNames table itemId) :
    base.tableUrl table itemId =
      { base.url with path := base.stem ++ ofSegments (namesBelow table itemId) } := by
  obtain ⟨path, popped, rooted⟩ := Url.exists_popEmptySegment web.rooted
  rw [tableUrl, stem, popped]
  exact @Url.foldl_pushSegment { base.url with path := path } _ _ web.special rooted
    valid.wellFormed

/-- An address below a base of the web has a path from the root. -/
theorem isRooted_tableUrl (web : base.IsWeb) (valid : ValidNames table itemId) :
    IsRooted (base.tableUrl table itemId).path := by
  obtain ⟨path, popped, rooted⟩ := Url.exists_popEmptySegment web.rooted
  have first : IsRooted (base.stem ++ '/' :: tablesSegment.toList) := by
    rw [stem, popped]
    exact rooted.beforeNext_append _
  have further := first.append (ofSegments ((table :: itemId.toList).map String.toList))
  rw [tableUrl_eq web valid]
  simpa [namesBelow, ofSegments] using further

/-- The segments of an address below a base are those that stay of the base, and the names. -/
theorem segments_tableUrl (web : base.IsWeb) (valid : ValidNames table itemId) :
    segments (base.tableUrl table itemId).path = segments base.stem ++ namesBelow table itemId := by
  rw [tableUrl_eq web valid]
  exact segments_append_ofSegments base.stem valid.no_slash

/-- A request that follows no link is sent to the address of its table or entity, with its
query. -/
theorem urlFor_of_link?_eq_none (direct : request.link? = none) :
    base.urlFor request = .ok ((base.tableUrl request.table request.itemId?).withQuery
      (request.query?.filter fun text => !text.isEmpty)) := by
  rw [urlFor, direct]

theorem urlFor_item (names : request.itemId? = some id) :
    base.urlFor request = .ok ((base.tableUrl request.table (some id)).withQuery none) := by
  obtain ⟨unasked, direct⟩ := Request.query?_of_itemId? names
  rw [urlFor_of_link?_eq_none direct, unasked, names]
  rfl

/-- Whether an address is the one of an entity below a base. -/
structure Locates (base : RemoteBase) (table id : String) (url : Url) : Prop where
  /-- There is no query, and all else but the path is that of the base. -/
  beside : url = { base.url with path := url.path, query := none }
  /-- The paths are no more than their segments, each behind a slash. -/
  whole : ofSegments (segments base.url.path) = base.url.path ∧
    ofSegments (segments url.path) = url.path
  /-- The path of the base is kept but for an empty segment at its end, and the names follow
  as they are; except where the path of the base is two slashes. -/
  appended : segments url.path = dropEmptyLast (segments base.url.path) ++
      [tablesSegment.toList, table.toList, id.toList] ↔ base.url.path ≠ ['/', '/']
  /-- Two slashes are lost as a whole. -/
  doubled : base.url.path = ['/', '/'] →
    segments url.path = [tablesSegment.toList, table.toList, id.toList]

/-- The address that a request for an entity is sent to, by `tableUrl`, locates the entity. -/
theorem locates_tableUrl (web : base.IsWeb) (valid : ValidNames table (some id)) :
    base.Locates table id ((base.tableUrl table (some id)).withQuery none) := by
  have cut := segments_tableUrl web valid
  have kept : segments base.stem =
      if base.url.path = ['/', '/'] then [] else dropEmptyLast (segments base.url.path) :=
    Url.segments_beforeNext_popEmptySegment web.rooted
  constructor
  · rw [tableUrl_eq web valid]
    rfl
  · exact ⟨web.rooted.ofSegments_segments, (isRooted_tableUrl web valid).ofSegments_segments⟩
  · change segments (base.tableUrl table (some id)).path = _ ++ namesBelow table (some id) ↔ _
    rw [cut, List.append_cancel_right_eq, kept]
    constructor
    · rintro same doubled
      rw [if_pos doubled, doubled] at same
      exact absurd same (by decide)
    · exact fun other => if_neg other
  · intro doubled
    change segments (base.tableUrl table (some id)).path = namesBelow table (some id)
    rw [cut, kept, if_pos doubled, List.nil_append]

/-- The path of an address below a base tells the names that it ends with (`namesBelow`). -/
theorem names_of_path_tableUrl {otherTable : String} {otherId : Option String} (web : base.IsWeb)
    (valid : ValidNames table itemId) (otherValid : ValidNames otherTable otherId)
    (same : (base.tableUrl otherTable otherId).path = (base.tableUrl table itemId).path) :
    otherTable = table ∧ otherId = itemId := by
  have cut := congrArg segments same
  rw [segments_tableUrl web valid, segments_tableUrl web otherValid] at cut
  have names := (List.map_inj_right fun _ _ => String.toList_inj.mp).mp
    (List.append_cancel_left cut)
  obtain ⟨-, behind⟩ := List.cons.inj names
  obtain ⟨tables, items⟩ := List.cons.inj behind
  have heads := congrArg List.head? items
  rw [Option.head?_toList, Option.head?_toList] at heads
  exact ⟨tables, heads⟩

/-- The address of an entity lies below that of its own table, and of no other. -/
theorem isPrefix_tableUrl_iff {other : String} (web : base.IsWeb)
    (valid : ValidNames table (some id)) (otherValid : ValidNames other none) :
    segments (base.tableUrl other none).path <+: segments (base.tableUrl table (some id)).path ↔
      other = table := by
  rw [segments_tableUrl web valid, segments_tableUrl web otherValid, List.prefix_append_right_inj]
  simp [namesBelow, List.cons_prefix_cons, String.toList_inj]

/-- Every accepted base of a special scheme, such as http or https, is a base of the web. A
request for an entity below a base of the web is sent to an address that has all but path and
query from the base, and no query. Its path is that of the base, less an empty segment at its
end, with the segments that name the table and the entity behind it, unchanged; only from a base
whose path is two slashes nothing is kept (`Locates`). Either way no other entity has the
address, it is no table's own address, and it lies below the address of its table and of no
other table. -/
theorem entities_addressed_apart (names : request.itemId? = some id)
    (validTable : TableName.validate request.table = .ok ())
    (validId : EntityId.validate id = .ok ()) :
    (∀ (text : String) (base : RemoteBase), ofText text = .ok base →
      base.url.kind = .special → base.IsWeb) ∧
    ∀ base : RemoteBase, base.IsWeb →
      ∃ url, base.urlFor request = .ok url ∧ base.Locates request.table id url ∧
        (∀ (other : Request) (otherId : String) (otherUrl : Url), other.itemId? = some otherId →
          TableName.validate other.table = .ok () → EntityId.validate otherId = .ok () →
          base.urlFor other = .ok otherUrl →
          (otherUrl.render = url.render ↔ other.table = request.table ∧ otherId = id)) ∧
        ∀ (other : Request) (otherUrl : Url), other.itemId? = none → other.link? = none →
          TableName.validate other.table = .ok () → base.urlFor other = .ok otherUrl →
          otherUrl.path ≠ url.path ∧
            (segments otherUrl.path <+: segments url.path ↔ other.table = request.table) := by
  refine ⟨fun _ _ => isWeb_of_ofText, fun base web => ?_⟩
  have valid := ValidNames.of_item validTable validId
  refine ⟨_, urlFor_item names, locates_tableUrl web valid, ?_, ?_⟩
  · intro other otherId otherUrl otherNames otherTable otherValidId sent
    cases (urlFor_item otherNames).symm.trans sent
    have otherValid := ValidNames.of_item otherTable otherValidId
    constructor
    · intro same
      have paths := Url.path_of_render (locates_tableUrl web otherValid).beside
        (locates_tableUrl web valid).beside same
      obtain ⟨tables, ids⟩ := names_of_path_tableUrl web valid otherValid paths
      exact ⟨tables, Option.some.inj ids⟩
    · rintro ⟨tables, ids⟩
      rw [tables, ids]
  · intro other otherUrl unnamed direct otherTable sent
    cases (urlFor_of_link?_eq_none direct).symm.trans sent
    have otherValid := ValidNames.of_table otherTable
    rw [unnamed]
    refine ⟨fun same => ?_, isPrefix_tableUrl_iff web valid otherValid⟩
    cases (names_of_path_tableUrl web valid otherValid same).2

/-- A base whose path is two slashes. -/
def doubledBase : RemoteBase :=
  ⟨⟨"http", some ⟨[], ['h'], none⟩, false, ['/', '/'], none, none⟩⟩

/-- Of the two empty segments of the base one should be left in front of the names, and is
not. -/
theorem entities_addressed_apart_doubled :
    ofText "http://h//" = .ok doubledBase ∧
      ∃ url, doubledBase.urlFor (.delete "todo" "a.b|c:d" none) = .ok url ∧
        segments url.path = ["tables".toList, "todo".toList, "a.b|c:d".toList] ∧
        dropEmptyLast (segments doubledBase.url.path) = [[]] := by
  have accepted : ofText "http://h//" = .ok doubledBase := rfl
  have names : (Request.delete "todo" "a.b|c:d" none).itemId? = some "a.b|c:d" := rfl
  obtain ⟨ofAccepted, below⟩ := entities_addressed_apart names (by decide) (by decide)
  obtain ⟨url, sent, locates, -⟩ := below doubledBase (ofAccepted _ _ accepted rfl)
  exact ⟨accepted, url, sent, locates.doubled rfl, by decide⟩

end RemoteBase

end OfflineSync
