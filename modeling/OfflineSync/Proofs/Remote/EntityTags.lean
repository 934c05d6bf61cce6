import OfflineSync.Proofs.Fallible
import OfflineSync.Remote.Http

/-!
# Tags that go back

A remote names a version by a tag: a text in quotes, with a mark before them where the tag is weak
(`EntityTag.Written`). The device keeps the text of a strong tag without its quotes. A text that
itself `LooksWeak` is then taken for a weak tag, and goes back without quotes; every other tag goes
back as it came.
-/

namespace OfflineSync

namespace EntityTag

/-- A tag as remotes write it: a text of visible ASCII characters other than the quote,
which may be weak. -/
structure Written where
  weak : Bool
  content : List Char
  visible : ∀ c ∈ content, 0x21 ≤ c.toNat ∧ c.toNat ≤ 0x7e ∧ c ≠ '"'

namespace Written

/-- The text of a tag between its quotes. -/
def quoted (tag : Written) : List Char :=
  '"' :: (tag.content ++ ['"'])

/-- The characters of a tag. -/
def chars (tag : Written) : List Char :=
  if tag.weak then 'W' :: '/' :: tag.quoted else tag.quoted

/-- A tag as a text. -/
def text (tag : Written) : String :=
  String.ofList tag.chars

/-- Whether a strong tag has a text that begins like the mark of a weak one. -/
def LooksWeak (tag : Written) : Prop :=
  tag.weak = false ∧ ['W', '/'] <+: tag.content

end Written

variable {tag : Written} {version : List Char}

/-! ### Reading and writing tags -/

/-- A text is taken for a weak tag, by `isWeak`, by the mark that it begins with. -/
theorem isWeak_iff : isWeak version ↔ ['W', '/'] <+: version := by
  constructor
  · intro weak
    unfold isWeak at weak
    split at weak
    · exact ⟨_, rfl⟩
    · cases weak
  · rintro ⟨rest, rfl⟩
    rfl

/-- No quote is trimmed off characters of the text of a tag. -/
theorem Written.dropWhile_quote {chars : List Char} (tag : Written)
    (within : ∀ c ∈ chars, c ∈ tag.content) : chars.dropWhile (· == '"') = chars := by
  cases chars with
  | nil => rfl
  | cons c rest =>
    have other : c ≠ '"' := (tag.visible c (within c (List.mem_cons_self ..))).2.2
    exact List.dropWhile_cons_of_neg (by simpa using other)

/-- Quotes are trimmed off a tag by `trimQuotes` exactly as they were put around its text. -/
theorem Written.trimQuotes_quoted (tag : Written) : trimQuotes tag.quoted = tag.content := by
  have front : tag.quoted.dropWhile (· == '"') = (tag.content ++ ['"']).dropWhile (· == '"') :=
    List.dropWhile_cons_of_pos rfl
  unfold trimQuotes
  rw [front]
  cases empty : tag.content with
  | nil => rfl
  | cons c rest =>
    have other : c ≠ '"' := (tag.visible c (empty ▸ List.mem_cons_self ..)).2.2
    have back : (c :: rest).reverse.dropWhile (· == '"') = (c :: rest).reverse :=
      tag.dropWhile_quote fun d member => empty ▸ List.mem_reverse.mp member
    rw [List.cons_append, List.dropWhile_cons_of_neg (by simpa using other), ← List.cons_append,
      List.reverse_append, List.reverse_singleton, List.singleton_append,
      List.dropWhile_cons_of_pos rfl, back, List.reverse_reverse]

/-- A strong tag begins with its quote, so only weak tags bear the mark. -/
theorem Written.isWeak_chars (tag : Written) : isWeak tag.chars = tag.weak := by
  unfold chars
  cases tag.weak <;> rfl

/-- A weak tag is kept as a whole, and a strong one without its quotes. -/
theorem Written.versionChars_chars (tag : Written) :
    versionChars tag.chars = if tag.weak then tag.chars else tag.content := by
  unfold versionChars
  rw [tag.isWeak_chars]
  cases weak : tag.weak with
  | true => rfl
  | false =>
    have plain : tag.chars = tag.quoted := by
      rw [chars, weak, if_neg Bool.false_ne_true]
    rw [if_neg Bool.false_ne_true, if_neg Bool.false_ne_true, plain, tag.trimQuotes_quoted]

/-- The text of a tag is written without quotes if it looks like a weak tag. -/
theorem ofVersionChars_content :
    ofVersionChars tag.content = if isWeak tag.content then tag.content else tag.quoted := by
  have unquoted : tag.content.head? ≠ some '"' := fun quote =>
    (tag.visible _ (List.mem_of_head? quote)).2.2 rfl
  unfold ofVersionChars
  simp only [unquoted, false_or]
  rfl

/-- A tag goes back as it came, by `toVersion` and `ofVersion`, unless it is a strong one that
`LooksWeak`: then its text goes back without quotes. -/
theorem ofVersion_toVersion_text (tag : Written) :
    (tag.LooksWeak → ofVersion (toVersion tag.text) = String.ofList tag.content) ∧
      (¬ tag.LooksWeak → ofVersion (toVersion tag.text) = tag.text) := by
  unfold ofVersion toVersion Written.text Written.LooksWeak
  rw [String.toList_ofList, String.toList_ofList, tag.versionChars_chars]
  cases weak : tag.weak with
  | true =>
    have whole : ofVersionChars tag.chars = tag.chars :=
      if_pos (.inr (tag.isWeak_chars.trans weak))
    rw [if_pos rfl, whole]
    exact ⟨fun looks => absurd looks.1 Bool.noConfusion, fun _ => rfl⟩
  | false =>
    have plain : tag.chars = tag.quoted := by
      rw [Written.chars, weak, if_neg Bool.false_ne_true]
    rw [if_neg Bool.false_ne_true, ofVersionChars_content, plain, ← isWeak_iff]
    constructor
    · intro looks
      rw [if_pos looks.2]
    · intro differs
      rw [if_neg fun looks => differs ⟨rfl, looks⟩]

/-- A tag has its quotes beside its text. -/
theorem Written.text_ne_content (tag : Written) : String.ofList tag.content ≠ tag.text := by
  intro same
  have lengths := congrArg List.length (String.ofList_injective same)
  unfold chars quoted at lengths
  split at lengths
  all_goals
    simp only [List.length_cons, List.length_append, List.length_nil] at lengths
    omega

/-! ### Tags on the wire -/

/-- Every character of a tag is visible ASCII. -/
theorem Written.ascii (tag : Written) : ∀ c ∈ tag.chars, 0x21 ≤ c.toNat ∧ c.toNat ≤ 0x7e := by
  have inside : ∀ c ∈ tag.quoted, 0x21 ≤ c.toNat ∧ c.toNat ≤ 0x7e := by
    intro c member
    rcases List.mem_cons.mp member with rfl | member
    · decide
    · rcases List.mem_append.mp member with content | quote
      · exact ⟨(tag.visible c content).1, (tag.visible c content).2.1⟩
      · cases List.mem_singleton.mp quote
        decide
  unfold chars
  split
  · exact List.forall_mem_cons.mpr ⟨by decide, List.forall_mem_cons.mpr ⟨by decide, inside⟩⟩
  · exact inside

/-- A text of visible ASCII characters may stand in a header. -/
theorem ifMatchOf_of_ascii {request : Request} {version : String}
    (expects : request.ifMatch? = some version)
    (ascii : ∀ c ∈ (ofVersion version).toList, 0x21 ≤ c.toNat ∧ c.toNat ≤ 0x7e) :
    Http.ifMatchOf request = .ok (some (ofVersion version)) := by
  have sendable : (ofVersion version).toList.all Http.isHeaderChar := by
    refine List.all_eq_true.mpr fun c member => ?_
    obtain ⟨least, most⟩ := ascii c member
    have bounds : 0x20 ≤ c.toNat ∧ c.toNat ≠ 0x7f := by omega
    simp [Http.isHeaderChar, bounds]
  unfold Http.ifMatchOf
  rw [expects]
  exact if_pos sendable

/-- A response that `receive` receives names the version of the tag that it came with. -/
theorem version_of_receive {wire : Http.WireResponse} {response : Response}
    (tagged : wire.entityTag = some tag.text) (received : Http.receive wire = .ok response) :
    response.version = some (toVersion tag.text) := by
  obtain ⟨body, -, same⟩ := bind_eq_ok.mp received
  cases same
  have readable : Http.readableTag tag.text = some tag.text := by
    refine if_pos (List.all_eq_true.mpr fun c member => ?_)
    rw [Written.text, String.toList_ofList] at member
    have below := (tag.ascii c member).2
    simp only [decide_eq_true_eq]
    omega
  rw [Response.version, tagged, Option.bind_some, readable, Option.map_some]

/-- A tag that is read as a version and written again is the tag that came, unless it
`LooksWeak`: a strong one whose text begins like the mark of a weak one. So it is over the wire: a
request that expects the version which a response named bears the tag of the response
(`Http.ifMatchOf`), and in the one exception the text of the tag without its quotes. -/
theorem tag_returns_iff (tag : Written) :
    (ofVersion (toVersion tag.text) = tag.text ↔ ¬ tag.LooksWeak) ∧
      ∀ (wire : Http.WireResponse) (response : Response) (request : Request),
        wire.entityTag = some tag.text → Http.receive wire = .ok response →
        request.ifMatch? = response.version →
        (¬ tag.LooksWeak → Http.ifMatchOf request = .ok (some tag.text)) ∧
        (tag.LooksWeak → Http.ifMatchOf request = .ok (some (String.ofList tag.content)) ∧
          String.ofList tag.content ≠ tag.text) := by
  obtain ⟨bare, whole⟩ := ofVersion_toVersion_text tag
  refine ⟨⟨fun returns looks => ?_, whole⟩, fun wire response request tagged received expects => ?_⟩
  · exact tag.text_ne_content ((bare looks).symm.trans returns)
  · rw [version_of_receive tagged received] at expects
    have bears := ifMatchOf_of_ascii expects
    constructor
    · intro differs
      rw [whole differs] at bears
      refine bears fun c member => ?_
      rw [Written.text, String.toList_ofList] at member
      exact tag.ascii c member
    · intro looks
      rw [bare looks] at bears
      refine ⟨bears fun c member => ?_, tag.text_ne_content⟩
      rw [String.toList_ofList] at member
      exact ⟨(tag.visible c member).1, (tag.visible c member).2.1⟩

/-- A strong tag whose text looks like a weak tag. -/
def Written.misleading : Written where
  weak := false
  content := ['W', '/', 'x']
  visible := List.forall_mem_cons.mpr ⟨by decide, List.forall_mem_cons.mpr
    ⟨by decide, List.forall_mem_singleton.mpr (by decide)⟩⟩

/-- The request that expects the version which came with the misleading tag bears a text
that is no tag at all. -/
theorem tag_returns_iff_misleading :
    Http.receive ⟨204, some "\"W/x\"", []⟩ = .ok ⟨204, some "\"W/x\"", none⟩ ∧
      Http.ifMatchOf (.delete "todo" "1" (some "W/x")) = .ok (some "W/x") ∧
      ofVersion (toVersion "\"W/x\"") ≠ "\"W/x\"" := by
  have received : Http.receive ⟨204, some "\"W/x\"", []⟩ = .ok ⟨204, some "\"W/x\"", none⟩ := rfl
  have looks : Written.misleading.LooksWeak := ⟨rfl, ⟨['x'], rfl⟩⟩
  obtain ⟨returns, onTheWire⟩ := tag_returns_iff Written.misleading
  obtain ⟨-, bare⟩ := onTheWire ⟨204, some "\"W/x\"", []⟩ _ (.delete "todo" "1" (some "W/x")) rfl
    received rfl
  exact ⟨received, (bare looks).1, fun same => returns.mp same looks⟩

end EntityTag

end OfflineSync
