import OfflineSync.Proofs.Entity.Names
import OfflineSync.Proofs.Web.RootedPaths

/-!
# Segments of paths

A path is made of its `segments`, each behind a slash. A name has no character that is escaped,
dropped or cut at in a segment, and does not begin with a dot, so that appending it to a path adds
it as one segment, as it is: `pushSegment_name`. The root has one segment, which is empty, and the
first name that is appended takes its place, as `beforeNext` tells.
-/

namespace OfflineSync

namespace UrlPath

/-- The segments of a path: what stands behind each of its slashes. -/
def segments (path : List Char) : List (List Char) :=
  (path.splitOn '/').tail

/-- The path of given segments. -/
def ofSegments (segments : List (List Char)) : List Char :=
  segments.flatMap ('/' :: ·)

/-- Segments without an empty one at their end. -/
def dropEmptyLast (segments : List (List Char)) : List (List Char) :=
  if segments.getLast? = some [] then segments.dropLast else segments

/-- What a path keeps in front of a segment that `pushSegment` appends. -/
def beforeNext (path : List Char) : List Char :=
  if path = ['/'] then [] else path

variable {path front last name : List Char} {names : List (List Char)} {c : Char}

/-! ### Cutting a path -/

/-- A further slash starts a further segment. -/
theorem segments_append_slash (front : List Char) (whole : '/' ∉ name) :
    segments (front ++ '/' :: name) = segments front ++ [name] := by
  rw [segments, List.splitOn_append_cons_self, List.splitOn_eq_singleton whole,
    List.tail_append_of_ne_nil (List.splitOn_ne_nil '/' front)]
  rfl

/-- The path of segments behind another path goes on with these segments. -/
theorem segments_append_ofSegments (front : List Char) (whole : ∀ name ∈ names, '/' ∉ name) :
    segments (front ++ ofSegments names) = segments front ++ names := by
  induction names generalizing front with
  | nil => rw [ofSegments, List.flatMap_nil, List.append_nil, List.append_nil]
  | cons name names inductionHypothesis =>
    obtain ⟨first, others⟩ := List.forall_mem_cons.mp whole
    have further := inductionHypothesis (front ++ '/' :: name) others
    rw [segments_append_slash front first] at further
    simpa [ofSegments] using further

/-- Slashes between segments stand in front of all but the first. -/
theorem intercalate_cons_segments (first : List Char) (others : List (List Char)) :
    ['/'].intercalate (first :: others) = first ++ ofSegments others := by
  induction others generalizing first with
  | nil => rw [List.intercalate_singleton, ofSegments, List.flatMap_nil, List.append_nil]
  | cons next others inductionHypothesis =>
    rw [List.intercalate_cons_cons, inductionHypothesis]
    simp [ofSegments]

/-- A path from the root is made of its `segments`. -/
theorem IsRooted.ofSegments_segments (rooted : IsRooted path) :
    ofSegments (segments path) = path := by
  have cut : path.splitOn '/' = [] :: segments path := by
    obtain ⟨rest, rfl⟩ := rooted
    rw [segments, List.singleton_append, List.splitOn_cons_eq_if_modifyHead,
      if_pos (beq_self_eq_true _)]
    rfl
  have joined := intercalate_cons_segments [] (segments path)
  rw [← cut, List.intercalate_splitOn] at joined
  exact joined.symm

/-- A slash at the end has an empty segment behind it. -/
example : segments ['/', 'a', '/', 'b', '/'] = [['a'], ['b'], []] := by
  decide

/-- A path from the root ends with a segment. -/
theorem IsRooted.exists_last (rooted : IsRooted path) :
    ∃ front last, path = front ++ '/' :: last ∧ '/' ∉ last := by
  obtain ⟨back, rest, cut, whole⟩ :=
    List.eq_append_cons_of_mem (List.mem_reverse.mpr rooted.slash_mem)
  refine ⟨rest.reverse, back.reverse, ?_, fun slash => whole (List.mem_reverse.mp slash)⟩
  rw [← List.reverse_reverse path, cut]
  simp

/-- A path that ends with a filled segment is not made of slashes. -/
theorem ne_slashes (cut : path = front ++ '/' :: last) (whole : '/' ∉ last)
    (filled : last ≠ []) : path ≠ ['/'] ∧ path ≠ ['/', '/'] := by
  have among : last.head filled ∈ path := by
    rw [cut]
    exact List.mem_append_right _ (List.mem_cons_of_mem _ (List.head_mem filled))
  have letter : last.head filled ≠ '/' := fun slash => whole (slash ▸ List.head_mem filled)
  constructor
  · intro same
    exact letter (by simpa [same] using among)
  · intro same
    exact letter (by simpa [same] using among)

/-! ### Names as segments -/

/-- Letters and digits lie between the zero and the small z. -/
theorem bounds_of_isLetterOrDigit (plain : isLetterOrDigit c) :
    0x30 ≤ c.toNat ∧ c.toNat ≤ 0x7a := by
  simp only [isLetterOrDigit, isLetter, Bool.or_eq_true, Bool.and_eq_true, decide_eq_true_eq,
    Char.le_def, UInt32.le_iff_toNat_le] at plain
  have codes : 'a'.val.toNat = 0x61 ∧ 'z'.val.toNat = 0x7a ∧ 'A'.val.toNat = 0x41 ∧
      'Z'.val.toNat = 0x5a ∧ '0'.val.toNat = 0x30 ∧ '9'.val.toNat = 0x39 := by decide
  rw [Char.toNat]
  omega

/-- The characters of a name lie between the hyphen and the bar. -/
theorem bounds_of_mayFollow (follows : EntityId.mayFollow c) :
    0x2d ≤ c.toNat ∧ c.toNat ≤ 0x7c := by
  simp only [EntityId.mayFollow, Bool.or_eq_true, beq_iff_eq] at follows
  rcases follows with ((((plain | rfl) | rfl) | rfl) | rfl) | rfl
  · have bounds := bounds_of_isLetterOrDigit plain
    omega
  all_goals decide

/-- Putting a character into lower case does not lower its code. -/
theorem toNat_le_toLower (c : Char) : c.toNat ≤ c.toLower.toNat := by
  by_cases upper : c.val ≥ 'A'.val ∧ c.val ≤ 'Z'.val
  · have lowered : c.toLower.val = c.val + ('a'.val - 'A'.val) := congrArg Char.val (dif_pos upper)
    have codes : 'Z'.val.toNat = 0x5a ∧ ('a'.val - 'A'.val).toNat = 0x20 := by decide
    have bounds := UInt32.le_iff_toNat_le.mp upper.2
    rw [Char.toNat, Char.toNat, lowered, UInt32.toNat_add]
    omega
  · have kept : c.toLower = c := dif_neg upper
    rw [kept]

/-- No character of a name is dropped. -/
theorem isBreak_of_mayFollow (follows : EntityId.mayFollow c) : isBreak c = false := by
  rw [Bool.eq_false_iff]
  intro dropped
  simp only [isBreak, Bool.or_eq_true, beq_iff_eq] at dropped
  rcases dropped with (rfl | rfl) | rfl
  all_goals exact absurd follows (by decide)

/-- No character of a name is escaped in a segment. -/
theorem isEscapedInSegment_of_mayFollow (follows : EntityId.mayFollow c) :
    isEscapedInSegment .special c = false := by
  have bounds := bounds_of_mayFollow follows
  rw [Bool.eq_false_iff]
  intro escaped
  simp only [isEscapedInSegment, isEscaped, Percent.isControl, List.contains_eq_mem,
    Bool.or_eq_true, Bool.and_eq_true, decide_eq_true_eq, beq_iff_eq, List.mem_cons,
    List.not_mem_nil, or_false] at escaped
  rcases escaped with (((control | listed) | rfl) | rfl) | ⟨-, rfl⟩
  · omega
  · rcases listed with rfl | rfl | rfl | rfl | rfl | rfl | rfl | rfl | rfl
    all_goals exact absurd follows (by decide)
  all_goals exact absurd follows (by decide)

/-- A character of a name is written in a segment as it is: `encodeChar` leaves it. -/
theorem encodeChar_of_mayFollow (follows : EntityId.mayFollow c) :
    encodeChar .segment .special c = [c] := by
  have ascii : ¬ 0x7f < c.toNat := by
    have bounds := bounds_of_mayFollow follows
    omega
  simp [encodeChar, Percent.encode, isEscapedInSegment_of_mayFollow follows, ascii]

/-- A name does not mean a directory, since it begins with a letter or a digit. -/
theorem not_dots_of_wellFormed (formed : EntityId.wellFormed name) :
    isSingleDot name = false ∧ isDoubleDot name = false := by
  cases name with
  | nil => cases formed
  | cons first rest =>
    have plain := (Bool.and_eq_true_iff.mp formed).1
    have least := (bounds_of_isLetterOrDigit plain).1.trans (toNat_le_toLower first)
    have dot : first.toLower ≠ '.' := by
      intro same
      rw [same] at least
      exact absurd least (by decide)
    have percent : first.toLower ≠ '%' := by
      intro same
      rw [same] at least
      exact absurd least (by decide)
    constructor
    · simp [isSingleDot, dot, percent]
    · simp [isDoubleDot, dot, percent]

/-- A name has no slash in it. -/
theorem no_slash_of_wellFormed (formed : EntityId.wellFormed name) : '/' ∉ name :=
  fun slash => absurd (EntityId.mayFollow_of_wellFormed formed '/' slash) (by decide)

/-- What ends with a name is not the root. -/
theorem append_name_ne_root (front : List Char) (formed : EntityId.wellFormed name) :
    front ++ '/' :: name ≠ ['/'] := by
  cases name with
  | nil => cases formed
  | cons first rest =>
    intro same
    have lengths := congrArg List.length same
    simp only [List.length_append, List.length_cons, List.length_nil] at lengths
    omega

/-- A segment that is appended to a path from the root leaves it so. -/
theorem IsRooted.beforeNext_append (rooted : IsRooted path) (name : List Char) :
    IsRooted (beforeNext path ++ '/' :: name) := by
  unfold beforeNext
  split
  · exact ⟨name, rfl⟩
  · exact rooted.append _

/-- The characters of a name are added to the last segment as they are. -/
theorem readOn_name (start : Nat) (follow : ∀ c ∈ name, EntityId.mayFollow c) :
    readOn .segment .special ⟨path, start, false, false⟩ name =
      (finishSegment .special false ⟨path ++ name, start, false, false⟩, []) := by
  induction name generalizing path with
  | nil =>
    rw [List.append_nil]
    rfl
  | cons c rest inductionHypothesis =>
    obtain ⟨follows, others⟩ := List.forall_mem_cons.mp follow
    have pushed : push .segment .special ⟨path, start, false, false⟩ c =
        ⟨path ++ [c], start, false, false⟩ := by
      simp [push, encodeChar_of_mayFollow follows]
    have separates : isSeparator .segment .special c = false := rfl
    have ends : endsPath .segment c = false := rfl
    rw [readOn, isBreak_of_mayFollow follows, separates, ends, if_neg Bool.false_ne_true,
      if_neg Bool.false_ne_true, if_neg Bool.false_ne_true, pushed, inductionHypothesis others,
      List.append_assoc, List.singleton_append]

/-- A name that is read as a segment is added as it is. -/
theorem read_name (beginning : List Char) (formed : EntityId.wellFormed name) :
    UrlPath.read .segment .special beginning name = (beginning ++ name, []) := by
  have finished :
      finishSegment .special false ⟨beginning ++ name, beginning.length, false, false⟩ =
        ⟨beginning ++ name, (beginning ++ name).length, false, false⟩ := by
    obtain ⟨single, double⟩ := not_dots_of_wellFormed formed
    simp [finishSegment, single, double]
  rw [UrlPath.read, readBehind, readOn_name _ (EntityId.mayFollow_of_wellFormed formed), finished]
  rfl

end UrlPath

namespace Url

open UrlPath

variable {url : Url} {path front last : List Char} {segment : String} {names : List String}

/-! ### Appending names -/

/-- A name is appended by `pushSegment` to the path of an address of the web as one segment, as it
is. -/
theorem pushSegment_name (special : url.kind = .special) (rooted : IsRooted url.path)
    (formed : EntityId.wellFormed segment.toList) :
    url.pushSegment segment =
      { url with path := beforeNext url.path ++ '/' :: segment.toList } := by
  have proper : ¬ (segment == "." || segment == "..") = true := by
    intro dots
    rcases Bool.or_eq_true_iff.mp dots with single | double
    · exact absurd (beq_iff_eq.mp single ▸ formed) (by decide)
    · exact absurd (beq_iff_eq.mp double ▸ formed) (by decide)
  have front : (if url.path.length = 1 then url.path else url.path ++ ['/']) =
      beforeNext url.path ++ ['/'] := by
    obtain ⟨rest, begins⟩ := rooted
    rw [← begins, beforeNext]
    cases rest with
    | nil => rfl
    | cons c rest => simp
  rw [pushSegment, if_neg proper]
  dsimp only
  rw [front, special, read_name _ formed, List.append_assoc, List.singleton_append]

/-- Names are appended behind a path other than the root, each as a segment. -/
theorem foldl_pushSegment_inner (special : url.kind = .special) (rooted : IsRooted path)
    (inner : path ≠ ['/']) (formed : ∀ name ∈ names, EntityId.wellFormed name.toList) :
    names.foldl pushSegment { url with path := path } =
      { url with path := path ++ ofSegments (names.map String.toList) } := by
  induction names generalizing path with
  | nil => simp [ofSegments]
  | cons name names inductionHypothesis =>
    obtain ⟨first, others⟩ := List.forall_mem_cons.mp formed
    have pushed : ({ url with path := path } : Url).pushSegment name =
        { url with path := path ++ '/' :: name.toList } := by
      rw [@pushSegment_name { url with path := path } name special rooted first, beforeNext,
        if_neg inner]
    rw [List.foldl_cons, pushed,
      inductionHypothesis (rooted.append _) (append_name_ne_root path first) others]
    simp [ofSegments]

/-- The first name that is appended to the root takes the place of its empty segment. All
others are appended behind what is there. -/
theorem foldl_pushSegment {first : String} (special : url.kind = .special)
    (rooted : IsRooted url.path)
    (formed : ∀ name ∈ first :: names, EntityId.wellFormed name.toList) :
    (first :: names).foldl pushSegment url =
      { url with
        path := beforeNext url.path ++ ofSegments ((first :: names).map String.toList) } := by
  obtain ⟨leads, others⟩ := List.forall_mem_cons.mp formed
  rw [List.foldl_cons, pushSegment_name special rooted leads,
    foldl_pushSegment_inner special (rooted.beforeNext_append _) (append_name_ne_root _ leads)
      others]
  simp [ofSegments]

/-! ### Addresses to append to -/

/-- An empty segment at the end of a path is removed by `popEmptySegment`, but never the root. -/
theorem popEmptySegment_eq (cut : url.path = front ++ '/' :: last) (whole : '/' ∉ last) :
    url.popEmptySegment =
      if last = [] ∧ front ≠ [] then { url with path := front } else url := by
  have ends : url.path.tail.getLast? = some '/' ↔ last = [] ∧ front ≠ [] := by
    rw [cut]
    cases front with
    | nil =>
      refine iff_of_false (fun slash => whole ?_) fun both => both.2 rfl
      exact List.mem_of_getLast? slash
    | cons c front =>
      cases last with
      | nil => simp
      | cons d last =>
        refine iff_of_false (fun slash => whole ?_) fun both => List.cons_ne_nil _ _ both.1
        have back : (front ++ '/' :: d :: last).getLast? = (d :: last).getLast? := by
          simp [List.getLast?_cons]
        exact List.mem_of_getLast? (back.symm.trans slash)
  unfold popEmptySegment
  by_cases popped : last = [] ∧ front ≠ []
  · rw [if_pos (ends.mpr popped), if_pos popped, cut, popped.1, List.dropLast_concat]
  · rw [if_neg fun slash => popped (ends.mp slash), if_neg popped]

/-- Without an empty segment at its end an address still has a path from the root, and is the
same but for its path. -/
theorem exists_popEmptySegment (rooted : IsRooted url.path) :
    ∃ path, url.popEmptySegment = { url with path := path } ∧ IsRooted path := by
  obtain ⟨front, last, cut, whole⟩ := rooted.exists_last
  rw [popEmptySegment_eq cut whole]
  split
  · rename_i popped
    refine ⟨front, rfl, rooted.of_prefix ?_ popped.2⟩
    rw [cut]
    exact List.prefix_append _ _
  · exact ⟨url.path, rfl, rooted⟩

/-- The segments of a base that stay in front of appended ones are its own but for an empty one
at the end. Only where the path is two slashes, and so has two empty segments, neither stays. -/
theorem segments_beforeNext_popEmptySegment (rooted : IsRooted url.path) :
    segments (beforeNext url.popEmptySegment.path) =
      if url.path = ['/', '/'] then [] else dropEmptyLast (segments url.path) := by
  obtain ⟨front, last, cut, whole⟩ := rooted.exists_last
  have segmented : dropEmptyLast (segments url.path) =
      if last = [] then segments front else segments url.path := by
    rw [cut, segments_append_slash front whole, dropEmptyLast, List.getLast?_concat,
      List.dropLast_concat]
    simp only [Option.some_inj]
  rw [popEmptySegment_eq cut whole, segmented]
  by_cases empty : last = []
  · subst empty
    by_cases root : front = []
    · subst root
      rw [if_neg fun both => both.2 rfl, cut]
      rfl
    · -- What is left of two slashes is the root, whose place the first name takes.
      have doubled : front ++ ['/'] = ['/'] ++ ['/'] ↔ front = ['/'] :=
        List.append_left_inj ['/']
      rw [if_pos ⟨rfl, root⟩, if_pos rfl, cut, beforeNext]
      split
      · rename_i slash
        exact (if_pos (doubled.mpr slash)).symm
      · rename_i other
        exact (if_neg fun same => other (doubled.mp same)).symm
  · obtain ⟨root, doubled⟩ := ne_slashes cut whole empty
    rw [if_neg fun both => empty both.1, if_neg empty, if_neg doubled, beforeNext, if_neg root]

end Url

end OfflineSync
