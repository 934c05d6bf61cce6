import Mathlib.Data.List.TakeWhile
import OfflineSync.Proofs.Fallible
import OfflineSync.Web.Url

/-!
# Paths from the root

The path of an address of the web is `IsRooted`: it starts at the root, whatever the text says that
the address is read from. Dots drop the segments before them, but never the root, and where a text
has no path, the root is the path.
-/

namespace OfflineSync

namespace UrlPath

/-- Whether a path starts at the root. -/
def IsRooted (path : List Char) : Prop :=
  ['/'] <+: path

variable {path other : List Char} {source : PathSource} {kind : SchemeKind} {progress : Progress}

namespace IsRooted

/-- The root itself is rooted. -/
theorem root : IsRooted ['/'] :=
  List.prefix_rfl

theorem ne_nil (rooted : IsRooted path) : path ≠ [] := by
  rintro rfl
  exact absurd (List.prefix_nil.mp rooted) (List.cons_ne_nil _ _)

theorem length_pos (rooted : IsRooted path) : 1 ≤ path.length :=
  List.length_pos_iff.mpr rooted.ne_nil

theorem slash_mem (rooted : IsRooted path) : '/' ∈ path :=
  rooted.subset (List.mem_singleton_self _)

/-- A path that goes on is rooted as it was. -/
theorem append (rooted : IsRooted path) (more : List Char) : IsRooted (path ++ more) :=
  rooted.trans (List.prefix_append _ _)

/-- What is left of a path that is cut behind the root is rooted. -/
theorem of_prefix (rooted : IsRooted path) (front : other <+: path) (filled : other ≠ []) :
    IsRooted other :=
  List.prefix_of_prefix_length_le rooted front (List.length_pos_iff.mpr filled)

theorem take (rooted : IsRooted path) {count : Nat} (positive : 1 ≤ count) :
    IsRooted (path.take count) :=
  List.prefix_take_iff.mpr ⟨rooted, positive⟩

theorem dropLastSlash (rooted : IsRooted path) : IsRooted (dropLastSlash path) := by
  unfold UrlPath.dropLastSlash
  split
  · exact rooted
  · dsimp only
    split
    · rename_i kept
      have slash : '/' ∈ path.dropLast := List.contains_iff_mem.mp kept.1
      exact rooted.of_prefix (List.dropLast_prefix path) (List.ne_nil_of_mem slash)
    · exact rooted

theorem throughLastSlash (rooted : IsRooted path) : IsRooted (throughLastSlash path) := by
  have front : UrlPath.throughLastSlash path <+: path := by
    rw [← List.reverse_suffix, UrlPath.throughLastSlash, List.reverse_reverse]
    exact List.dropWhile_suffix _
  refine rooted.of_prefix front fun empty => ?_
  -- All would be dropped only of a path without any slash.
  have dropped := List.dropWhile_eq_nil_iff.mp (List.reverse_eq_nil_iff.mp empty)
  have differs := dropped '/' (List.mem_reverse.mpr rooted.slash_mem)
  exact absurd differs (by decide)

theorem shorten (rooted : IsRooted path) : IsRooted (shorten kind path) := by
  unfold UrlPath.shorten
  split
  · exact rooted
  · dsimp only
    split
    · exact rooted
    · exact rooted.throughLastSlash

theorem withSlash (rooted : IsRooted path) : IsRooted (withSlash path) := by
  unfold UrlPath.withSlash
  split
  · exact rooted
  · exact rooted.append _

end IsRooted

/-! ### Reading on from the root -/

namespace Progress

/-- Whether a path that is being read starts at the root, with its last segment behind it. -/
structure IsRooted (progress : Progress) : Prop where
  path : UrlPath.IsRooted progress.path
  start : 1 ≤ progress.start

/-- A segment starts behind a rooted path. -/
theorem IsRooted.next (rooted : UrlPath.IsRooted path) (hosted : Bool) :
    (⟨path, path.length, hosted, false⟩ : Progress).IsRooted :=
  ⟨rooted, rooted.length_pos⟩

/-- No segment drops the root when `finishSegment` ends it. -/
theorem IsRooted.finishSegment (rooted : progress.IsRooted) (slash : Bool) :
    (finishSegment kind slash progress).IsRooted := by
  have before : UrlPath.IsRooted (progress.path.take progress.start) :=
    rooted.path.take rooted.start
  unfold UrlPath.finishSegment
  dsimp only
  split
  · split
    · exact next before.dropLastSlash.shorten.withSlash _
    · exact next before.dropLastSlash.shorten _
  · split
    · exact next before.withSlash _
    · split
      · exact next ((before.append _).append _) _
      · exact next ((before.append _).append _) _

theorem IsRooted.push (rooted : progress.IsRooted) (c : Char) :
    (push source kind progress c).IsRooted := by
  refine ⟨UrlPath.IsRooted.append ?_ _, rooted.start⟩
  split
  · exact rooted.path.append _
  · exact rooted.path

/-- Reading on from the root, however far, leads to a rooted path. -/
theorem IsRooted.readOn {text : List Char} (rooted : progress.IsRooted) :
    (readOn source kind progress text).1.IsRooted := by
  induction text generalizing progress with
  | nil => exact rooted.finishSegment false
  | cons c rest inductionHypothesis =>
    unfold UrlPath.readOn
    split
    · exact inductionHypothesis ⟨rooted.path, rooted.start⟩
    · split
      · exact inductionHypothesis (rooted.finishSegment true)
      · split
        · exact rooted.finishSegment false
        · exact inductionHypothesis (rooted.push c)

end Progress

/-- A path that is read on from the root is rooted. -/
theorem IsRooted.read {beginning text : List Char} (rooted : IsRooted beginning) :
    IsRooted (read source kind beginning text).1 := by
  unfold UrlPath.read readBehind
  dsimp only
  split
  · exact ⟨_, rfl⟩
  · exact (Progress.IsRooted.readOn (Progress.IsRooted.next rooted false)).path

end UrlPath

namespace Url

open UrlPath (IsRooted)

variable {scheme text : String} {url : Url} {rest : List Char}

/-! ### Addresses as they are read -/

/-- Behind the authority of a special scheme there is a path from the root. -/
theorem isRooted_readPathAfterAuthority (text : List Char) :
    IsRooted (readPathAfterAuthority .special text).1 := by
  unfold readPathAfterAuthority
  split
  · exact IsRooted.root
  · split
    · exact IsRooted.root.read
    · exact IsRooted.root.read

theorem scheme_readWithAuthority (read : readWithAuthority scheme rest = .ok url) :
    url.scheme = scheme := by
  obtain ⟨⟨authority, left⟩, -, same⟩ := bind_eq_ok.mp read
  cases pure_eq_ok.mp same
  rfl

theorem isRooted_readWithAuthority (read : readWithAuthority scheme rest = .ok url)
    (special : SchemeKind.ofScheme scheme = .special) : IsRooted url.path := by
  obtain ⟨⟨authority, left⟩, -, same⟩ := bind_eq_ok.mp read
  cases pure_eq_ok.mp same
  rw [special]
  exact isRooted_readPathAfterAuthority _

theorem scheme_readFileWithHost (read : readFileWithHost rest = .ok url) : url.scheme = "file" := by
  obtain ⟨host, -, same⟩ := bind_eq_ok.mp read
  split at same
  · cases same
    rfl
  · split at same
    · cases same
      rfl
    · split at same
      all_goals
        cases same
        rfl

/-- File addresses have the scheme of files. -/
theorem scheme_readFile (read : readFile rest = .ok url) : url.scheme = "file" := by
  unfold readFile at read
  dsimp only at read
  split at read
  · split at read
    · exact scheme_readFileWithHost read
    · cases read
      rfl
  · cases read
    rfl

/-- An address of the web that was read from a text by `Url.read` has a path from the root
(`IsRooted`). -/
theorem isRooted_of_read (read : Url.read text = .ok url) (special : url.kind = .special) :
    IsRooted url.path := by
  unfold Url.read readChars at read
  dsimp only at read
  split at read
  · cases read
  · rename_i scheme rest _
    split at read
    · rename_i ofSpecial
      exact isRooted_readWithAuthority read ofSpecial
    · rw [kind, scheme_readFile read] at special
      exact absurd special (by decide)
    · rename_i ofOther
      have other : url.scheme = scheme := by
        split at read
        · exact scheme_readWithAuthority read
        · cases read
          rfl
        · cases read
          rfl
      rw [kind, other, ofOther] at special
      cases special

end Url

end OfflineSync
