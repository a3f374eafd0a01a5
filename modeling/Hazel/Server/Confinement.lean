import Hazel.Lib.DotSegments
import Hazel.Server.Routes

/-!
# What a query may reach

The lookup of `query` on the file-system backend, read as a path from the
storage directory. The handler passes the segments of the request's path on as
they are, so the lookup is confined exactly when the request's path is.
-/

namespace Hazel.Routes

open Query Http DotSegments

/-- How a file system follows a segment. -/
def segmentMove (seg : List Char) : Move :=
  if seg = [] ∨ seg = ['.'] then .stay
  else if seg = ['.', '.'] then .up
  else .down

theorem query_consulted (rt : Runtime) (storage : StorageService) (path : String)
    (blobs : String → BlobResult) :
    (query rt storage path).consulted blobs = [queryString storage path] := by
  rw [query, Prog.consulted_lookup_bind]
  rcases blobs (queryString storage path) with p | e | _ | _ | ⟨contentType, data⟩ <;> rfl

/-- Splitting and joining again changes nothing. -/
theorem join_segments (path : String) : join (segments path) = path := by
  rw [join, segments, List.intercalate_splitOn, String.ofList_toList]

theorem queryString_filesystem (fs : Remi.Fs.StorageConfig) (path : String) :
    queryString (.filesystem fs) path = "./" ++ trimSlashes path := by
  rw [queryString, join_segments]

/-- A name without slashes in front of a path is its first segment. -/
theorem segments_entry (name path : String) (h : '/' ∉ name.toList) :
    segments (name ++ "/" ++ path) = name.toList :: segments path := by
  have hchars : (name ++ "/" ++ path).toList = name.toList ++ '/' :: path.toList := by simp
  rw [segments, hchars, List.splitOn_append_cons_self, List.splitOn_eq_singleton h]
  rfl

theorem segments_dotSlash (path : String) : segments ("./" ++ path) = ['.'] :: segments path :=
  segments_entry "." path (by decide)

/-- The slashes that are trimmed make empty segments, which stay where they
are. -/
theorem confined_trimSlashes (path : String) :
    Confined segmentMove (segments (trimSlashes path)) ↔ Confined segmentMove (segments path) := by
  simp only [segments, trimSlashes, String.toList_ofList]
  induction path.toList with
  | nil => rfl
  | cons c chars ih =>
    by_cases hslash : c = '/'
    · subst hslash
      have hsplit : ('/' :: chars).splitOn '/' = [] :: chars.splitOn '/' :=
        List.splitOn_append_cons_self [] chars
      rw [List.dropWhile_cons_of_pos (by decide), ih, hsplit]
      exact (confined_cons_of_stay rfl).symm
    · rw [List.dropWhile_cons_of_neg (by simpa using hslash)]

theorem confined_queryString (fs : Remi.Fs.StorageConfig) (path : String) :
    Confined segmentMove (segments (queryString (.filesystem fs) path)) ↔
      Confined segmentMove (segments path) := by
  rw [queryString_filesystem, segments_dotSlash, confined_cons_of_stay rfl,
    confined_trimSlashes]

/-- Every lookup of `query` stays inside the storage directory exactly when the
lexical normal form of the request's path has no `..` left. -/
theorem query_confined_iff (rt : Runtime) (fs : Remi.Fs.StorageConfig) (path : String)
    (blobs : String → BlobResult) :
    (∀ lookup ∈ (query rt (.filesystem fs) path).consulted blobs,
      Confined segmentMove (segments lookup)) ↔
    ∀ seg ∈ normalize segmentMove (segments path), seg ≠ ['.', '.'] := by
  have hup (seg : List Char) : segmentMove seg ≠ .up ↔ seg ≠ ['.', '.'] := by
    unfold segmentMove
    split_ifs with hstay hdots
    · exact iff_of_true (by decide) fun h => by simp [h] at hstay
    · exact iff_of_false (fun h => h rfl) fun h => h hdots
    · exact iff_of_true (by decide) hdots
  simp only [query_consulted, List.mem_singleton, forall_eq]
  rw [confined_queryString, confined_iff_normalize]
  exact forall₂_congr fun seg _ => hup seg

/-- A confined request is resolved to the storage directory or below it. -/
theorem resolve_queryString (fs : Remi.Fs.StorageConfig) (path : String)
    (h : Confined segmentMove (segments path)) (directory : List (List Char)) :
    directory <:+ resolve segmentMove directory (segments (queryString (.filesystem fs) path)) := by
  rw [resolve_of_confined ((confined_queryString fs path).mpr h)]
  exact List.suffix_append _ _

/-- A client asks for a file above the storage directory. -/
theorem query_escapes :
    queryString (.filesystem ⟨"./data"⟩) "../etc/passwd" = "./../etc/passwd" ∧
      ¬ Confined segmentMove (segments "./../etc/passwd") := by
  refine ⟨by decide, fun h => ?_⟩
  have hprefix : [['.'], ['.', '.']] <+: segments "./../etc/passwd" :=
    ⟨[['e', 't', 'c'], ['p', 'a', 's', 's', 'w', 'd']], by decide⟩
  exact absurd (h _ hprefix) (by decide)

end Hazel.Routes
