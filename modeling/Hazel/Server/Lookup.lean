import Hazel.Server.Confinement

/-!
# Which object a path names

The lookup of `query` is a prefix of the backend and the request's path without
its leading slashes. Splitting the path and joining it again loses nothing, so
that a path names the same object to every backend, and an object has no other
path than its name behind slashes.
-/

namespace Hazel.Routes

open Query Http

/-- What `query` puts before the name of an object. -/
def backendPrefix : StorageService → String
  | .filesystem _ => "./"
  | _ => "/"

/-- The segment that the prefix makes of a lookup. -/
def rootSegment : StorageService → List Char
  | .filesystem _ => ['.']
  | _ => []

/-- `n` slashes. -/
def slashes (n : Nat) : String := String.ofList (List.replicate n '/')

/-- `rest` is `path` without the slashes at its front, all of them. -/
structure Trimmed (path rest : String) : Prop where
  dropped : ∃ n, path = slashes n ++ rest
  maximal : rest.toList.head? ≠ some '/'

/-- The lookups that a backend gets for a path are its own way of asking for the
object that the path names. -/
structure Faithful (lookups : StorageService → String → List String) : Prop where
  looksUp : ∀ storage path, ∃ rest, Trimmed path rest ∧
    lookups storage path = [backendPrefix storage ++ rest]
  keepsSegments : ∀ storage path rest, lookups storage path = [backendPrefix storage ++ rest] →
    segments (backendPrefix storage ++ rest) = rootSegment storage :: segments rest ∧
      ∃ n, segments path = List.replicate n [] ++ segments rest
  injective : ∀ storage path other, lookups storage path = lookups storage other ↔
    ∃ rest, Trimmed path rest ∧ Trimmed other rest
  sameObject : ∀ storage other path rest,
    lookups storage path = [backendPrefix storage ++ rest] ↔
      lookups other path = [backendPrefix other ++ rest]
  noSlash : ∀ storage path rest, lookups storage path = [backendPrefix storage ++ rest] →
    rest.toList.head? ≠ some '/'
  reaches : ∀ storage key n, key.toList.head? ≠ some '/' →
    lookups storage (slashes n ++ key) = [backendPrefix storage ++ key]

section Trimming

theorem slashes_succ_append (n : Nat) (rest : String) :
    slashes (n + 1) ++ rest = "/" ++ (slashes n ++ rest) := by
  apply String.toList_injective
  simp [slashes, List.replicate_succ]

theorem trimSlashes_slash (path : String) : trimSlashes ("/" ++ path) = trimSlashes path := by
  simp [trimSlashes]

theorem trimSlashes_slashes (n : Nat) (path : String) :
    trimSlashes (slashes n ++ path) = trimSlashes path := by
  induction n with
  | zero => simp [slashes]
  | succ n ih => rw [slashes_succ_append, trimSlashes_slash, ih]

theorem trimSlashes_eq_self {path : String} (h : path.toList.head? ≠ some '/') :
    trimSlashes path = path := by
  apply String.toList_injective
  rw [trimSlashes, String.toList_ofList]
  cases hchars : path.toList with
  | nil => rfl
  | cons c chars =>
    rw [hchars] at h
    exact List.dropWhile_cons_of_neg (by simpa using h)

theorem trimmed_trimSlashes (path : String) : Trimmed path (trimSlashes path) where
  dropped := by
    refine ⟨(path.toList.takeWhile (· = '/')).length, String.toList_injective ?_⟩
    have hslashes : path.toList.takeWhile (· = '/') =
        List.replicate (path.toList.takeWhile (· = '/')).length '/' := by
      refine List.eq_replicate_of_mem fun c hc => ?_
      simpa using List.all_eq_true.mp List.all_takeWhile c hc
    rw [String.toList_append, slashes, trimSlashes, String.toList_ofList, String.toList_ofList,
      ← hslashes, List.takeWhile_append_dropWhile]
  maximal := by
    rw [trimSlashes, String.toList_ofList]
    intro hhead
    have hslash := List.head?_dropWhile_not (fun c => decide (c = '/')) path.toList
    rw [hhead] at hslash
    simp at hslash

theorem trimmed_iff {path rest : String} : Trimmed path rest ↔ rest = trimSlashes path := by
  constructor
  · rintro ⟨⟨n, rfl⟩, hmaximal⟩
    rw [trimSlashes_slashes, trimSlashes_eq_self hmaximal]
  · rintro rfl
    exact trimmed_trimSlashes path

end Trimming

section Segments

theorem segments_slash (path : String) : segments ("/" ++ path) = [] :: segments path :=
  segments_entry "" path (by decide)

/-- Slashes at the front of a path make as many empty segments. -/
theorem segments_slashes (n : Nat) (path : String) :
    segments (slashes n ++ path) = List.replicate n [] ++ segments path := by
  induction n with
  | zero => simp [slashes]
  | succ n ih => rw [slashes_succ_append, segments_slash, ih, List.replicate_succ, List.cons_append]

theorem segments_backendPrefix (storage : StorageService) (path : String) :
    segments (backendPrefix storage ++ path) = rootSegment storage :: segments path := by
  cases storage with
  | filesystem => exact segments_dotSlash path
  | azure => exact segments_slash path
  | s3 => exact segments_slash path

theorem queryString_eq (storage : StorageService) (path : String) :
    queryString storage path = backendPrefix storage ++ trimSlashes path := by
  cases storage with
  | filesystem fs => exact queryString_filesystem fs path
  | azure => exact congrArg ("/" ++ ·) (join_segments (trimSlashes path))
  | s3 => exact congrArg ("/" ++ ·) (join_segments (trimSlashes path))

end Segments

theorem queryString_eq_iff {storage : StorageService} {path rest : String} :
    queryString storage path = backendPrefix storage ++ rest ↔ Trimmed path rest := by
  rw [queryString_eq, String.append_right_inj, trimmed_iff, eq_comm]

/-- Every decoded path is mapped to the object it names, by every backend. -/
theorem query_faithful (rt : Runtime) (blobs : String → BlobResult) :
    Faithful fun storage path => (query rt storage path).consulted blobs := by
  simp only [query_consulted]
  constructor
  all_goals simp only [List.cons.injEq, and_true, queryString_eq_iff]
  case looksUp =>
    exact fun _ path => ⟨trimSlashes path, trimmed_trimSlashes path, trimmed_trimSlashes path⟩
  case keepsSegments =>
    rintro storage path rest ⟨⟨n, rfl⟩, -⟩
    exact ⟨segments_backendPrefix storage rest, n, segments_slashes n rest⟩
  case injective =>
    intro storage path other
    rw [queryString_eq, queryString_eq, String.append_right_inj]
    simp only [trimmed_iff]
    exact ⟨fun h => ⟨_, rfl, h⟩, fun ⟨_, hpath, hother⟩ => hpath ▸ hother⟩
  case sameObject => exact fun _ _ _ _ => trivial
  case noSlash => exact fun _ _ _ h => h.maximal
  case reaches => exact fun _ _ n h => ⟨⟨n, rfl⟩, h⟩

end Hazel.Routes
