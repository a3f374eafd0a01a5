import Hazel.Config.Storage

/-!
# Overlaying one storage configuration on another

What the two hand-written merges leave of the overlaid value `me` and of the
overlay `other`.
-/

namespace Hazel.Storage

namespace S3

/-- `merged` holds what an overlay of `other` on `me` is for, the key prefix left
aside: an optional field of `other` wins when it is given, a flag is set when
either side sets it, and the required texts are merged as texts are. -/
structure OverlaysButPrefix (mergeText : String → String → String)
    (me other merged : Remi.S3.StorageConfig) : Prop where
  enableSignerV4Requests : merged.enableSignerV4Requests = true ↔
    me.enableSignerV4Requests = true ∨ other.enableSignerV4Requests = true
  enforcePathAccessStyle : merged.enforcePathAccessStyle = true ↔
    me.enforcePathAccessStyle = true ∨ other.enforcePathAccessStyle = true
  defaultBucketAcl : merged.defaultBucketAcl = other.defaultBucketAcl.or me.defaultBucketAcl
  defaultObjectAcl : merged.defaultObjectAcl = other.defaultObjectAcl.or me.defaultObjectAcl
  secretAccessKey : merged.secretAccessKey = mergeText me.secretAccessKey other.secretAccessKey
  accessKeyId : merged.accessKeyId = mergeText me.accessKeyId other.accessKeyId
  appName : merged.appName = other.appName.or me.appName
  endpoint : merged.endpoint = other.endpoint.or me.endpoint
  region : merged.region = other.region.or me.region
  bucket : merged.bucket = mergeText me.bucket other.bucket

/-- Every field is overlaid. -/
structure Overlays (cr : Crates) (me other merged : Remi.S3.StorageConfig) : Prop
    extends OverlaysButPrefix cr.mergeString me other merged where
  keyPrefix : merged.keyPrefix = other.keyPrefix.or me.keyPrefix

/-- The guard of `merge_tuple!` makes no difference to its result. -/
theorem mergeTuple_eq {T : Type} [DecidableEq T] (first second : Option T) :
    mergeTuple first second = second.or first := by
  rcases first with _ | obj1 <;> rcases second with _ | obj2
  · rfl
  · rfl
  · rfl
  · by_cases h : obj1 = obj2
    · simp [mergeTuple, h]
    · simp [mergeTuple, h]

theorem onlyIfFalsy_eq_true {cr : Crates} (hflag : cr.AssignsIfFalsy) (me other : Bool) :
    cr.onlyIfFalsy me other = true ↔ me = true ∨ other = true := by
  rw [hflag]
  cases me <;> simp

theorem mergeConfig_overlaysButPrefix {cr : Crates} (hflag : cr.AssignsIfFalsy)
    (me other : Remi.S3.StorageConfig) :
    OverlaysButPrefix cr.mergeString me other (mergeConfig cr me other) where
  enableSignerV4Requests := onlyIfFalsy_eq_true hflag _ _
  enforcePathAccessStyle := onlyIfFalsy_eq_true hflag _ _
  defaultBucketAcl := mergeTuple_eq _ _
  defaultObjectAcl := mergeTuple_eq _ _
  secretAccessKey := rfl
  accessKeyId := rfl
  appName := mergeTuple_eq _ _
  endpoint := mergeTuple_eq _ _
  region := mergeTuple_eq _ _
  bucket := rfl

/-- The merge overlays every field but the key prefix, which it leaves as it
was in `me`. -/
theorem mergeConfig_overlays_iff {cr : Crates} (hflag : cr.AssignsIfFalsy)
    (me other : Remi.S3.StorageConfig) :
    Overlays cr me other (mergeConfig cr me other) ↔
      other.keyPrefix = none ∨ other.keyPrefix = me.keyPrefix := by
  constructor
  · intro h
    have hp : me.keyPrefix = other.keyPrefix.or me.keyPrefix := h.keyPrefix
    cases ho : other.keyPrefix with
    | none => exact .inl rfl
    | some keyPrefix =>
      rw [ho, Option.some_or] at hp
      exact .inr hp.symm
  · intro h
    refine ⟨mergeConfig_overlaysButPrefix hflag me other, ?_⟩
    change me.keyPrefix = other.keyPrefix.or me.keyPrefix
    rcases h with h | h
    · rw [h, Option.none_or]
    · rw [h, Option.or_self]

/-- A configuration with one bucket and the given key prefix. -/
def sampleConfig (keyPrefix : Option String) : Remi.S3.StorageConfig where
  enableSignerV4Requests := false
  enforcePathAccessStyle := false
  defaultBucketAcl := none
  defaultObjectAcl := none
  secretAccessKey := "secret"
  accessKeyId := "key"
  appName := none
  endpoint := none
  keyPrefix := keyPrefix
  region := none
  bucket := "hazel"

theorem mergeConfig_overlays_sample :
    Overlays Crates.reference (sampleConfig (some "public/")) (sampleConfig none)
      (mergeConfig Crates.reference (sampleConfig (some "public/")) (sampleConfig none)) :=
  (mergeConfig_overlays_iff (fun _ _ => rfl) _ _).mpr (.inl rfl)

/-- A key prefix given by the overlay alone is lost. -/
theorem mergeConfig_loses_keyPrefix :
    ¬ Overlays Crates.reference (sampleConfig none) (sampleConfig (some "public/"))
      (mergeConfig Crates.reference (sampleConfig none) (sampleConfig (some "public/"))) := by
  intro h
  have hp : none = some "public/" := h.keyPrefix
  cases hp

end S3

namespace Azure

open Remi.Azure (Credential CloudLocation)

/-- Two bearer tokens that differ, the one pair of credentials the merge
rebuilds under another kind. -/
def BearersDiffer (me other : Credential) : Prop :=
  ∃ old new, me = .bearer old ∧ other = .bearer new ∧ old ≠ new

theorem mergeConfig_location (cr : Crates) (me other : Remi.Azure.StorageConfig) :
    (mergeConfig cr me other).location = other.location := by
  simp only [mergeConfig]
  split <;> simp_all

theorem mergeConfig_credentials_of_bearersDiffer (cr : Crates)
    (me other : Remi.Azure.StorageConfig) (old new : String)
    (hme : me.credentials = .bearer old) (hother : other.credentials = .bearer new)
    (hne : old ≠ new) : (mergeConfig cr me other).credentials = .sasToken new := by
  simp [mergeConfig, hme, hother, hne]

theorem mergeConfig_credentials (cr : Crates) (me other : Remi.Azure.StorageConfig)
    (h : ¬ BearersDiffer me.credentials other.credentials) :
    (mergeConfig cr me other).credentials = other.credentials := by
  simp only [mergeConfig]
  split
  · simp_all
  · simp_all
  -- the arm of two bearer tokens keeps `other` only when its guard fails
  · next old new hme hother =>
    have heq : old = new := by
      by_contra hne
      exact h ⟨old, new, hme, hother, hne⟩
    simp [heq, hother]
  · simp_all
  · rfl

/-- The merge takes the overlay's credentials, location and container exactly
unless both sides hold bearer tokens and these differ. -/
theorem mergeConfig_takes_overlay_iff (cr : Crates) (me other : Remi.Azure.StorageConfig) :
    ((mergeConfig cr me other).credentials = other.credentials ∧
      (mergeConfig cr me other).location = other.location ∧
      (mergeConfig cr me other).container = cr.mergeString me.container other.container) ↔
    ¬ BearersDiffer me.credentials other.credentials := by
  constructor
  · rintro ⟨hc, -, -⟩ ⟨old, new, hme, hother, hne⟩
    rw [mergeConfig_credentials_of_bearersDiffer cr me other old new hme hother hne,
      hother] at hc
    cases hc
  · intro h
    exact ⟨mergeConfig_credentials cr me other h, mergeConfig_location cr me other, rfl⟩

/-- A new bearer token becomes a SAS token. -/
theorem mergeConfig_bearer_as_sasToken :
    let me : Remi.Azure.StorageConfig := ⟨.bearer "old", .publicCloud "acme", "hazel"⟩
    let other : Remi.Azure.StorageConfig := ⟨.bearer "new", .publicCloud "acme", "hazel"⟩
    (mergeConfig Crates.reference me other).credentials = .sasToken "new" ∧
      (mergeConfig Crates.reference me other).credentials ≠ other.credentials := by
  decide

end Azure

end Hazel.Storage
