import ClusterFeed.Control.Config
import ClusterFeed.Proofs.Sync.Wire

/-!
# Everything on the wire

What a configuration asks for and how it is doing are read back from what is written of them, and so
is everything else that is sent or stored: no text, no count and no missing field is lost on the
way.
-/

namespace ClusterFeed

open Json

namespace Cluster.SecretKey

/-- The record of the place of a token. -/
def layout : Layout := .record [("name", .plain), ("key", .plain)]

theorem carries : Carries 1 layout toJson decode fun _ => True where
  spellable k _ := by simp [toJson]
  reads k _ p hp depth hdepth := by
    obtain ⟨slot, hroom, hrecord, hslot⟩ := record?_of_varied (by simp) hp hdepth
    have hname := carries_text.required (a := k.name) trivial (by omega) (hslot "name" (by simp))
    have hkey := carries_text.required (a := k.key) trivial (by omega) (hslot "key" (by simp))
    refine Option.bind_eq_some_iff.mpr ⟨_, hrecord, ?_⟩
    simp only [List.map, hname, hkey]
    rfl

end Cluster.SecretKey

namespace Control

open Cluster (SecretKey)

namespace SyncSpec

/-- The record of what a configuration asks for. -/
def layout : Layout :=
  .record [("endpoint", .plain), ("debounceWindowSeconds", .plain),
    ("resyncIntervalMinutes", .plain), ("authSecretRef", SecretKey.layout)]

/-- The times, if they are given, have 64 bits. -/
def InRange (s : SyncSpec) : Prop :=
  (∀ n ∈ s.debounceSeconds, IsInt64 n) ∧ ∀ n ∈ s.resyncMinutes, IsInt64 n

theorem toJson_eq (s : SyncSpec) : s.toJson = .obj (present [("endpoint", some (.str s.endpoint)),
    ("debounceWindowSeconds", s.debounceSeconds.map Json.int),
    ("resyncIntervalMinutes", s.resyncMinutes.map Json.int),
    ("authSecretRef", s.auth.map SecretKey.toJson)]) := by
  rw [toJson]
  cases s.debounceSeconds <;> cases s.resyncMinutes <;> cases s.auth <;> rfl

theorem carries : Carries 2 layout toJson decode InRange where
  spellable s _ := by
    rw [toJson_eq]
    have hauth : ∀ k : SecretKey, k.toJson.Spellable := fun k =>
      SecretKey.carries.spellable k trivial
    exact spellable_present (by simp [hauth])
  reads s hs p hp depth hdepth := by
    obtain ⟨slot, hroom, hrecord, hslot⟩ := record?_of_present (by simp) (toJson_eq s) hp hdepth
    have hendpoint :=
      carries_text.required (a := s.endpoint) trivial (by omega) (hslot "endpoint" (by simp))
    have hdebounce :=
      carries_int64.optional rfl hs.1 (by omega) (hslot "debounceWindowSeconds" (by simp))
    have hresync :=
      carries_int64.optional rfl hs.2 (by omega) (hslot "resyncIntervalMinutes" (by simp))
    have hauth := SecretKey.carries.optional (o := s.auth) rfl (fun _ _ => trivial) (by omega)
      (hslot "authSecretRef" (by simp))
    refine Option.bind_eq_some_iff.mpr ⟨_, hrecord, ?_⟩
    simp only [List.map, hendpoint, hdebounce, hresync, hauth]
    rfl

end SyncSpec

namespace Condition

/-- The record of a condition. -/
def layout : Layout :=
  .record [("type", .plain), ("status", .plain), ("reason", .plain), ("message", .plain),
    ("lastTransitionTime", .plain)]

theorem carries : Carries 1 layout toJson decode fun _ => True where
  spellable c _ := by simp [toJson]
  reads c _ p hp depth hdepth := by
    obtain ⟨slot, hroom, hrecord, hslot⟩ := record?_of_varied (by simp) hp hdepth
    have habout := carries_text.required (a := c.about) trivial (by omega) (hslot "type" (by simp))
    have hstatus :=
      carries_text.required (a := c.status) trivial (by omega) (hslot "status" (by simp))
    have hreason :=
      carries_text.required (a := c.reason) trivial (by omega) (hslot "reason" (by simp))
    have hmessage :=
      carries_text.required (a := c.message) trivial (by omega) (hslot "message" (by simp))
    have hsince :=
      carries_text.required (a := c.since) trivial (by omega) (hslot "lastTransitionTime" (by simp))
    refine Option.bind_eq_some_iff.mpr ⟨_, hrecord, ?_⟩
    simp only [List.map, habout, hstatus, hreason, hmessage, hsince]
    rfl

end Condition

namespace SyncStatus

/-- The record of a status. -/
def layout : Layout :=
  .record [("active", .plain), ("watchedResources", .plain), ("lastResyncTime", .plain),
    ("lastResyncCount", .plain), ("observedGeneration", .plain),
    ("conditions", .list Condition.layout)]

/-- The numbers of the status have 64 bits. -/
structure InRange (s : SyncStatus) : Prop where
  watched : IsInt64 s.watched
  count : ∀ n ∈ s.lastResyncCount, IsInt64 n
  generation : ∀ n ∈ s.observedGeneration, IsInt64 n

theorem toJson_eq (s : SyncStatus) : s.toJson = .obj (present [("active", some (.bool s.active)),
    ("watchedResources", some (.int s.watched)), ("lastResyncTime", s.lastResyncTime.map Json.str),
    ("lastResyncCount", s.lastResyncCount.map Json.int),
    ("observedGeneration", s.observedGeneration.map Json.int),
    ("conditions", some (.arr (s.conditions.map Condition.toJson)))]) := by
  rw [toJson]
  cases s.lastResyncTime <;> cases s.lastResyncCount <;> cases s.observedGeneration <;> rfl

theorem carries : Carries 3 layout toJson decode InRange where
  spellable s _ := by
    rw [toJson_eq]
    have hcondition : ∀ c : Condition, c.toJson.Spellable := fun c =>
      Condition.carries.spellable c trivial
    exact spellable_present (by simp [hcondition])
  reads s hs p hp depth hdepth := by
    obtain ⟨slot, hroom, hrecord, hslot⟩ := record?_of_present (by simp) (toJson_eq s) hp hdepth
    have hactive :=
      carries_bool.required (a := s.active) trivial (by omega) (hslot "active" (by simp))
    have hwatched :=
      carries_int64.required hs.watched (by omega) (hslot "watchedResources" (by simp))
    have htime := carries_text.optional (o := s.lastResyncTime) rfl (fun _ _ => trivial) (by omega)
      (hslot "lastResyncTime" (by simp))
    have hcount :=
      carries_int64.optional rfl hs.count (by omega) (hslot "lastResyncCount" (by simp))
    have hgeneration :=
      carries_int64.optional rfl hs.generation (by omega) (hslot "observedGeneration" (by simp))
    have hconditions := Condition.carries.list.orElse (a := s.conditions) (fun _ _ => trivial)
      (by omega) (hslot "conditions" (by simp)) []
    refine Option.bind_eq_some_iff.mpr ⟨_, hrecord, ?_⟩
    simp only [List.map, hactive, hwatched, htime, hcount, hgeneration, hconditions]
    rfl

end SyncStatus

end Control

/-- What is sent or stored is read back as it was, also when the fields of its records are permuted
or unknown fields are added to them. -/
theorem wire_roundTrips :
    RoundTrips Identifier.layout Identifier.toJson Identifier.decode (fun _ => True) ∧
    RoundTrips Snapshot.layout Snapshot.toJson Snapshot.decode Snapshot.InRange ∧
    RoundTrips Change.layout Change.toJson Change.decode Change.InRange ∧
    RoundTrips Gvr.layout Gvr.toJson Gvr.decode (fun _ => True) ∧
    RoundTrips WatchedType.layout WatchedType.toJson WatchedType.decode (fun _ => True) ∧
    RoundTrips Sync.Request.layout Sync.Request.toJson Sync.Request.decode Sync.Request.InRange ∧
    RoundTrips Sync.ErrorBody.layout Sync.ErrorBody.toJson Sync.ErrorBody.decode
      Sync.ErrorBody.InRange ∧
    RoundTrips Sync.Response.layout Sync.Response.toJson Sync.Response.decode
      Sync.Response.InRange ∧
    RoundTrips Control.SyncSpec.layout Control.SyncSpec.toJson Control.SyncSpec.decode
      Control.SyncSpec.InRange ∧
    RoundTrips Control.SyncStatus.layout Control.SyncStatus.toJson Control.SyncStatus.decode
      Control.SyncStatus.InRange :=
  ⟨Identifier.carries.roundTrips (by decide), Snapshot.carries.roundTrips (by decide),
    Change.carries.roundTrips (by decide), Gvr.carries.roundTrips (by decide),
    WatchedType.carries.roundTrips (by decide), Sync.Request.carries.roundTrips (by decide),
    Sync.ErrorBody.carries.roundTrips (by decide), Sync.Response.carries.roundTrips (by decide),
    Control.SyncSpec.carries.roundTrips (by decide),
    Control.SyncStatus.carries.roundTrips (by decide)⟩

/-- A snapshot with a label and a fraction of a second. -/
def labelledSnapshot : Snapshot :=
  ⟨"web", "default", "Pod", "v1", (∅ : TextMap String).insert "tier" "\n\x01é", ∅,
    ⟨1700000000, 250000000⟩⟩

/-- The fields of the snapshot from the last to the first, behind one that nobody knows. -/
def reversedSnapshot : Json :=
  .obj (("note", .arr [.null, .obj []]) :: (labelledSnapshot.timelessFields ++
    [("timestamp", Json.str labelledSnapshot.timestamp.render)]).reverse)

theorem reads_reversedSnapshot : labelledSnapshot.InRange ∧
    Snapshot.decode.read? (Text.unitsOf (render reversedSnapshot)) = some labelledSnapshot := by
  have hrange : labelledSnapshot.InRange := ⟨by decide, by decide, by decide⟩
  have hspell : reversedSnapshot.Spellable := by
    have hlabels := carries_map.spellable labelledSnapshot.labels trivial
    have hannotations := carries_map.spellable labelledSnapshot.annotations trivial
    simp [reversedSnapshot, Snapshot.timelessFields, hlabels, hannotations]
  have hunknown : ∀ f ∈ [("note", Json.arr [.null, .obj []])], f.1 ∉
      ["name", "namespace", "kind", "apiVersion", "labels", "annotations", "timestamp"] := by
    simp
  -- the fields are those of the printed record and the unknown one, in another order
  have hvaried : Varied Snapshot.layout labelledSnapshot.toJson.phrase reversedSnapshot.phrase :=
    .of_perm hunknown
      (((List.reverse_perm _).cons _).trans (List.perm_append_singleton _ _).symm)
  exact ⟨hrange, (wire_roundTrips.2.1 labelledSnapshot hrange).2 _ _ hvaried
    (spells_render hspell)⟩

end ClusterFeed
