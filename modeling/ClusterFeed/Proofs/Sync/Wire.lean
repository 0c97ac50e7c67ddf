import ClusterFeed.Proofs.Resource.Wire
import ClusterFeed.Sync.Message

/-!
# Messages on the wire

Requests to the index and its answers are read back from what is written of them. What an answer
may leave out is written only when it is there.
-/

namespace ClusterFeed.Sync

open Json

namespace Request

/-- The record of a request. -/
def layout : Layout :=
  .record [("upserts", .list Snapshot.layout), ("deletes", .plain), ("isResync", .plain)]

/-- The snapshots of the request can be told. -/
def InRange (r : Request) : Prop := ∀ s ∈ r.upserts, s.InRange

theorem carries : Carries 4 layout toJson decode InRange where
  spellable r hr := by
    have hupserts := Snapshot.carries.list.spellable r.upserts hr
    have hdeletes := carries_texts.spellable r.deletes trivial
    rw [toJson, spellable_obj]
    exact List.forall_mem_cons.mpr ⟨hupserts, List.forall_mem_cons.mpr ⟨hdeletes,
      List.forall_mem_singleton.mpr (spellable_bool r.isResync)⟩⟩
  reads r hr p hp depth hdepth := by
    obtain ⟨slot, hroom, hrecord, hslot⟩ := record?_of_varied (by simp) hp hdepth
    have hupserts := Snapshot.carries.list.required (a := r.upserts) hr (by omega)
      (hslot "upserts" (by simp))
    have hdeletes :=
      carries_texts.required (a := r.deletes) trivial (by omega) (hslot "deletes" (by simp))
    have hresync :=
      carries_bool.required (a := r.isResync) trivial (by omega) (hslot "isResync" (by simp))
    refine Option.bind_eq_some_iff.mpr ⟨_, hrecord, ?_⟩
    simp only [List.map, hupserts, hdeletes, hresync]
    rfl

end Request

namespace Counts

/-- The record of counts. -/
def layout : Layout := .record [("upserted", .plain), ("deleted", .plain)]

/-- The counts have 64 bits. -/
def InRange (c : Counts) : Prop := IsNat64 c.upserted ∧ IsNat64 c.deleted

theorem carries : Carries 1 layout toJson decode InRange where
  spellable c _ := by simp [toJson]
  reads c hc p hp depth hdepth := by
    obtain ⟨slot, hroom, hrecord, hslot⟩ := record?_of_varied (by simp) hp hdepth
    have hupserted := carries_nat64.orElse hc.1 (by omega) (hslot "upserted" (by simp)) 0
    have hdeleted := carries_nat64.orElse hc.2 (by omega) (hslot "deleted" (by simp)) 0
    refine Option.bind_eq_some_iff.mpr ⟨_, hrecord, ?_⟩
    simp only [List.map, hupserted, hdeleted]
    rfl

end Counts

namespace Failure

/-- The record of a failure. -/
def layout : Layout := .record [("id", .plain), ("error", .plain)]

theorem carries : Carries 1 layout toJson decode fun _ => True where
  spellable f _ := by simp [toJson]
  reads f _ p hp depth hdepth := by
    obtain ⟨slot, hroom, hrecord, hslot⟩ := record?_of_varied (by simp) hp hdepth
    have hid := carries_text.required (a := f.id) trivial (by omega) (hslot "id" (by simp))
    have herror := carries_text.required (a := f.error) trivial (by omega) (hslot "error" (by simp))
    refine Option.bind_eq_some_iff.mpr ⟨_, hrecord, ?_⟩
    simp only [List.map, hid, herror]
    rfl

end Failure

namespace FailureDetails

/-- The record of details. -/
def layout : Layout :=
  .record [("upserted", .plain), ("deleted", .plain), ("failures", .list Failure.layout)]

/-- The counts of the details have 64 bits. -/
def InRange (d : FailureDetails) : Prop := IsNat64 d.upserted ∧ IsNat64 d.deleted

theorem carries : Carries 3 layout toJson decode InRange where
  spellable d _ := by
    have hfailures := Failure.carries.list.spellable d.failures fun _ _ => trivial
    rw [toJson, spellable_obj]
    exact List.forall_mem_cons.mpr ⟨spellable_nat d.upserted, List.forall_mem_cons.mpr
      ⟨spellable_nat d.deleted, List.forall_mem_singleton.mpr hfailures⟩⟩
  reads d hd p hp depth hdepth := by
    obtain ⟨slot, hroom, hrecord, hslot⟩ := record?_of_varied (by simp) hp hdepth
    have hupserted := carries_nat64.orElse hd.1 (by omega) (hslot "upserted" (by simp)) 0
    have hdeleted := carries_nat64.orElse hd.2 (by omega) (hslot "deleted" (by simp)) 0
    have hfailures := Failure.carries.list.orElse (a := d.failures) (fun _ _ => trivial) (by omega)
      (hslot "failures" (by simp)) []
    refine Option.bind_eq_some_iff.mpr ⟨_, hrecord, ?_⟩
    simp only [List.map, hupserted, hdeleted, hfailures]
    rfl

end FailureDetails

namespace ErrorBody

/-- The record of an error. -/
def layout : Layout :=
  .record [("code", .plain), ("message", .plain), ("details", FailureDetails.layout)]

/-- The details of the error, if it has any, are in range. -/
def InRange (e : ErrorBody) : Prop := ∀ d ∈ e.details, d.InRange

theorem toJson_eq (e : ErrorBody) : e.toJson = .obj (present [("code", some (.str e.code)),
    ("message", some (.str e.message)), ("details", e.details.map FailureDetails.toJson)]) := by
  rw [toJson]
  cases e.details <;> rfl

theorem carries : Carries 4 layout toJson decode InRange where
  spellable e he := by
    rw [toJson_eq]
    exact spellable_present (by simpa using FailureDetails.carries.spellable_map he)
  reads e he p hp depth hdepth := by
    obtain ⟨slot, hroom, hrecord, hslot⟩ :=
      record?_of_present (by simp) (toJson_eq e) hp hdepth
    have hcode := carries_text.orElse (a := e.code) trivial (by omega) (hslot "code" (by simp)) ""
    have hmessage :=
      carries_text.orElse (a := e.message) trivial (by omega) (hslot "message" (by simp)) ""
    have hdetails := FailureDetails.carries.optional rfl he (by omega) (hslot "details" (by simp))
    refine Option.bind_eq_some_iff.mpr ⟨_, hrecord, ?_⟩
    simp only [List.map, hcode, hmessage, hdetails]
    rfl

end ErrorBody

namespace Response

/-- The record of an answer. -/
def layout : Layout :=
  .record [("success", .plain), ("data", Counts.layout), ("error", ErrorBody.layout)]

/-- The counts and the error of the answer, if it has any, are in range. -/
def InRange (r : Response) : Prop :=
  (∀ c ∈ r.data, c.InRange) ∧ ∀ e ∈ r.error, e.InRange

theorem toJson_eq (r : Response) : r.toJson = .obj (present [("success", some (.bool r.success)),
    ("data", r.data.map Counts.toJson), ("error", r.error.map ErrorBody.toJson)]) := by
  rw [toJson]
  cases r.data <;> cases r.error <;> rfl

theorem carries : Carries 5 layout toJson decode InRange where
  spellable r hr := by
    rw [toJson_eq]
    have hdata := Counts.carries.spellable_map hr.1
    have herror := ErrorBody.carries.spellable_map hr.2
    exact spellable_present (by simpa using And.intro hdata herror)
  reads r hr p hp depth hdepth := by
    obtain ⟨slot, hroom, hrecord, hslot⟩ :=
      record?_of_present (by simp) (toJson_eq r) hp hdepth
    have hsuccess :=
      carries_bool.required (a := r.success) trivial (by omega) (hslot "success" (by simp))
    have hdata := Counts.carries.optional rfl hr.1 (by omega) (hslot "data" (by simp))
    have herror := ErrorBody.carries.optional rfl hr.2 (by omega) (hslot "error" (by simp))
    refine Option.bind_eq_some_iff.mpr ⟨_, hrecord, ?_⟩
    simp only [List.map, hsuccess, hdata, herror]
    rfl

end Response

end ClusterFeed.Sync
