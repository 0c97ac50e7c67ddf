import ClusterFeed.Sync.Client
import ClusterFeed.Proofs.Sync.Wire
import ClusterFeed.Proofs.Text.Cutting
import ClusterFeed.Proofs.Text.Octets

/-!
# What an answer means

Every status and every body come to exactly one outcome. Refused items count before the status, the
status before a body that cannot be read, and that before a request that is refused as a whole. An
error keeps no more of the body than fits, and never a part of a character.

The outcome is what `attempt` makes of an answer.
-/

namespace ClusterFeed.Sync

open Text (IsLongestStart lastPlace?)

def IsSuccess (status : Nat) : Prop := 200 ≤ status ∧ status < 300

instance (status : Nat) : Decidable (IsSuccess status) := inferInstanceAs (Decidable (_ ∧ _))

/-- The answer that a body spells. -/
def Reads (body : List UInt8) (r : Response) : Prop :=
  Response.decode.read? (Text.units body) = some r

/-- No items are refused, either because none are listed or because the body spells no answer. -/
def NoneRefused (body : List UInt8) : Prop := ∀ r, Reads body r → r.failures = []

/-- What a status and a body come to. -/
inductive Comes (status : Nat) (body : List UInt8) : Except SyncError Response → Prop where
  | refused {r : Response} (hr : Reads body r) (h : r.failures ≠ []) :
    Comes status body (.error (.partialFailure r))
  | failed {text : String} (hnone : NoneRefused body) (h : ¬ IsSuccess status)
      (htext : IsLongestStart maxErrorBody (Text.decodeLenient body) text) :
    Comes status body (.error (.status status text))
  | unreadable (hstatus : IsSuccess status) (h : ¬ ∃ r, Reads body r) :
    Comes status body (.error (.unreadable ""))
  | rejected {r : Response} (hr : Reads body r) (hnone : r.failures = [])
      (hstatus : IsSuccess status) (h : r.success = false) :
    Comes status body
      (.error (.rejected ((r.error.map (·.code)).getD "") ((r.error.map (·.message)).getD "")))
  | accepted {r : Response} (hr : Reads body r) (hnone : r.failures = [])
      (hstatus : IsSuccess status) (h : r.success = true) : Comes status body (.ok r)

/-! ## What a body spells -/

theorem Reads.unique {body : List UInt8} {r r' : Response} (h : Reads body r) (h' : Reads body r') :
    r = r' :=
  Option.some.inj (h.symm.trans h')

theorem isPartial_iff {r : Response} : r.isPartial = true ↔ r.failures ≠ [] := by
  rw [Response.isPartial, Bool.not_eq_true', ← Bool.not_eq_true, List.isEmpty_iff]

theorem Reads.noneRefused {body : List UInt8} {r : Response} (h : Reads body r)
    (hnone : r.failures = []) : NoneRefused body := by
  intro r' h'
  rw [h'.unique h]
  exact hnone

theorem noneRefused_of_none {body : List UInt8} (h : ¬ ∃ r, Reads body r) : NoneRefused body :=
  fun r hr => absurd ⟨r, hr⟩ h

/-- An answer that is written is read. -/
theorem reads_octets {r : Response} (h : r.InRange) :
    Reads (Text.octets (Json.render r.toJson)) r := by
  rw [Reads, Text.units_octets]
  exact (Response.carries.roundTrips (by decide) r h).1

/-! ## Exactly one outcome -/

variable {status : Nat} {body : List UInt8} {o : Except SyncError Response}

theorem not_isSuccess_iff : ¬ IsSuccess status ↔ status < 200 ∨ 300 ≤ status := by
  unfold IsSuccess
  omega

theorem classify_of_reads {r : Response} (hr : Reads body r) :
    classify status body =
      if r.failures ≠ [] then Except.error (.partialFailure r)
      else if ¬ IsSuccess status then
        .error (.status status (Text.truncate maxErrorBody (Text.decodeLenient body)))
      else if r.success then .ok r
      else .error
        (.rejected ((r.error.map (·.code)).getD "") ((r.error.map (·.message)).getD "")) := by
  have hread : Response.decode.read? (Text.units body) = some r := hr
  simp only [classify, hread, isPartial_iff, not_isSuccess_iff]
  rfl

theorem classify_of_unread (h : ¬ ∃ r, Reads body r) :
    classify status body =
      if ¬ IsSuccess status then
        Except.error (.status status (Text.truncate maxErrorBody (Text.decodeLenient body)))
      else .error (.unreadable "") := by
  have hread : Response.decode.read? (Text.units body) = none :=
    Option.eq_none_iff_forall_ne_some.mpr fun r hr => h ⟨r, hr⟩
  simp only [classify, hread, not_isSuccess_iff]
  rfl

/-- Every status and every body come to something. -/
theorem exists_comes (status : Nat) (body : List UInt8) : ∃ o, Comes status body o := by
  have htext := Text.isLongestStart_truncate maxErrorBody (Text.decodeLenient body)
  by_cases hread : ∃ r, Reads body r
  · obtain ⟨r, hr⟩ := hread
    by_cases hnone : r.failures = []
    · by_cases hstatus : IsSuccess status
      · cases hyes : r.success with
        | true => exact ⟨_, .accepted hr hnone hstatus hyes⟩
        | false => exact ⟨_, .rejected hr hnone hstatus hyes⟩
      · exact ⟨_, .failed (hr.noneRefused hnone) hstatus htext⟩
    · exact ⟨_, .refused hr hnone⟩
  · by_cases hstatus : IsSuccess status
    · exact ⟨_, .unreadable hstatus hread⟩
    · exact ⟨_, .failed (noneRefused_of_none hread) hstatus htext⟩

/-- What a status and a body come to is what they are classified as. -/
theorem Comes.classify_eq (h : Comes status body o) : classify status body = o := by
  cases h with
  | refused hr hsome => rw [classify_of_reads hr, if_pos hsome]
  | failed hnone hstatus htext =>
    have hcut := (Text.isLongestStart_truncate maxErrorBody (Text.decodeLenient body)).unique htext
    by_cases hread : ∃ r, Reads body r
    · obtain ⟨r, hr⟩ := hread
      rw [classify_of_reads hr, if_neg (not_not.mpr (hnone r hr)), if_pos hstatus, hcut]
    · rw [classify_of_unread hread, if_pos hstatus, hcut]
  | unreadable hstatus hunread => rw [classify_of_unread hunread, if_neg (not_not.mpr hstatus)]
  | rejected hr hnone hstatus hno =>
    rw [classify_of_reads hr, if_neg (not_not.mpr hnone), if_neg (not_not.mpr hstatus), hno]
    rfl
  | accepted hr hnone hstatus hyes =>
    rw [classify_of_reads hr, if_neg (not_not.mpr hnone), if_neg (not_not.mpr hstatus), if_pos hyes]

theorem classify_eq_iff : classify status body = o ↔ Comes status body o := by
  obtain ⟨o', h'⟩ := exists_comes status body
  constructor
  · intro h
    rw [← h, h'.classify_eq]
    exact h'
  · exact Comes.classify_eq

/-- A status and a body are classified exactly. -/
structure IsExact (status : Nat) (body : List UInt8) (o : Except SyncError Response) : Prop where
  /-- The outcome is the only one they come to. -/
  outcome : ∀ o', o = o' ↔ Comes status body o'
  /-- A request that counts as accepted is accepted by the status, by the answer and item by
  item. -/
  sound : ∀ r, o = .ok r → IsSuccess status ∧ r.success = true ∧ r.failures = []
  /-- An error keeps all of the body for which there is room. -/
  whole : ∀ code text, o = .error (.status code text) →
    (Text.decodeLenient body).utf8ByteSize ≤ maxErrorBody → text = Text.decodeLenient body
  /-- If the body is a text, then it is this text that is kept or cut. -/
  readable : ∀ s, body = Text.octets s → Text.decodeLenient body = s
  /-- The search for the place at which the body is cut finds it before it goes below the first
  octet, three octets from where it begins at most. -/
  ends : ∃ p, lastPlace? (Text.decodeLenient body) maxErrorBody = some p ∧
    p.offset.byteIdx ≤ maxErrorBody ∧
    (maxErrorBody ≤ (Text.decodeLenient body).utf8ByteSize → maxErrorBody ≤ p.offset.byteIdx + 3)

/-- Every answer is classified exactly, whatever its status and whatever its body. -/
theorem classify_is_exact (status : Nat) (body : List UInt8) :
    IsExact status body (classify status body) where
  outcome _ := classify_eq_iff
  sound r h := by
    cases classify_eq_iff.mp h with
    | accepted _ hnone hstatus hyes => exact ⟨hstatus, hyes, hnone⟩
  whole code text h hfits := by
    cases classify_eq_iff.mp h with
    | failed _ _ htext => exact htext.unique (.self hfits)
  readable s h := by
    rw [h]
    exact Text.decodeLenient_octets s
  ends := by
    obtain ⟨p, hp, hle, -⟩ := Text.exists_lastPlace? (Text.decodeLenient body) maxErrorBody
    exact ⟨p, hp, hle, Text.lastPlace?_near hp⟩

/-- An answer that refuses an item although it says that the request was accepted. -/
def grudging : Response :=
  ⟨true, none, some ⟨"PARTIAL", "", some ⟨1, 0, [⟨"default:v1:Pod:a", "no"⟩]⟩⟩⟩

theorem classify_is_exact_grudging :
    classify 500 (Text.octets (Json.render grudging.toJson)) =
      .error (.partialFailure grudging) := by
  have hrange : grudging.InRange := by
    refine ⟨fun c hc => ?_, fun e he d hd => ?_⟩
    · cases hc
    · cases he
      cases hd
      exact ⟨Nat.le_of_ble_eq_true rfl, Nat.le_of_ble_eq_true rfl⟩
  exact ((classify_is_exact 500 _).outcome _).mpr
    (.refused (reads_octets hrange) (List.cons_ne_nil _ _))

end ClusterFeed.Sync
