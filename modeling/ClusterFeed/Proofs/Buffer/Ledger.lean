import ClusterFeed.Proofs.Buffer.Outflow

/-!
# The ledger of a buffer

Two changes of one resource may be equal, so the buffer alone cannot tell which of them is the one
that waits. The ledger can: it has a line for every change that came in, in the order in which they
came, and says what became of each. The place of its line is the number of a change.

The ledger says what should become of a change and knows nothing of the maps of the buffer. That the
buffer does what the ledger says is `Ledger.describes_of_run`.
-/

namespace ClusterFeed

open Sync (SyncError)
open Time (Duration)

/-- What became of a change that came in. -/
inductive Fate where
  /-- It waits under its id. -/
  | waiting
  /-- It is on its way. -/
  | underway
  /-- The index took it: its batch was accepted, or refused in part without naming it. -/
  | accepted
  /-- A change of the same id that came in later has its place. -/
  | superseded
  /-- It is an upsert and came in when a delete of the same id waited. -/
  | ignored
  /-- It was to be sent when there was no index to send to. -/
  | discarded
  /-- It has no id. -/
  | dropped
  deriving DecidableEq

/-- A line of the ledger. -/
structure Ledger.Line where
  /-- The change that came in. -/
  change : Change
  /-- What became of it. -/
  fate : Fate

/-- What became of all changes that came in. -/
structure Ledger where
  /-- Whether there is an index to send to. -/
  attached : Bool
  /-- A line for every change that came in. -/
  lines : List Ledger.Line
  /-- The numbers of the changes in each batch that was handed over. -/
  batches : List (List Nat)

namespace Ledger

/-- The changes that came in. -/
def changes (l : Ledger) : List Change := l.lines.map Line.change

/-- The numbers of the changes with a fate. -/
def numbersOf (l : Ledger) (f : Fate) : List Nat :=
  (List.range l.lines.length).filter fun n => (l.lines[n]?.map Line.fate) = some f

/-- How many changes with a fate pass a test. -/
def count (l : Ledger) (f : Fate) (p : Change → Bool) : Nat :=
  l.lines.countP fun e => e.fate = f ∧ p e.change

/-- Writes a new line. -/
def enter (l : Ledger) (c : Change) (f : Fate) : Ledger := { l with lines := l.lines ++ [⟨c, f⟩] }

/-- Gives every line a fate anew. -/
def refate (l : Ledger) (f : Line → Fate) : Ledger :=
  { l with lines := l.lines.map fun e => ⟨e.change, f e⟩ }

/-- A change of the id waits. -/
def Waits (l : Ledger) (id : String) : Prop :=
  ∃ e ∈ l.lines, e.fate = .waiting ∧ e.change.id = id

/-- A delete of the id waits. -/
def DeleteWaits (l : Ledger) (id : String) : Prop :=
  ∃ e ∈ l.lines, e.fate = .waiting ∧ e.change.id = id ∧ e.change.isDelete

instance (l : Ledger) (id : String) : Decidable (l.Waits id) :=
  inferInstanceAs (Decidable (∃ e ∈ l.lines, e.fate = .waiting ∧ e.change.id = id))

instance (l : Ledger) (id : String) : Decidable (l.DeleteWaits id) :=
  inferInstanceAs
    (Decidable (∃ e ∈ l.lines, e.fate = .waiting ∧ e.change.id = id ∧ e.change.isDelete))

/-- What waits under an id gives up its place. -/
def supersede (l : Ledger) (id : String) : Ledger :=
  l.refate fun e => if e.fate = .waiting ∧ e.change.id = id then .superseded else e.fate

/-- A change comes in. -/
def record (l : Ledger) (c : Change) : Ledger :=
  if c.id = "" then l.enter c .dropped
  else if c.isUpsert ∧ l.DeleteWaits c.id then l.enter c .ignored
  else (l.supersede c.id).enter c .waiting

/-- A sending begins. Nothing is handed over when nothing waits. -/
def start (l : Ledger) : Ledger :=
  let ns := l.numbersOf .waiting
  if l.attached then
    { l.refate fun e => if e.fate = .waiting then .underway else e.fate with
      batches := if ns = [] then l.batches else l.batches ++ [ns] }
  else l.refate fun e => if e.fate = .waiting then .discarded else e.fate

/-- What becomes of a line when a sending ends. -/
def landing (l : Ledger) (outcome : Except SyncError Sync.Response) (e : Line) : Fate :=
  if e.fate = .underway then
    if Buffer.wasTaken outcome e.change.id then .accepted
    else if l.Waits e.change.id then .superseded
    else .waiting
  else e.fate

/-- The ledger after an event. -/
def step (l : Ledger) : Outflow.Event → Ledger
  | .record c => l.record c
  | .start => l.start
  | .finish outcome => l.refate (l.landing outcome)
  | .attach on => { l with attached := on }

/-- The ledger of a run that begins with an empty buffer. -/
def ofEvents (attached : Bool) (es : List Outflow.Event) : Ledger :=
  es.foldl step ⟨attached, [], []⟩

theorem ofEvents_concat (attached : Bool) (es : List Outflow.Event) (e : Outflow.Event) :
    ofEvents attached (es ++ [e]) = (ofEvents attached es).step e := by
  unfold ofEvents
  rw [List.foldl_append]
  rfl

/-! ## Lines -/

theorem mem_refate {l : Ledger} {f : Line → Fate} {c : Change} {g : Fate} :
    ⟨c, g⟩ ∈ (l.refate f).lines ↔ ∃ g', ⟨c, g'⟩ ∈ l.lines ∧ f ⟨c, g'⟩ = g := by
  unfold refate
  rw [List.mem_map]
  constructor
  · rintro ⟨⟨c', g'⟩, hm, he⟩
    cases he
    exact ⟨g', hm, rfl⟩
  · rintro ⟨g', hm, rfl⟩
    exact ⟨_, hm, rfl⟩

theorem mem_enter {l : Ledger} {c c' : Change} {f g : Fate} :
    ⟨c, g⟩ ∈ (l.enter c' f).lines ↔ ⟨c, g⟩ ∈ l.lines ∨ (c = c' ∧ g = f) := by
  simp [enter]

theorem mem_supersede {l : Ledger} {id : String} {c : Change} {g : Fate} (hg : g ≠ .superseded) :
    ⟨c, g⟩ ∈ (l.supersede id).lines ↔ ⟨c, g⟩ ∈ l.lines ∧ ¬ (g = .waiting ∧ c.id = id) := by
  unfold supersede
  rw [mem_refate]
  constructor
  · rintro ⟨g', hm, h⟩
    split at h
    · exact absurd h.symm hg
    · cases h
      exact ⟨hm, ‹_›⟩
  · rintro ⟨hm, h⟩
    exact ⟨g, hm, if_neg h⟩

theorem waits_iff {l : Ledger} {id : String} :
    l.Waits id ↔ ∃ c, ⟨c, .waiting⟩ ∈ l.lines ∧ c.id = id := by
  constructor
  · rintro ⟨⟨c, f⟩, hm, rfl, h⟩
    exact ⟨c, hm, h⟩
  · rintro ⟨c, hm, h⟩
    exact ⟨_, hm, rfl, h⟩

theorem deleteWaits_iff {l : Ledger} {id : String} :
    l.DeleteWaits id ↔ ∃ c, ⟨c, .waiting⟩ ∈ l.lines ∧ c.id = id ∧ c.isDelete := by
  constructor
  · rintro ⟨⟨c, f⟩, hm, rfl, h⟩
    exact ⟨c, hm, h⟩
  · rintro ⟨c, hm, h⟩
    exact ⟨_, hm, rfl, h⟩

theorem mem_numbersOf {l : Ledger} {f : Fate} {n : Nat} :
    n ∈ l.numbersOf f ↔ ∃ c, l.lines[n]? = some ⟨c, f⟩ := by
  unfold numbersOf
  rw [List.mem_filter, List.mem_range, decide_eq_true_iff, Option.map_eq_some_iff]
  constructor
  · rintro ⟨-, ⟨c, g⟩, h, rfl⟩
    exact ⟨c, h⟩
  · rintro ⟨c, h⟩
    exact ⟨(List.getElem?_eq_some_iff.mp h).1, _, h, rfl⟩

theorem getElem?_changes {l : Ledger} {n : Nat} {c : Change} :
    l.changes[n]? = some c ↔ ∃ f, l.lines[n]? = some ⟨c, f⟩ := by
  unfold changes
  rw [List.getElem?_map, Option.map_eq_some_iff]
  constructor
  · rintro ⟨⟨c', f⟩, h, rfl⟩
    exact ⟨f, h⟩
  · rintro ⟨f, h⟩
    exact ⟨_, h, rfl⟩

/-! ## The ledger and the buffer -/

/-- The change holds a place in the buffer or in the batch that is on its way. -/
def Line.Live (e : Line) : Prop := e.fate = .waiting ∨ e.fate = .underway

/-- Of two changes of one id only the later one can wait, and only the earlier one can be on its
way. -/
def Line.Before (e e' : Line) : Prop :=
  e.change.id = e'.change.id → e.Live → e'.Live → e.fate = .underway ∧ e'.fate = .waiting

/-- The map holds, under their ids, the changes to which the ledger gives a fate. -/
def Holds (l : Ledger) (f : Fate) (p : Pending) : Prop :=
  ∀ id c, p[id]? = some c ↔ ⟨c, f⟩ ∈ l.lines ∧ c.id = id

/-- The buffer and its batch are as the ledger says. -/
structure Describes (l : Ledger) (o : Outflow) : Prop where
  attached : o.buffer.attached = l.attached
  waiting : l.Holds .waiting o.buffer.pending
  underway : l.Holds .underway (o.underway.getD ∅)
  before : l.lines.Pairwise Line.Before

variable {l : Ledger} {o o' : Outflow}

theorem Holds.waits_iff {p : Pending} (h : l.Holds .waiting p) {id : String} :
    l.Waits id ↔ ∃ c, p[id]? = some c := by
  rw [Ledger.waits_iff]
  exact exists_congr fun c => (h id c).symm

theorem Holds.isLostOn {p : Pending} (h : l.Holds .waiting p) (c : Change) :
    c.isLostOn p[c.id]? = true ↔ c.isUpsert ∧ l.DeleteWaits c.id := by
  rw [deleteWaits_iff]
  unfold Change.isLostOn
  constructor
  · intro hc
    cases hp : p[c.id]? with
    | none => simp [hp] at hc
    | some old =>
      simp only [hp, Bool.and_eq_true] at hc
      obtain ⟨hm, hid⟩ := (h c.id old).mp hp
      exact ⟨hc.2, old, hm, hid, hc.1⟩
  · rintro ⟨hu, old, hm, hid, hd⟩
    rw [(h c.id old).mpr ⟨hm, hid⟩]
    exact Bool.and_eq_true_iff.mpr ⟨hd, hu⟩

/-- New fates that leave every place where it is, or take it away, keep the order of the places. -/
theorem before_refate {f : Line → Fate} (h : l.lines.Pairwise Line.Before)
    (hf : ∀ e : Line, Line.Live ⟨e.change, f e⟩ → f e = e.fate) :
    (l.refate f).lines.Pairwise Line.Before := by
  refine List.pairwise_map.mpr (h.imp fun {a b} hab hid ha hb => ?_)
  have hfa := hf a ha
  have hfb := hf b hb
  rw [hfa] at ha ⊢
  rw [hfb] at hb ⊢
  exact hab hid ha hb

theorem before_enter {c : Change} {f : Fate} (h : l.lines.Pairwise Line.Before)
    (hc : f ≠ .underway) (hn : f = .waiting → ¬ l.Waits c.id) :
    (l.enter c f).lines.Pairwise Line.Before := by
  refine List.pairwise_append.mpr ⟨h, List.pairwise_singleton _ _, fun a ha b hb => ?_⟩
  rw [List.mem_singleton] at hb
  subst hb
  intro hid hla hlb
  have hf : f = .waiting := hlb.resolve_right hc
  rcases hla with hw | hu
  · exact absurd ⟨a, ha, hw, hid⟩ (hn hf)
  · exact ⟨hu, hf⟩

theorem not_waits_supersede (l : Ledger) (id : String) : ¬ (l.supersede id).Waits id := by
  rw [Ledger.waits_iff]
  rintro ⟨c, hm, hid⟩
  exact ((mem_supersede (by decide)).mp hm).2 ⟨rfl, hid⟩

/-- A change gets a line and no place. -/
theorem Describes.enter (h : l.Describes o) (c : Change) {f : Fate} (hw : f ≠ .waiting)
    (hu : f ≠ .underway) {b : Buffer} (ha : b.attached = o.buffer.attached)
    (hp : b.pending = o.buffer.pending) :
    (l.enter c f).Describes { o with buffer := b } := by
  refine ⟨ha.trans h.attached, fun id c' => ?_, fun id c' => ?_,
    before_enter h.before hu fun hf => absurd hf hw⟩
  · rw [mem_enter, hp, h.waiting id c']
    simp [hw.symm]
  · rw [mem_enter, h.underway id c']
    simp [hu.symm]

/-- A change takes the place of its id among those that wait. -/
theorem Describes.supersede (h : l.Describes o) {c : Change} (he : c.id ≠ "")
    (hkept : ¬ c.isLostOn o.buffer.pending[c.id]? = true) :
    ((l.supersede c.id).enter c .waiting).Describes { o with buffer := o.buffer.record c } := by
  refine ⟨(Buffer.record_attached _ _).trans h.attached, fun id c' => ?_, fun id c' => ?_, ?_⟩
  · rw [mem_enter, mem_supersede (by decide), Buffer.getElem?_record]
    by_cases hid : c.id = id
    · subst hid
      rw [if_pos ⟨rfl, he⟩, Change.onto, if_neg hkept]
      constructor
      · intro hc
        cases hc
        exact ⟨.inr ⟨rfl, rfl⟩, rfl⟩
      · rintro ⟨⟨-, hn⟩ | ⟨rfl, -⟩, hc⟩
        · exact absurd ⟨rfl, hc⟩ hn
        · rfl
    · rw [if_neg (fun hc => hid hc.1), h.waiting id c']
      constructor
      · rintro ⟨hm, rfl⟩
        exact ⟨.inl ⟨hm, fun hn => hid hn.2.symm⟩, rfl⟩
      · rintro ⟨⟨hm, -⟩ | ⟨rfl, -⟩, hc⟩
        · exact ⟨hm, hc⟩
        · exact absurd hc hid
  · rw [mem_enter, mem_supersede (by decide), h.underway id c']
    simp
  · refine before_enter (before_refate h.before fun e hlive => ?_) (by decide)
      fun _ => not_waits_supersede l c.id
    split at hlive
    · rcases hlive with hlive | hlive <;> cases hlive
    · rw [if_neg ‹_›]

theorem Describes.record (h : l.Describes o) (c : Change) :
    (l.record c).Describes { o with buffer := o.buffer.record c } := by
  have hattached : (o.buffer.record c).attached = o.buffer.attached := Buffer.record_attached _ _
  unfold Ledger.record
  by_cases he : c.id = ""
  · rw [if_pos he]
    have hpending := o.buffer.record_pending_of_no_id he
    exact h.enter c (by decide) (by decide) hattached hpending
  · rw [if_neg he]
    by_cases hl : c.isUpsert ∧ l.DeleteWaits c.id
    · rw [if_pos hl]
      have hpending := Buffer.record_pending_of_isLost ((h.waiting.isLostOn c).mpr hl)
      exact h.enter c (by decide) (by decide) hattached hpending
    · rw [if_neg hl]
      exact h.supersede he fun hc => hl ((h.waiting.isLostOn c).mp hc)

theorem Describes.not_underway (h : l.Describes o) (hu : o.underway = none) (c : Change) :
    ⟨c, .underway⟩ ∉ l.lines := by
  intro hc
  have hheld := (h.underway c.id c).mpr ⟨hc, rfl⟩
  rw [hu] at hheld
  simp at hheld

theorem Describes.holds_batch (h : l.Describes o) {batch : Pending}
    (hu : o.underway = some batch) : l.Holds .underway batch := by
  have := h.underway
  rwa [hu, Option.getD_some] at this

/-- When nothing is on its way, no two changes of one id hold a place. -/
theorem Describes.alone (h : l.Describes o) (hu : o.underway = none) :
    l.lines.Pairwise fun e e' => e.change.id = e'.change.id → ¬ (e.Live ∧ e'.Live) := by
  refine h.before.imp_of_mem fun {a b} ha _ hab hid hl => ?_
  exact h.not_underway hu a.change (by simpa [← (hab hid hl.1 hl.2).1] using ha)

/-- What waits comes to another fate, and the other lines stay as they are. -/
theorem mem_refate_waiting {c : Change} {f g : Fate} :
    ⟨c, g⟩ ∈ (l.refate fun e => if e.fate = .waiting then f else e.fate).lines ↔
      (g = f ∧ ⟨c, .waiting⟩ ∈ l.lines) ∨ (g ≠ .waiting ∧ ⟨c, g⟩ ∈ l.lines) := by
  rw [mem_refate]
  constructor
  · rintro ⟨g', hm, hg⟩
    split at hg
    · rename_i hw
      exact .inl ⟨hg.symm, by rwa [← hw]⟩
    · rename_i hw
      cases hg
      exact .inr ⟨hw, hm⟩
  · rintro (⟨rfl, hm⟩ | ⟨hg, hm⟩)
    · exact ⟨_, hm, if_pos rfl⟩
    · exact ⟨_, hm, if_neg hg⟩

theorem holds_empty_refate {f : Fate} (hf : f ≠ .waiting) :
    (l.refate fun e => if e.fate = .waiting then f else e.fate).Holds .waiting ∅ := by
  intro id c
  rw [mem_refate_waiting]
  simp [hf.symm]

theorem Describes.before_refate_waiting (h : l.Describes o) (hu : o.underway = none) {f : Fate} :
    (l.refate fun e => if e.fate = .waiting then f else e.fate).lines.Pairwise Line.Before := by
  refine List.pairwise_map.mpr ((h.alone hu).imp fun {a b} hab hid ha hb => ?_)
  have hlive : ∀ e : Line,
      Line.Live ⟨e.change, if e.fate = .waiting then f else e.fate⟩ → e.Live := by
    intro e he
    by_cases hw : e.fate = .waiting
    · exact .inl hw
    · simpa only [if_neg hw] using he
  exact absurd ⟨hlive a ha, hlive b hb⟩ (hab hid)

theorem Describes.start (h : l.Describes o) (hs : o.step? .start = some o') :
    l.start.Describes o' := by
  obtain ⟨hu, hb, hcase⟩ := Outflow.step?_start hs
  have hnone := h.not_underway hu
  have hattached : o'.buffer.attached = l.attached := by
    rw [hb]
    exact h.attached
  have hpending : o'.buffer.pending = ∅ := by rw [hb]
  unfold Ledger.start
  cases ha : l.attached with
  | true =>
    have hflight : o'.underway.getD ∅ = o.buffer.pending := by
      rcases hcase with ⟨hu', -, hp | hn⟩ | ⟨hu', -⟩
      · rw [hu', hp, Option.getD_none]
      · rw [h.attached, ha] at hn
        cases hn
      · rw [hu', Option.getD_some]
    refine ⟨hattached, ?_, fun id c => ?_, h.before_refate_waiting hu⟩
    · rw [hpending]
      exact holds_empty_refate (by decide)
    · rw [hflight, h.waiting id c]
      refine and_congr_left fun _ => Iff.trans ?_ mem_refate_waiting.symm
      simp [hnone c]
  | false =>
    have hflight : o'.underway.getD ∅ = ∅ := by
      rcases hcase with ⟨hu', -⟩ | ⟨-, -, -, hn⟩
      · rw [hu', Option.getD_none]
      · rw [h.attached, ha] at hn
        cases hn
    refine ⟨hattached, ?_, fun id c => ?_, h.before_refate_waiting hu⟩
    · rw [hpending]
      exact holds_empty_refate (by decide)
    · have hgone : ⟨c, .underway⟩ ∉
          (l.refate fun e => if e.fate = .waiting then .discarded else e.fate).lines := by
        rw [mem_refate_waiting]
        simp [hnone c]
      rw [hflight]
      simpa using fun hm => absurd hm hgone

theorem landing_eq_waiting {outcome : Except SyncError Sync.Response} {e : Line} :
    l.landing outcome e = .waiting ↔ e.fate = .waiting ∨
      (e.fate = .underway ∧ ¬ Buffer.wasTaken outcome e.change.id ∧ ¬ l.Waits e.change.id) := by
  unfold landing
  by_cases hf : e.fate = .underway
  · rw [if_pos hf]
    by_cases ht : Buffer.wasTaken outcome e.change.id = true
    · simp [hf, ht]
    · by_cases hw : l.Waits e.change.id
      · simp [hf, ht, hw]
      · simp [hf, ht, hw]
  · simp [hf]

theorem landing_ne_underway (l : Ledger) (outcome : Except SyncError Sync.Response) (e : Line) :
    l.landing outcome e ≠ .underway := by
  unfold landing
  by_cases hf : e.fate = .underway
  · rw [if_pos hf]
    split
    · decide
    · split <;> decide
  · rwa [if_neg hf]

/-- What waits when a sending has ended: what waited before, and what was put back. -/
theorem mem_landing_waiting {outcome : Except SyncError Sync.Response} {c : Change} :
    ⟨c, .waiting⟩ ∈ (l.refate (l.landing outcome)).lines ↔ ⟨c, .waiting⟩ ∈ l.lines ∨
      (⟨c, .underway⟩ ∈ l.lines ∧ ¬ Buffer.wasTaken outcome c.id ∧ ¬ l.Waits c.id) := by
  rw [mem_refate]
  constructor
  · rintro ⟨g, hm, hg⟩
    rcases landing_eq_waiting.mp hg with hf | ⟨hf, hn⟩
    · cases hf
      exact .inl hm
    · cases hf
      exact .inr ⟨hm, hn⟩
  · rintro (hm | ⟨hm, hn⟩)
    · exact ⟨_, hm, landing_eq_waiting.mpr (.inl rfl)⟩
    · exact ⟨_, hm, landing_eq_waiting.mpr (.inr ⟨rfl, hn⟩)⟩

theorem Describes.finish (h : l.Describes o) {outcome : Except SyncError Sync.Response}
    (hs : o.step? (.finish outcome) = some o') :
    (l.refate (l.landing outcome)).Describes o' := by
  obtain ⟨batch, hu, hb, hu', -⟩ := Outflow.step?_finish hs
  have hbatch := h.holds_batch hu
  refine ⟨?_, fun id c => ?_, fun id c => ?_, ?_⟩
  · rw [hb, Buffer.endFlush_attached]
    exact h.attached
  · rw [hb, Buffer.getElem?_endFlush, mem_landing_waiting]
    cases hp : o.buffer.pending[id]? with
    | some old =>
      have hw : l.Waits id := h.waiting.waits_iff.mpr ⟨old, hp⟩
      rw [Option.some_or, ← hp, h.waiting id c]
      constructor
      · exact fun hc => ⟨.inl hc.1, hc.2⟩
      · rintro ⟨hm | ⟨-, -, hn⟩, rfl⟩
        · exact ⟨hm, rfl⟩
        · exact absurd hw hn
    | none =>
      have hn : ¬ l.Waits id := fun hw => by
        obtain ⟨c', hc'⟩ := h.waiting.waits_iff.mp hw
        rw [hp] at hc'
        cases hc'
      rw [Option.none_or]
      constructor
      · intro hc
        split at hc
        · cases hc
        · rename_i ht
          obtain ⟨hm, rfl⟩ := (hbatch id c).mp hc
          exact ⟨.inr ⟨hm, ht, hn⟩, rfl⟩
      · rintro ⟨hm | ⟨hm, ht, -⟩, rfl⟩
        · exact absurd (Ledger.waits_iff.mpr ⟨c, hm, rfl⟩) hn
        · rw [if_neg ht]
          exact (hbatch c.id c).mpr ⟨hm, rfl⟩
  · rw [hu', Option.getD_none, mem_refate]
    simp [landing_ne_underway]
  · refine List.pairwise_map.mpr (h.before.imp_of_mem fun {a b} _ hmem hab hid hla hlb => ?_)
    have ha := landing_eq_waiting.mp (hla.resolve_right (landing_ne_underway l outcome a))
    have hb := landing_eq_waiting.mp (hlb.resolve_right (landing_ne_underway l outcome b))
    obtain ⟨hfa, hfb⟩ := hab hid (ha.imp_right And.left) (hb.imp_right And.left)
    rcases ha with hw | ⟨-, -, hn⟩
    · rw [hw] at hfa
      cases hfa
    · exact absurd ⟨b, hmem, hfb, hid.symm⟩ hn

theorem Describes.step {e : Outflow.Event} (h : l.Describes o) (hs : o.step? e = some o') :
    (l.step e).Describes o' := by
  cases e with
  | record c =>
    cases hs
    exact h.record c
  | start => exact h.start hs
  | finish outcome => exact h.finish hs
  | attach on =>
    cases hs
    exact ⟨rfl, h.waiting, h.underway, h.before⟩

theorem describes_new (window : Duration) (attached : Bool) :
    (ofEvents attached []).Describes (.new (.new window attached)) :=
  ⟨rfl, fun id c => by simp [ofEvents, Outflow.new, Buffer.new],
    fun id c => by simp [ofEvents, Outflow.new], List.Pairwise.nil⟩

/-- After every run the buffer and its batch are as the ledger says. -/
theorem describes_of_run {window : Duration} {attached : Bool} {es : List Outflow.Event}
    (h : (Outflow.new (.new window attached)).run? es = some o) :
    (ofEvents attached es).Describes o := by
  refine Outflow.run?_induction (motive := fun es o => (ofEvents attached es).Describes o)
    (describes_new window attached) (fun es m e m' _ hm hs => ?_) h
  rw [ofEvents_concat]
  exact hm.step hs

/-- A run in which changes come to every place: the delete of `a` is refused and sent again, the
snapshot of `b` is refused after a newer one came in, and `c` waits when there is no index. -/
def variedRun : List Outflow.Event :=
  let pod (name : String) (seconds : Nat) : Snapshot :=
    ⟨name, "default", "Pod", "v1", ∅, ∅, ⟨seconds, 0⟩⟩
  [.record (.delete (pod "a" 0).identifier), .record (.upsert (pod "a" 1)),
    .record (.upsert (pod "b" 2)), .start, .record (.upsert (pod "b" 3)),
    .finish (.error (.partialFailure ⟨false, none, some ⟨"PARTIAL", "",
      some ⟨0, 0, [⟨"default:v1:Pod:a", ""⟩, ⟨"default:v1:Pod:b", ""⟩, ⟨"other", ""⟩]⟩⟩⟩)),
    .start, .finish (.ok ⟨true, none, none⟩), .attach false, .record (.upsert (pod "c" 4)),
    .start, .attach true, .record (.upsert (pod "d" 5)), .start, .record (.upsert (pod "e" 6))]

end Ledger

end ClusterFeed
