import ClusterFeed.Proofs.Buffer.Ledger
import Mathlib.Data.List.Forall2

/-!
# The numbers of changes

What an event does to the line with a given number: numbers stay with their changes, and a change
that holds no place any longer keeps its fate. From this come the numbers of the changes in the
buffer, on their way, and in every batch that was handed over.
-/

namespace ClusterFeed

open Sync (SyncError)
open Time (Duration)

namespace Ledger

variable {l : Ledger} {o o' : Outflow} {n m : Nat} {c c' : Change} {f g : Fate}

theorem getElem?_refate {r : Line → Fate} :
    (l.refate r).lines[n]? = some ⟨c, g⟩ ↔ ∃ g', l.lines[n]? = some ⟨c, g'⟩ ∧ r ⟨c, g'⟩ = g := by
  unfold refate
  rw [List.getElem?_map, Option.map_eq_some_iff]
  constructor
  · rintro ⟨⟨c', g'⟩, hn, he⟩
    cases he
    exact ⟨g', hn, rfl⟩
  · rintro ⟨g', hn, rfl⟩
    exact ⟨_, hn, rfl⟩

theorem getElem?_enter :
    (l.enter c' f).lines[n]? = some ⟨c, g⟩ ↔
      l.lines[n]? = some ⟨c, g⟩ ∨ (n = l.lines.length ∧ c = c' ∧ g = f) := by
  unfold enter
  rcases Nat.lt_trichotomy n l.lines.length with h | h | h
  · rw [List.getElem?_append_left h]
    exact ⟨.inl, fun hc => hc.resolve_right fun he => by omega⟩
  · subst h
    simp [eq_comm]
  · have hout : l.lines.length ≤ n := by omega
    rw [List.getElem?_append_right hout, List.getElem?_eq_none hout, List.getElem?_eq_none]
    · constructor
      · intro hc
        cases hc
      · rintro (hc | ⟨he, -⟩)
        · cases hc
        · omega
    · rw [List.length_singleton]
      omega

@[simp] theorem changes_refate (l : Ledger) (r : Line → Fate) :
    (l.refate r).changes = l.changes := by
  simp [changes, refate]

@[simp] theorem changes_enter (l : Ledger) (c : Change) (f : Fate) :
    (l.enter c f).changes = l.changes ++ [c] := by
  simp [changes, enter]

@[simp] theorem batches_refate (l : Ledger) (r : Line → Fate) :
    (l.refate r).batches = l.batches := rfl

/-- The ledger gets a line for each change that comes in, and only for these. -/
theorem changes_step (l : Ledger) (e : Outflow.Event) :
    (l.step e).changes = l.changes ++ Outflow.recorded [e] := by
  cases e with
  | record c =>
    show (l.record c).changes = l.changes ++ [c]
    unfold record
    split
    · rw [changes_enter]
    · split
      · rw [changes_enter]
      · rw [changes_enter, supersede, changes_refate]
  | start =>
    show l.start.changes = l.changes ++ []
    rw [List.append_nil]
    unfold start
    split
    · exact changes_refate l _
    · exact changes_refate l _
  | finish outcome => simp [step, Outflow.recorded]
  | attach on => exact (List.append_nil _).symm

theorem changes_ofEvents (attached : Bool) (es : List Outflow.Event) :
    (ofEvents attached es).changes = Outflow.recorded es := by
  induction es using List.reverseRecOn with
  | nil => rfl
  | append_singleton es e ih =>
    rw [ofEvents_concat, changes_step, ih]
    exact List.filterMap_append.symm

theorem length_lines (attached : Bool) (es : List Outflow.Event) :
    (ofEvents attached es).lines.length = (Outflow.recorded es).length := by
  rw [← changes_ofEvents attached, changes, List.length_map]

theorem getElem?_recorded {attached : Bool} {es : List Outflow.Event} :
    (Outflow.recorded es)[n]? = some c ↔ ∃ f, (ofEvents attached es).lines[n]? = some ⟨c, f⟩ := by
  rw [← changes_ofEvents attached, getElem?_changes]

theorem getElem?_recorded_append {es es' : List Outflow.Event}
    (h : (Outflow.recorded es)[n]? = some c) : (Outflow.recorded (es ++ es'))[n]? = some c := by
  unfold Outflow.recorded at h ⊢
  rw [List.filterMap_append]
  exact Itemwise.getElem?_append_of_some h _

/-- A change keeps its number. -/
theorem getElem?_changes_step (e : Outflow.Event) (h : l.changes[n]? = some c) :
    (l.step e).changes[n]? = some c := by
  rw [changes_step]
  exact Itemwise.getElem?_append_of_some h _

theorem batches_start (l : Ledger) :
    l.start.batches = if l.attached ∧ l.numbersOf .waiting ≠ []
      then l.batches ++ [l.numbersOf .waiting] else l.batches := by
  unfold start
  by_cases ha : l.attached = true
  · by_cases hn : l.numbersOf .waiting = []
    · simp [ha, hn]
    · simp [ha, hn]
  · simp [ha]

/-- Only a sending that begins hands over a batch. -/
theorem batches_step {e : Outflow.Event} (he : e ≠ .start) : (l.step e).batches = l.batches := by
  cases e with
  | record c =>
    show (l.record c).batches = l.batches
    unfold record
    split
    · rfl
    · split <;> rfl
  | start => exact absurd rfl he
  | finish outcome => rfl
  | attach on => rfl

/-- A change that comes in does not touch what does not wait. -/
theorem getElem?_record (c' : Change) (hw : f ≠ .waiting) (h : l.lines[n]? = some ⟨c, f⟩) :
    (l.record c').lines[n]? = some ⟨c, f⟩ := by
  unfold record
  split
  · exact getElem?_enter.mpr (.inl h)
  · split
    · exact getElem?_enter.mpr (.inl h)
    · refine getElem?_enter.mpr (.inl (getElem?_refate.mpr ⟨f, h, if_neg fun hc => ?_⟩))
      exact hw hc.1

/-- A change that holds no place any longer keeps its fate. -/
theorem getElem?_step_of_settled (e : Outflow.Event) (hw : f ≠ .waiting) (hu : f ≠ .underway)
    (h : l.lines[n]? = some ⟨c, f⟩) : (l.step e).lines[n]? = some ⟨c, f⟩ := by
  have hrefate : ∀ r : Line → Fate, r ⟨c, f⟩ = f → (l.refate r).lines[n]? = some ⟨c, f⟩ :=
    fun r hr => getElem?_refate.mpr ⟨f, h, hr⟩
  cases e with
  | record c' => exact getElem?_record c' hw h
  | start =>
    show l.start.lines[n]? = _
    unfold start
    split
    · exact hrefate _ (if_neg hw)
    · exact hrefate _ (if_neg hw)
  | finish outcome => exact hrefate _ (if_neg hu)
  | attach on => exact h

/-- Of two changes of one id that hold a place, the one on its way came in before the one that
waits, and there are no two of a kind. -/
theorem Describes.before_of_live (h : l.Describes o) (hn : l.lines[n]? = some ⟨c, f⟩)
    (hm : l.lines[m]? = some ⟨c', g⟩) (hid : c.id = c'.id) (hf : f = .waiting ∨ f = .underway)
    (hg : g = .waiting ∨ g = .underway) (hlt : n < m) : f = .underway ∧ g = .waiting := by
  obtain ⟨hn', hen⟩ := List.getElem?_eq_some_iff.mp hn
  obtain ⟨hm', hem⟩ := List.getElem?_eq_some_iff.mp hm
  have hbefore := List.pairwise_iff_getElem.mp h.before n m hn' hm' hlt
  rw [hen, hem] at hbefore
  exact hbefore hid hf hg

/-- Two changes of one id with the same place are the same change. -/
theorem Describes.number_unique (h : l.Describes o) (hn : l.lines[n]? = some ⟨c, f⟩)
    (hm : l.lines[m]? = some ⟨c', f⟩) (hid : c.id = c'.id) (hf : f = .waiting ∨ f = .underway) :
    n = m := by
  rcases Nat.lt_trichotomy n m with hlt | heq | hlt
  · obtain ⟨rfl, hc⟩ := h.before_of_live hn hm hid hf hf hlt
    cases hc
  · exact heq
  · obtain ⟨rfl, hc⟩ := h.before_of_live hm hn hid.symm hf hf hlt
    cases hc

/-- What waits came in later than what is on its way under the same id. -/
theorem Describes.underway_lt_waiting (h : l.Describes o) (hn : l.lines[n]? = some ⟨c, .underway⟩)
    (hm : l.lines[m]? = some ⟨c', .waiting⟩) (hid : c.id = c'.id) : n < m := by
  rcases Nat.lt_trichotomy n m with hlt | heq | hlt
  · exact hlt
  · rw [heq, hm] at hn
    cases hn
  · have hc := (h.before_of_live hm hn hid.symm (.inl rfl) (.inr rfl) hlt).1
    cases hc

/-- The map holds exactly the changes with the given numbers, each of them under its own id. -/
def Lists (cs : List Change) (p : Pending) (ns : List Nat) : Prop :=
  (∀ n ∈ ns, ∃ c, cs[n]? = some c ∧ p[c.id]? = some c) ∧
    ∀ id c, p[id]? = some c → c.id = id ∧ ∃! n, n ∈ ns ∧ cs[n]? = some c

theorem Describes.lists {p : Pending} (h : l.Describes o) (hp : l.Holds f p)
    (hf : f = .waiting ∨ f = .underway) : Lists l.changes p (l.numbersOf f) := by
  refine ⟨fun n hn => ?_, fun id c hc => ?_⟩
  · obtain ⟨c, hc⟩ := mem_numbersOf.mp hn
    exact ⟨c, getElem?_changes.mpr ⟨f, hc⟩, (hp c.id c).mpr ⟨List.mem_of_getElem? hc, rfl⟩⟩
  · obtain ⟨hmem, hid⟩ := (hp id c).mp hc
    obtain ⟨n, hn⟩ := List.mem_iff_getElem?.mp hmem
    refine ⟨hid, n, ⟨mem_numbersOf.mpr ⟨c, hn⟩, getElem?_changes.mpr ⟨f, hn⟩⟩, ?_⟩
    rintro m ⟨hm, hcm⟩
    obtain ⟨c', hm⟩ := mem_numbersOf.mp hm
    obtain ⟨f', hcm⟩ := getElem?_changes.mp hcm
    rw [hm] at hcm
    cases hcm
    exact h.number_unique hm hn rfl hf

theorem Lists.append {cs : List Change} {p : Pending} {ns : List Nat} (h : Lists cs p ns)
    (cs' : List Change) : Lists (cs ++ cs') p ns := by
  have hkeep : ∀ {n c}, cs[n]? = some c → (cs ++ cs')[n]? = some c :=
    fun hn => Itemwise.getElem?_append_of_some hn cs'
  refine ⟨fun n hn => ?_, fun id c hc => ?_⟩
  · obtain ⟨c, hc, hp⟩ := h.1 n hn
    exact ⟨c, hkeep hc, hp⟩
  · obtain ⟨hid, n, ⟨hn, hcn⟩, huniq⟩ := h.2 id c hc
    refine ⟨hid, n, ⟨hn, hkeep hcn⟩, ?_⟩
    rintro m ⟨hm, hcm⟩
    obtain ⟨c', hc', -⟩ := h.1 m hm
    rw [hkeep hc'] at hcm
    cases hcm
    exact huniq m ⟨hm, hc'⟩

theorem Describes.numbersOf_waiting_eq_nil (h : l.Describes o) :
    l.numbersOf .waiting = [] ↔ o.buffer.pending = ∅ := by
  constructor
  · intro hnil
    ext id c
    rw [h.waiting id c]
    refine ⟨fun hc => ?_, fun hc => by simp at hc⟩
    obtain ⟨n, hn⟩ := List.mem_iff_getElem?.mp hc.1
    have hmem := mem_numbersOf.mpr ⟨c, hn⟩
    rw [hnil] at hmem
    cases hmem
  · intro hp
    refine List.eq_nil_iff_forall_not_mem.mpr fun n hn => ?_
    obtain ⟨c, hc⟩ := mem_numbersOf.mp hn
    have := (h.waiting c.id c).mpr ⟨List.mem_of_getElem? hc, rfl⟩
    rw [hp] at this
    simp at this

/-- A batch is handed over by the buffer when the ledger says so. -/
theorem Describes.start_batches (h : l.Describes o) (hs : o.step? .start = some o') :
    (o'.sent = o.sent ∧ l.start.batches = l.batches) ∨
      (o'.sent = o.sent ++ [o.buffer.pending] ∧
        l.start.batches = l.batches ++ [l.numbersOf .waiting]) := by
  obtain ⟨-, -, hcase⟩ := Outflow.step?_start hs
  rw [ne_eq, ← h.numbersOf_waiting_eq_nil, h.attached] at hcase
  rw [batches_start]
  rcases hcase with ⟨-, hsent, hno⟩ | ⟨-, hsent, hn, ha⟩
  · refine .inl ⟨hsent, if_neg fun hc => ?_⟩
    rcases hno with hn | ha
    · exact hc.2 hn
    · rw [ha] at hc
      cases hc.1
  · exact .inr ⟨hsent, if_pos ⟨ha, hn⟩⟩

/-- The batches of the ledger are the batches that were handed over. -/
theorem sent_of_run {window : Duration} {attached : Bool} {es : List Outflow.Event}
    (h : (Outflow.new (.new window attached)).run? es = some o) :
    List.Forall₂ (Lists (ofEvents attached es).changes) o.sent (ofEvents attached es).batches := by
  refine Outflow.run?_induction
    (motive := fun es o =>
      List.Forall₂ (Lists (ofEvents attached es).changes) o.sent (ofEvents attached es).batches)
    List.Forall₂.nil (fun es m e m' hm ih hs => ?_) h
  have hd := describes_of_run hm
  rw [ofEvents_concat]
  generalize ofEvents attached es = l at hd ih
  have hold : List.Forall₂ (Lists (l.step e).changes) m.sent l.batches := by
    rw [changes_step]
    exact ih.imp fun _ _ hl => hl.append _
  cases e with
  | record c =>
    cases hs
    rwa [batches_step (by simp)]
  | start =>
    rcases hd.start_batches hs with ⟨hsent, hb⟩ | ⟨hsent, hb⟩
    · rw [hsent]
      exact hb ▸ hold
    · have hnew : Lists (l.step .start).changes m.buffer.pending (l.numbersOf .waiting) := by
        rw [changes_step]
        exact (hd.lists hd.waiting (.inl rfl)).append _
      rw [hsent]
      exact hb ▸ List.rel_append hold (.cons hnew .nil)
  | finish outcome =>
    obtain ⟨-, -, -, -, hsent⟩ := Outflow.step?_finish hs
    rw [hsent]
    exact hold
  | attach on =>
    cases hs
    exact hold

end Ledger

end ClusterFeed
