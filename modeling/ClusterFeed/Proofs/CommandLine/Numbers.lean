import ClusterFeed.CommandLine.Invocation
import Mathlib.Algebra.Group.Nat.Defs
import Mathlib.Tactic.Cases

/-!
# Numbers on the command line

Whatever is written on the command line or set in the environment, the numbers that are read from it
have 64 bits. So do those with which the controller is run.
-/

namespace ClusterFeed.CommandLine

variable {α β ε : Type}

theorem exists_of_bind_eq_ok {x : Except ε α} {f : α → Except ε β} {b : β}
    (h : x.bind f = .ok b) : ∃ a, x = .ok a ∧ f a = .ok b := by
  cases x with
  | error e => cases h
  | ok a => exact ⟨a, rfl, h⟩

namespace Flag

theorem natural64?_lt {s : String} {n : Nat} (h : natural64? s = some n) : n < 2 ^ 64 := by
  have hn := (Option.filter_eq_some_iff.mp h).2
  exact of_decide_eq_true hn

theorem natural32?_lt {s : String} {n : Nat} (h : natural32? s = some n) : n < 2 ^ 64 := by
  have hn := of_decide_eq_true (Option.filter_eq_some_iff.mp h).2
  omega

/-- Every flag that takes a number takes one of 64 bits. -/
theorem read_lt {f : Flag} {s : String} {n : Nat} (h : f.read s = .ok (.number n)) :
    n < 2 ^ 64 := by
  unfold read at h
  split at h
  · cases h
  · cases h
  · split at h <;> cases h
  · split at h
    · rename_i hn
      cases h
      exact natural32?_lt hn
    · cases h
  · split at h
    · rename_i hn
      cases h
      exact natural64?_lt hn
    · cases h

end Flag

namespace Reading

/-- All numbers that were given have 64 bits. -/
def Numbered (r : Reading) : Prop := ∀ f n, (f, Value.number n) ∈ r.given → n < 2 ^ 64

variable {r r' : Reading} {f : Flag} {s : String}

theorem numbered_start (level : Level) : (start level).Numbered := fun _ _ h => nomatch h

theorem Numbered.give (h : r.Numbered) (hr : r.give f s = .ok r') : r'.Numbered := by
  unfold Reading.give at hr
  split at hr
  · cases hr
  · cases hv : f.read s with
    | error e =>
      rw [hv] at hr
      cases hr
    | ok v =>
      rw [hv] at hr
      cases hr
      intro f' n hmem
      rcases List.mem_append.mp hmem with hmem | hmem
      · exact h f' n hmem
      · cases List.mem_singleton.mp hmem
        exact Flag.read_lt hv

theorem Numbered.settle (h : r.Numbered) (hr : r.settle = .ok r') : r'.Numbered := by
  unfold Reading.settle at hr
  split at hr
  · cases hr
    exact h
  · cases hr
  · exact Numbered.give (r := { r with open? := none }) h hr

theorem Numbered.readFlag (h : r.Numbered) {value : Option String}
    (hr : r.readFlag f value = .ok r') : r'.Numbered := by
  obtain ⟨m, hm, hr⟩ := exists_of_bind_eq_ok hr
  have hsettled := h.settle hm
  cases value with
  | some s => exact hsettled.give hr
  | none =>
    cases hr
    exact hsettled

/-- Help and version end the reading. -/
theorem answer_ne_ok (r : Reading) (e : UsageError) : r.answer e ≠ .ok r' := by
  intro hr
  obtain ⟨m, -, hr⟩ := exists_of_bind_eq_ok hr
  cases hr

theorem Numbered.readLong (h : r.Numbered) {name : String} {value : Option String}
    (hr : r.readLong name value = .ok r') : r'.Numbered := by
  unfold Reading.readLong at hr
  dsimp only at hr
  have hbare : ∀ e : UsageError,
      (if value.isSome then Except.error UsageError.tooManyValues else r.answer e) ≠ .ok r' := by
    intro e hr
    split at hr
    · cases hr
    · exact answer_ne_ok r e hr
  split at hr
  · exact absurd hr (hbare _)
  · split at hr
    · exact absurd hr (hbare _)
    · split at hr
      · exact h.readFlag hr
      · cases hr

theorem Numbered.readShort (h : r.Numbered) {cs : List Char} (hr : r.readShort cs = .ok r') :
    r'.Numbered := by
  cases cs with
  | nil =>
    cases hr
    exact h
  | cons c cs =>
    unfold Reading.readShort at hr
    dsimp only at hr
    split at hr
    · exact absurd hr (answer_ne_ok r _)
    · split at hr
      · exact absurd hr (answer_ne_ok r _)
      · split at hr
        · exact h.readFlag hr
        · cases hr

theorem Numbered.step (h : r.Numbered) (hr : r.step s = .ok r') : r'.Numbered := by
  unfold Reading.step at hr
  dsimp only at hr
  split at hr
  · cases hr
  · split at hr
    · cases hr
      exact h
    · exact h.readLong hr
    · exact h.readShort hr
    · split at hr
      · cases hr
        exact h
      · cases hr

theorem Numbered.readAll (h : r.Numbered) {words : List String}
    {rest : Option (String × List String)} (hr : r.readAll words = .ok (r', rest)) :
    r'.Numbered := by
  induction words generalizing r with
  | nil =>
    cases hr
    exact h
  | cons s words ih =>
    unfold Reading.readAll at hr
    split at hr
    · cases hr
      exact h
    · obtain ⟨m, hm, hr⟩ := exists_of_bind_eq_ok hr
      exact ih (h.step hm) hr

theorem Numbered.complete (h : r.Numbered) {env : Std.ExtTreeMap String String} {fs : List Flag}
    (hr : complete env fs r = .ok r') : r'.Numbered := by
  induction fs generalizing r with
  | nil =>
    cases hr
    exact h
  | cons f fs ih =>
    unfold Reading.complete at hr
    split at hr
    · split at hr
      · exact ih h hr
      · obtain ⟨m, hm, hr⟩ := exists_of_bind_eq_ok hr
        exact ih (h.give hm) hr
    · exact ih h hr

/-- A number that was not given is the usual one. -/
theorem Numbered.number_lt (h : r.Numbered) {usual : Nat} (husual : usual < 2 ^ 64) :
    r.number f usual < 2 ^ 64 := by
  unfold Reading.number value?
  split
  · rename_i n hn
    obtain ⟨before, after, hgiven, -⟩ := List.lookup_eq_some_iff.mp hn
    exact h f n (by rw [hgiven]; simp)
  · exact husual

end Reading

/-- The waits that the controller is run with have 64 bits, in milliseconds. -/
theorem Invocation.backoff_lt {env : Environment} {words : List String} {i : Invocation}
    {s : RunSettings} (hi : ofWords env words = .ok i) (hs : i.command = .run s) :
    s.initialBackoffMillis < 2 ^ 64 ∧ s.maxBackoffMillis < 2 ^ 64 := by
  unfold ofWords at hi
  obtain ⟨⟨top, entry⟩, -, hi⟩ := exists_of_bind_eq_ok hi
  cases entry with
  | none =>
    obtain ⟨m, -, hi⟩ := exists_of_bind_eq_ok hi
    cases hi
  | some entry =>
    obtain ⟨word, rest⟩ := entry
    dsimp only at hi
    split at hi
    · cases hi
    · rename_i name hname
      obtain ⟨⟨inner, rest'⟩, hinner, hi⟩ := exists_of_bind_eq_ok hi
      obtain ⟨settled, hsettled, hi⟩ := exists_of_bind_eq_ok hi
      obtain ⟨completed, hcompleted, hi⟩ := exists_of_bind_eq_ok hi
      obtain ⟨top', -, hi⟩ := exists_of_bind_eq_ok hi
      cases hi
      have hnumbered : completed.Numbered :=
        (((Reading.numbered_start _).readAll hinner).settle hsettled).complete hcompleted
      cases name with
      | run =>
        cases hs
        exact ⟨hnumbered.number_lt (by omega), hnumbered.number_lt (by omega)⟩
      | discover =>
        simp only [Reading.command] at hs
        split at hs <;> cases hs
      | crd => cases hs

end ClusterFeed.CommandLine
