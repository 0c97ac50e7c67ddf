import Mathlib.Data.List.Induction

/-!
# Runs of a system

A system takes one event after the other, as long as each of them can happen.
-/

namespace ClusterFeed.Runs

variable {σ ε : Type} {step? : σ → ε → Option σ} {s s' : σ} {es es' : List ε}

theorem append_eq_some_iff :
    (es ++ es').foldlM step? s = some s' ↔
      ∃ m, es.foldlM step? s = some m ∧ es'.foldlM step? m = some s' := by
  rw [List.foldlM_append]
  exact Option.bind_eq_some_iff

theorem concat_eq_some_iff {e : ε} :
    (es ++ [e]).foldlM step? s = some s' ↔
      ∃ m, es.foldlM step? s = some m ∧ step? m e = some s' := by
  rw [append_eq_some_iff]
  simp

/-- What holds at the beginning and is kept by every event holds after every run. -/
theorem induction {motive : List ε → σ → Prop} (init : motive [] s)
    (step : ∀ es m e m', es.foldlM step? s = some m → motive es m → step? m e = some m' →
      motive (es ++ [e]) m')
    (h : es.foldlM step? s = some s') : motive es s' := by
  induction es using List.reverseRecOn generalizing s' with
  | nil =>
    cases h
    exact init
  | append_singleton es e ih =>
    obtain ⟨m, hm, he⟩ := concat_eq_some_iff.mp h
    exact step es m e s' hm (ih hm) he

end ClusterFeed.Runs
