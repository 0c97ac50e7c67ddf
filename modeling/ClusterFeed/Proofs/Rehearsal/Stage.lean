import ClusterFeed.Proofs.Control.Finalizing
import ClusterFeed.Rehearsal.Stage

/-!
# Whatever the controller is told to do

After any instructions, in a world that may change in between as it likes, what does not run is not
reported, and every feed that runs has a key that was named before.
-/

namespace ClusterFeed

namespace Control.Manager

variable {σ : Type}

/-- Nothing runs that did not run before, but perhaps under one key, and what does not run is not
reported. -/
structure Lawful (m' m : Manager) (key : String) : Prop where
  accounts : m.Accounts → m'.Accounts
  feeds : ∀ k : String, k ≠ key → k ∈ m'.feeds → k ∈ m.feeds

theorem SameKeys.lawful {m m' : Manager} (h : m'.SameKeys m) (key : String) : m'.Lawful m key :=
  ⟨h.accounts, fun k _ => (h.feeds k).mp⟩

theorem SameElsewhere.lawful {m m' : Manager} {key : String} (h : m'.SameElsewhere m key)
    (haccounts : m.Accounts → m'.Accounts) : m'.Lawful m key := by
  refine ⟨haccounts, fun k hk hmem => ?_⟩
  rw [← Std.ExtTreeMap.isSome_getElem?_iff_mem] at hmem ⊢
  rwa [← (h k hk).1]

theorem ensure_lawful (o : Outside σ) (m : Manager) (key scope : String) (settings : Settings)
    (s : σ) : (m.ensure o key scope settings s).1.2.Lawful m key :=
  have h := ensure_ensures o m key scope settings s
  h.elsewhere.lawful h.accounts

theorem stop_lawful (m : Manager) (key : String) : (m.stop key).2.Lawful m key :=
  (remove_sameElsewhere m key).lawful (remove_accounts key)

theorem Lawful.refl (m : Manager) (key : String) : m.Lawful m key := ⟨id, fun _ _ => id⟩

theorem Lawful.trans {m m' m'' : Manager} {key : String} (h : m''.Lawful m' key)
    (h' : m'.Lawful m key) : m''.Lawful m key :=
  ⟨fun hm => h.accounts (h'.accounts hm), fun k hk hmem => h'.feeds k hk (h.feeds k hk hmem)⟩

theorem reconcile_lawful (o : Outside σ) (m : Manager) (c : SyncConfig) (s : σ) :
    (m.reconcile o c s).1.2.Lawful m c.key := by
  rcases reconcile_cases o m c s with ⟨_, scope, h⟩ | ⟨_, h⟩ | ⟨_, _, h⟩
  · rw [h]
    exact ensure_lawful o m c.key scope _ s
  · rw [h]
    exact stop_lawful m c.key
  · rw [h]
    exact .refl m c.key

end Control.Manager

namespace Rehearsal.Stage

open Control (Manager)

/-- What does not run is not reported, and what runs was named. -/
structure Orderly (s : Stage) : Prop where
  accounts : s.manager.Accounts
  named : ∀ key ∈ s.manager.feeds, key ∈ s.keys

variable {s s' : Stage} {m : Manager}

theorem orderly_new (options : Control.Options) (world : World) : (new options world).Orderly :=
  ⟨fun _ _ => Std.ExtTreeMap.getElem?_empty, fun _ h => absurd h Std.ExtTreeMap.not_mem_empty⟩

/-- Something is done to what runs under one key, which is named. -/
theorem Orderly.lawful (h : s.Orderly) {key : String} (hm : m.Lawful s.manager key)
    (world : World) : Orderly { s.name key with manager := m, world } := by
  refine ⟨hm.accounts h.accounts, fun k hk => ?_⟩
  show k ∈ s.keys.insert key ()
  by_cases hkey : k = key
  · exact hkey ▸ Std.ExtTreeMap.mem_insert_self
  · exact Std.ExtTreeMap.mem_insert.mpr (.inr (h.named k (hm.feeds k hkey hk)))

/-- The same feeds run. -/
theorem Orderly.sameKeys (h : s.Orderly) (hm : m.SameKeys s.manager) (world : World) :
    Orderly { s with manager := m, world } :=
  ⟨hm.accounts h.accounts, fun k hk => h.named k ((hm.feeds k).mp hk)⟩

/-- One instruction. -/
theorem Orderly.step (h : s.Orderly) {i : Instruction} {r : Response}
    (hs : s.step? i = some (r, s')) : s'.Orderly := by
  cases i with
  | pin types =>
    cases hs
    exact ⟨h.accounts, h.named⟩
  | reroute routes =>
    cases hs
    exact ⟨h.accounts, h.named⟩
  | answer replies =>
    cases hs
    exact ⟨h.accounts, h.named⟩
  | ensure key scope settings =>
    cases hs
    exact h.lawful (Manager.ensure_lawful outside s.manager key scope settings s.world) _
  | stop key =>
    cases hs
    exact h.lawful (Manager.stop_lawful s.manager key) _
  | resync key =>
    cases hs
    exact h.lawful ((Manager.resync_sameKeys outside s.manager key s.world).lawful key) _
  | shutdown =>
    obtain ⟨⟨m, w⟩, hdown, heq⟩ := Option.map_eq_some_iff.mp hs
    cases heq
    obtain ⟨haccounts, hnone⟩ := Manager.shutdown_accounts hdown h.accounts
    exact ⟨haccounts, fun key hkey => absurd hkey (hnone key)⟩
  | probe scope settings =>
    cases hs
    exact ⟨h.accounts, h.named⟩
  | pass nanos =>
    have hsame := Manager.passTime_sameKeys outside (s.manager.clock + nanos) maxWakes s.manager
      s.world
    -- the number of wakes is not to be counted down here
    generalize hpassed : Manager.passTime outside (s.manager.clock + nanos) maxWakes s.manager
      s.world = passed at hsame
    simp only [step?, hpassed] at hs
    cases hs
    exact h.sameKeys hsame _
  | awaitResync key =>
    obtain ⟨n, -, heq⟩ := Option.map_eq_some_iff.mp hs
    cases heq
    have hsame := Manager.awaitResync_sameKeys outside key maxWakes s.manager s.world
    exact h.lawful ((Manager.stop_lawful _ key).trans (hsame.lawful key)) _
  | notify path notices =>
    cases hs
    exact h.sameKeys (Manager.notify_sameKeys outside path notices s.manager s.world) _
  | reconcile c =>
    cases hs
    exact h.lawful (Manager.reconcile_lawful outside s.manager c s.world) _
  | giveBack c =>
    cases hs
    exact h.lawful (Manager.Lawful.refl s.manager c.key) s.world
  | findConfigs =>
    dsimp only [step?] at hs
    split at hs <;>
    · cases hs
      exact ⟨h.accounts, h.named⟩

/-- What is left of a controller in its world after some instructions. -/
def run? (s : Stage) (is : List Instruction) : Option Stage :=
  is.foldlM (fun s i => (s.step? i).map (·.2)) s

/-- Whatever the controller is told to do, what does not run is not reported, and what runs was
named. -/
theorem orderly_of_instructions {options : Control.Options} {world : World}
    {is : List Instruction} (h : (new options world).run? is = some s) : s.Orderly := by
  refine Runs.induction (motive := fun _ s => s.Orderly) (orderly_new options world)
    (fun _ s i s' _ ih hs => ?_) h
  obtain ⟨⟨r, s''⟩, hstep, rfl⟩ := Option.map_eq_some_iff.mp hs
  exact ih.step hstep

end Rehearsal.Stage

end ClusterFeed
