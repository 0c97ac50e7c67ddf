import ClusterFeed.Proofs.Control.Chronicle
import ClusterFeed.Proofs.Control.Errand
import ClusterFeed.Proofs.Control.Standing

/-!
# The finalizer guards the feeds

`apply` starts a feed only for a configuration that carries the finalizer and is not about to go.
When it is about to go `cleanup` stops the feed, and only after `stop` has returned, with the feed
taken down and out of the registry, it writes the status and the finalizer is removed. So a feed
never outlives its configuration: whenever one runs, the last time its configuration was taken up or
given up it was taken up.
-/

namespace ClusterFeed.Control

open Cluster (Failure Patch)

variable {σ : Type}

namespace SyncConfig

/-- Of some configurations, the last one with a key that was taken up or given up. -/
def lastTended? (cs : List SyncConfig) (key : String) : Option SyncConfig :=
  cs.findRev? fun c => decide (c.key = key ∧ (c.Stays ∨ c.Leaves))

theorem lastTended?_concat (cs : List SyncConfig) (c : SyncConfig) (key : String) :
    lastTended? (cs ++ [c]) key =
      if c.key = key ∧ (c.Stays ∨ c.Leaves) then some c else lastTended? cs key := by
  unfold lastTended?
  rw [Itemwise.findRev?_append, Itemwise.findRev?_cons]
  simp only [List.findRev?, Option.none_or, decide_eq_true_eq]
  split <;> rfl

end SyncConfig

namespace Manager

/-! ## What reconciling does to the manager -/

theorem takeUp_manager (o : Outside σ) (m : Manager) (scope : String) (c : SyncConfig) (s : σ) :
    (m.takeUp o scope c s).1.2 = (m.ensure o c.key scope (Settings.ofSpec c.spec) s).1.2 := by
  unfold takeUp
  dsimp only
  split
  · rename_i h
    rw [h]
  · rename_i h
    rw [h]
    split <;> rfl
  · rename_i h
    rw [h]

/-- A configuration is taken up, or given up, or nothing is done to the manager. -/
theorem reconcile_cases (o : Outside σ) (m : Manager) (c : SyncConfig) (s : σ) :
    (c.Stays ∧ ∃ scope, (m.reconcile o c s).1.2 =
      (m.ensure o c.key scope (Settings.ofSpec c.spec) s).1.2) ∨
    (c.Leaves ∧ (m.reconcile o c s).1.2 = (m.stop c.key).2) ∨
    (¬ c.Stays ∧ ¬ c.Leaves ∧ (m.reconcile o c s).1.2 = m) := by
  unfold SyncConfig.Stays SyncConfig.Leaves
  rw [SyncConfig.isHeld_iff]
  unfold reconcile
  cases hscope : c.metadata.scope with
  | none => exact .inr (.inr ⟨fun h => (nomatch h.1), fun h => (nomatch h.1), rfl⟩)
  | some scope =>
    cases hindex : c.finalizerIndex? with
    | none =>
      refine .inr (.inr ⟨fun h => h.2.1 rfl, fun h => h.2.2.1 rfl, ?_⟩)
      cases c.metadata.isDeleting <;> rfl
    | some index =>
      cases hleaving : c.metadata.isDeleting with
      | false => exact .inl ⟨⟨rfl, nofun, hleaving⟩, scope, takeUp_manager o m scope c s⟩
      | true =>
        unfold dismiss
        cases hname : c.metadata.name with
        | none =>
          have hgoes : ¬ c.metadata.deletionTimestamp.isSome = false := fun h =>
            nomatch hleaving.symm.trans h
          exact .inr (.inr ⟨fun h => hgoes h.2.2, fun h => (nomatch h.2.1), rfl⟩)
        | some name => exact .inr (.inl ⟨⟨rfl, rfl, nofun, hleaving⟩, rfl⟩)

/-- Reconciling a configuration does nothing to the feeds of others. -/
theorem feeds_reconcile_of_ne (o : Outside σ) (m : Manager) (c : SyncConfig) (s : σ) {key : String}
    (hkey : c.key ≠ key) : (m.reconcile o c s).1.2.feeds[key]? = m.feeds[key]? := by
  rcases reconcile_cases o m c s with ⟨_, scope, h⟩ | ⟨_, h⟩ | ⟨_, _, h⟩
  · rw [h]
    exact ((ensure_ensures o m c.key scope _ s).elsewhere key hkey.symm).1
  · rw [h]
    exact (remove_sameElsewhere m c.key key hkey.symm).1
  · rw [h]

/-- A feed that is there only afterwards was started for the configuration, which stays. -/
theorem started_of_reconcile {o : Outside σ} {m : Manager} {c : SyncConfig} {s : σ} {key : String}
    {f : Feed} (hf : (m.reconcile o c s).1.2.feeds[key]? = some f) (hnew : m.feeds[key]? ≠ some f) :
    c.key = key ∧ c.Stays := by
  have hkey : c.key = key := by
    by_contra hne
    exact hnew ((feeds_reconcile_of_ne o m c s hne).symm.trans hf)
  refine ⟨hkey, ?_⟩
  rcases reconcile_cases o m c s with ⟨hstays, _⟩ | ⟨_, h⟩ | ⟨_, _, h⟩
  · exact hstays
  · rw [h, ← hkey, feeds_stop] at hf
    exact nomatch hf
  · rw [h] at hf
    exact absurd hf hnew

/-! ## What goes on meanwhile -/

/-- Nothing runs that did not run before. -/
def StartsNothing (m' m : Manager) : Prop := ∀ key ∈ m'.feeds, key ∈ m.feeds

theorem SameKeys.startsNothing {m m' : Manager} (h : m'.SameKeys m) : m'.StartsNothing m :=
  fun key => (h.feeds key).mp

/-! ## All that can happen to a manager -/

/-- A manager for which some configurations have been reconciled one after the other, each in any
world. In between anything may go on that starts no feed. -/
inductive Attended (o : Outside σ) : List SyncConfig → Manager → Prop where
  | new (options : Options) : Attended o [] (.new options)
  | reconcile {cs : List SyncConfig} {m : Manager} (c : SyncConfig) (s : σ) (h : Attended o cs m) :
    Attended o (cs ++ [c]) (m.reconcile o c s).1.2
  | meanwhile {cs : List SyncConfig} {m m' : Manager} (h : Attended o cs m)
    (hm : m'.StartsNothing m) : Attended o cs m'

/-- Where a feed runs, the last time its configuration was taken up or given up it was taken up. -/
theorem Attended.lastTended {o : Outside σ} {cs : List SyncConfig} {m : Manager}
    (h : Attended o cs m) {key : String} (hkey : key ∈ m.feeds) :
    ∃ c, SyncConfig.lastTended? cs key = some c ∧ c.Stays := by
  induction h with
  | new options => exact absurd hkey Std.ExtTreeMap.not_mem_empty
  | meanwhile _ hm ih => exact ih (hm key hkey)
  | @reconcile cs m c s _ ih =>
    rw [SyncConfig.lastTended?_concat]
    by_cases hc : c.key = key
    · rcases reconcile_cases o m c s with ⟨hstays, _⟩ | ⟨_, hm⟩ | ⟨hstays, hleaves, hm⟩
      · exact ⟨c, if_pos ⟨hc, .inl hstays⟩, hstays⟩
      · rw [hm, ← hc] at hkey
        exact absurd hkey ((getElem?_eq_none_iff _ _).mp (feeds_stop m c.key))
      · rw [if_neg fun hand => hand.2.elim hstays hleaves]
        rw [hm] at hkey
        exact ih hkey
    · rw [if_neg fun hand => hc hand.1]
      refine ih ?_
      obtain ⟨f, hf⟩ := Option.isSome_iff_exists.mp
        (Std.ExtTreeMap.isSome_getElem?_iff_mem.mpr hkey)
      rw [feeds_reconcile_of_ne o m c s hc] at hf
      exact (Std.ExtTreeMap.getElem?_eq_some_iff.mp hf).1

end Manager

/-! ## What is sent for a configuration that goes -/

namespace SyncConfig

/-- Where a configuration is found in the cluster. -/
def location (scope name : String) : String :=
  "/apis/mcpsync.dev/v1alpha1/namespaces/" ++ scope ++ "/resourcesyncconfigs/" ++ name

/-- The request that writes a status, in full. -/
def writing (scope name : String) (status : SyncStatus) : Patch :=
  ⟨location scope name ++ "/status", "application/merge-patch+json",
    .obj [("status", status.toJson)]⟩

/-- The request that takes the finalizer from its place if it stands there, in full. -/
def taking (scope name : String) (index : Nat) : Patch :=
  ⟨location scope name, "application/json-patch+json", .arr [
    .obj [("op", .str "test"), ("path", .str ("/metadata/finalizers/" ++ toString index)),
      ("value", .str "mcpsync.dev/cleanup")],
    .obj [("op", .str "remove"), ("path", .str ("/metadata/finalizers/" ++ toString index))]]⟩

theorem path_eq (scope name : String) : path scope name = location scope name := by
  have hroot : root ++ "/namespaces/" = "/apis/mcpsync.dev/v1alpha1/namespaces/" := by
    decide +kernel
  have hplural : "/" ++ (plural ++ "/") = "/resourcesyncconfigs/" := by decide +kernel
  unfold path location
  rw [hroot, ← hplural]
  simp only [String.append_assoc]

theorem statusPatch_eq {scope name : String} {c : SyncConfig} (hname : c.metadata.name = some name)
    (status : SyncStatus) : c.statusPatch scope status = writing scope name status := by
  have hstem : c.metadata.nameOrStem = name := by
    unfold Cluster.Metadata.nameOrStem
    rw [hname]
    rfl
  unfold statusPatch writing
  rw [hstem, path_eq]

/-- The place of the finalizer is the first one where it stands. -/
theorem getElem?_of_finalizerIndex? {c : SyncConfig} {index : Nat}
    (h : c.finalizerIndex? = some index) : c.finalizers[index]? = some "mcpsync.dev/cleanup" ∧
      ∀ j < index, c.finalizers[j]? ≠ some "mcpsync.dev/cleanup" := by
  obtain ⟨hlt, hthere, hbefore⟩ := List.findIdx?_eq_some_iff_getElem.mp h
  refine ⟨?_, fun j hj hsome => ?_⟩
  · rw [List.getElem?_eq_getElem hlt]
    exact congrArg some (beq_iff_eq.mp hthere)
  · obtain ⟨hjlt, hj'⟩ := List.getElem?_eq_some_iff.mp hsome
    exact hbefore j hj (beq_iff_eq.mpr hj')

theorem stepsPatch_removal (scope name : String) (index : Nat) :
    stepsPatch scope name (removal index) = taking scope name index := by
  have hpath : finalizersPath ++ "/" = "/metadata/finalizers/" := by decide +kernel
  unfold stepsPatch taking removal
  rw [path_eq]
  dsimp only
  rw [hpath]
  rfl

end SyncConfig

/-- A status tells that the feed has been stopped. -/
structure SyncStatus.TellsStopped (status : SyncStatus) : Prop where
  inactive : status.active = false
  watched : status.watched = 0
  ready : ∃ others since, status.conditions =
      others ++ [⟨"Ready", "False", "Stopped", "configuration deleted", since⟩] ∧
    ∀ c ∈ others, c.about ≠ "Ready"

theorem Errand.lastStatus_tellsStopped (o : Outside σ) (c : SyncConfig) (s : σ) :
    (lastStatus o c s).TellsStopped := by
  let occasion : Occasion :=
    ⟨c.metadata.generation, none, .stopped, "configuration deleted", o.now s⟩
  have hnext : lastStatus o c s = SyncStatus.next c.status occasion := rfl
  obtain ⟨hactive, hwatched⟩ := SyncStatus.current_next c.status occasion
  rw [hnext]
  refine ⟨hactive, hwatched, SyncStatus.others c.status, _,
    SyncStatus.conditions_next c.status occasion, fun c hc => ?_⟩
  have hother : (c.about != SyncStatus.readyName) = true := SyncStatus.about_of_mem_others hc
  exact bne_iff_ne.mp hother

/-- When a request was sent nothing ran under a key: the feed that had run had been taken down, and
had left the table and the registry. -/
structure Sending.Clear (x : Sending) (m : Manager) (key : String) : Prop where
  table : x.manager.feeds[key]? = none
  registry : key ∈ m.feeds → x.manager.registry[key]? = none
  elsewhere : x.manager.SameElsewhere m key
  down : ∀ f, m.feeds[key]? = some f → ∃ t, x.down = some t ∧ t.Down f

theorem Sending.AfterStop.clear {x : Sending} {m : Manager} {key : String} (h : x.AfterStop m key) :
    x.Clear m key := by
  refine ⟨?_, fun hkey => ?_, ?_, h.down⟩
  · rw [h.manager]
    exact Manager.feeds_stop m key
  · rw [h.manager]
    exact (Manager.getElem?_registry_remove m key key).trans (if_pos ⟨rfl, hkey⟩)
  · rw [h.manager]
    exact Manager.remove_sameElsewhere m key

/-! ## The guard -/

/-- What the finalizer is good for, whatever the cluster, the index and the time are like, and
whatever a feed that is taken down still does. -/
structure Guarded (o : Outside σ) : Prop where
  /-- A feed is started only for a configuration that carries the finalizer and is not about to
  go. -/
  started : ∀ (m : Manager) c s (key : String) f, (m.reconcile o c s).1.2.feeds[key]? = some f →
    m.feeds[key]? ≠ some f →
    c.key = key ∧ c.Stays
  /-- The feed of a configuration that is about to go does not run any longer. -/
  stopped : ∀ (m : Manager) c s, c.Leaves → (m.reconcile o c s).1.2.feeds[c.key]? = none
  /-- For such a configuration two requests are sent, whatever the cluster answers: the first one
  writes that the feed has been stopped, and the second one removes the finalizer. -/
  requested : ∀ (m : Manager) c s e, c.Leaves → Errand.Reaches o c (.opening m s) e →
    e.stage.isDone = true → ∃ scope name index status s', c.metadata.scope = some scope ∧
      c.metadata.name = some name ∧ (c.finalizers[index]? = some "mcpsync.dev/cleanup" ∧
        ∀ j < index, c.finalizers[j]? ≠ some "mcpsync.dev/cleanup") ∧
      status = c.statusNow none .stopped "configuration deleted" (o.now s') ∧
      status.TellsStopped ∧
      e.sent.map (·.patch) =
        [SyncConfig.writing scope name status, SyncConfig.taking scope name index]
  /-- Both are sent only when the manager has stopped the feed. -/
  awaited : ∀ (m : Manager) c s e, c.Leaves → Errand.Reaches o c (.opening m s) e →
    ∀ x ∈ e.sent, x.Clear m c.key
  /-- For other configurations nothing is asked to be removed. -/
  removed : ∀ (m : Manager) c s e, Errand.Reaches o c (.opening m s) e →
    ∀ x ∈ e.sent, Removes x.patch → c.Leaves
  /-- However far the controller is with a configuration, it can come to an end with it, -/
  ended : ∀ (m : Manager) c s e, Errand.Reaches o c (.opening m s) e →
    ∃ e', Errand.Reaches o c e e' ∧ e'.stage.isDone = true
  /-- and then it has done what is done in one go in the world that it found when the feed had been
  stopped, or in the world at its beginning if no feed had to be stopped. -/
  ends : ∀ (m : Manager) c s e, Errand.Reaches o c (.opening m s) e → e.stage.isDone = true →
    ∃ s', e.Ends (m.reconcile o c s') ∧ (¬ c.Leaves → s' = s)
  /-- What is done in one go is one of these ends. -/
  agrees : ∀ (m : Manager) c s, ∃ e, Errand.Reaches o c (.opening m s) e ∧
    e.Ends (m.reconcile o c s)
  /-- A configuration without a namespace is refused, and nothing is done. -/
  refused : ∀ (m : Manager) c s, c.metadata.scope = none →
    m.reconcile o c s = ((.error (.missingNamespace c.metadata.nameOrStem), m), s)
  /-- Where a feed runs, the last time its configuration was taken up or given up it was taken
  up. -/
  running : ∀ cs m, Manager.Attended o cs m → ∀ key ∈ m.feeds,
    ∃ c, SyncConfig.lastTended? cs key = some c ∧ c.Stays

theorem finalizer_guards (o : Outside σ) : Guarded o where
  started m c s key f hf hnew := Manager.started_of_reconcile hf hnew
  stopped m c s hleaves := by
    rcases Manager.reconcile_cases o m c s with ⟨hstays, _⟩ | ⟨_, h⟩ | ⟨_, hnot, _⟩
    · exact absurd (hstays.2.2.symm.trans hleaves.2.2.2) nofun
    · rw [h]
      exact Manager.feeds_stop m c.key
    · exact absurd hleaves hnot
  requested m c s e hleaves hreaches hdone := by
    obtain ⟨s', hconcluded, -⟩ := Errand.exists_concluded_of_done hreaches hdone
    obtain ⟨scope, name, index, hscope, hname, hindex, hsent, -⟩ := hconcluded.leaving hleaves
    rw [SyncConfig.statusPatch_eq hname, SyncConfig.stepsPatch_removal] at hsent
    exact ⟨scope, name, index, _, s', hscope, hname, SyncConfig.getElem?_of_finalizerIndex? hindex,
      rfl, Errand.lastStatus_tellsStopped o c s', hsent⟩
  awaited m c s e hleaves hreaches x hx := by
    obtain ⟨r, s', hconcluded, hx⟩ := Errand.exists_concluded_of_mem hreaches hx
    obtain ⟨_, _, _, _, _, _, _, hafter⟩ := hconcluded.leaving hleaves
    exact (hafter x hx).clear
  removed m c s e hreaches x hx hremoves := by
    obtain ⟨r, s', hconcluded, hx⟩ := Errand.exists_concluded_of_mem hreaches hx
    by_contra hno
    exact hconcluded.staying hno x hx hremoves
  ended m c s e hreaches := by
    obtain ⟨r, s', hends, hconcluded⟩ := (Errand.underway_of_reaches hreaches).exists_concluded
    exact ⟨r, hends, hconcluded.done⟩
  ends m c s e hreaches hdone := by
    obtain ⟨s', hconcluded, hworld⟩ := Errand.exists_concluded_of_done hreaches hdone
    exact ⟨s', hconcluded.ends, hworld⟩
  agrees := Errand.exists_ends o
  refused m c s hscope := by
    unfold Manager.reconcile
    rw [hscope]
  running _ _ h _ hkey := h.lastTended hkey

end ClusterFeed.Control
