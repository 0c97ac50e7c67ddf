import ClusterFeed.Control.Reconcile
import ClusterFeed.Proofs.Control.Ensuring
import ClusterFeed.Proofs.Control.TakingDown
import Mathlib.Logic.Relation

/-!
# A configuration is reconciled, one thing after the other

`reconcile` hands a configuration to `apply` or to `cleanup`, or changes its finalizers. What it
does comes in stages: the manager does something, or the cluster is sent a request, and how that
ended decides what comes next. Only one stage takes several things to pass: when `cleanup` calls
`stop` the feed leaves the table at once, and `cleanup` waits until the feed has been taken down and
has left the registry. Meanwhile anything may go on in the world.

Every request to change the configuration is kept together with what had been done when it was sent:
the manager as it was then, and the feed that had been taken down. An errand that has come to its
end has done what `Manager.reconcile` does in one go.
-/

namespace ClusterFeed.Control

open Cluster (Failure Patch)

variable {σ : Type}

namespace SyncConfig

/-- The request that writes a status, as `patch_status` sends it. -/
def statusPatch (scope : String) (c : SyncConfig) (status : SyncStatus) : Patch :=
  ⟨path scope c.metadata.nameOrStem ++ "/status", "application/merge-patch+json",
    .obj [("status", status.toJson)]⟩

/-- The request that changes a configuration in steps. -/
def stepsPatch (scope name : String) (steps : Json) : Patch :=
  ⟨path scope name, "application/json-patch+json", steps⟩

/-- A configuration carries the finalizer. -/
def IsHeld (c : SyncConfig) : Prop := "mcpsync.dev/cleanup" ∈ c.metadata.finalizers.getD []

/-- A configuration that is taken up: it carries the finalizer and is not about to go. -/
def Stays (c : SyncConfig) : Prop :=
  c.metadata.scope.isSome ∧ c.IsHeld ∧ c.metadata.deletionTimestamp.isSome = false

/-- A configuration that is given up: it carries the finalizer and is about to go. -/
def Leaves (c : SyncConfig) : Prop :=
  c.metadata.scope.isSome ∧ c.metadata.name.isSome ∧ c.IsHeld ∧
    c.metadata.deletionTimestamp.isSome = true

instance (c : SyncConfig) : Decidable c.IsHeld := inferInstanceAs (Decidable (_ ∈ _))

instance (c : SyncConfig) : Decidable c.Stays := inferInstanceAs (Decidable (_ ∧ _ ∧ _))

instance (c : SyncConfig) : Decidable c.Leaves := inferInstanceAs (Decidable (_ ∧ _ ∧ _ ∧ _))

theorem isHeld_iff {c : SyncConfig} : c.IsHeld ↔ c.finalizerIndex? ≠ none := by
  unfold finalizerIndex?
  rw [ne_eq, List.idxOf?_eq_none_iff, not_not]
  rfl

/-- The parts of a configuration that is given up. -/
theorem Leaves.parts {c : SyncConfig} (h : c.Leaves) : ∃ scope name index,
    c.metadata.scope = some scope ∧ c.metadata.name = some name ∧
      c.finalizerIndex? = some index ∧ c.metadata.isDeleting = true := by
  obtain ⟨hscope, hname, hfinalizer, hleaving⟩ := h
  obtain ⟨scope, hscope⟩ := Option.isSome_iff_exists.mp hscope
  obtain ⟨name, hname⟩ := Option.isSome_iff_exists.mp hname
  obtain ⟨index, hindex⟩ := Option.ne_none_iff_exists'.mp (isHeld_iff.mp hfinalizer)
  exact ⟨scope, name, index, hscope, hname, hindex, hleaving⟩

theorem leaves_of_parts {c : SyncConfig} {scope name : String} {index : Nat}
    (hscope : c.metadata.scope = some scope) (hname : c.metadata.name = some name)
    (hindex : c.finalizerIndex? = some index) (hleaving : c.metadata.isDeleting = true) :
    c.Leaves :=
  ⟨Option.isSome_of_eq_some hscope, Option.isSome_of_eq_some hname,
    isHeld_iff.mpr fun hnone => (nomatch hindex.symm.trans hnone), hleaving⟩

end SyncConfig

namespace Manager

/-- Takes a feed out of the table. The registry still tells of it. -/
def unseat (m : Manager) (key : String) : Manager := { m with feeds := m.feeds.erase key }

/-- Takes a feed out of the registry. -/
def strike (m : Manager) (key : String) : Manager :=
  { m with registry := (m.registry.stop key).2 }

/-- What the task of a feed that is taken down notes in the registry. -/
def note (m : Manager) (key : String) (t : Teardown) : Teardown.Event → Manager
  | .told (.ok _) now => match t.task with
    | .telling told => { m with registry := m.registry.recordResync key told.length now }
    | _ => m
  | _ => m

/-- A feed that is stopped leaves first the table and then the registry. -/
theorem strike_unseat {m : Manager} {key : String} {f : Feed} (h : m.feeds[key]? = some f) :
    (m.unseat key).strike key = m.remove key := by
  have hmem : m.feeds.contains key = true :=
    Std.ExtTreeMap.contains_iff_mem.mpr (Std.ExtTreeMap.getElem?_eq_some_iff.mp h).1
  unfold remove
  rw [if_pos hmem]
  rfl

/-- Whatever is noted about a feed goes when the feed leaves the registry. -/
theorem strike_note (m : Manager) (key : String) (t : Teardown) (e : Teardown.Event) :
    (m.note key t e).strike key = m.strike key := by
  have hrecord : ∀ (count : Nat) (now : Time.Instant),
      (m.registry.recordResync key count now).erase key = m.registry.erase key := by
    intro count now
    unfold Registry.recordResync
    split
    · refine Std.ExtTreeMap.ext_getElem? fun k => ?_
      rw [KeyedMap.getElem?_erase_eq, KeyedMap.getElem?_erase_eq, KeyedMap.getElem?_insert_eq]
      split <;> rfl
    · rfl
  unfold note
  split
  · split
    · exact congrArg (fun registry => { m with registry }) (hrecord _ _)
    · rfl
  · rfl

theorem feeds_stop (m : Manager) (key : String) : (m.stop key).2.feeds[key]? = none :=
  (getElem?_feeds_remove m key key).trans (if_pos rfl)

end Manager

/-- How far the controller is with a configuration. -/
inductive Stage where
  /-- Nothing has been done. -/
  | begun
  /-- The manager was to have a feed run. -/
  | ensured (scope : String) (result : Except ControlError StartOutcome)
  /-- The token has been read, or not. -/
  | probed (scope : String) (token : Except ControlError Unit)
  /-- The finalizer is to be added. -/
  | adding (scope name : String)
  /-- The feed is being taken down. -/
  | parting (scope name : String) (index : Nat) (t : Teardown)
  /-- The manager has stopped the feed, if one ran. -/
  | stopped (scope name : String) (index : Nat) (down : Option Teardown)
  /-- That it has been stopped has been written, or not. -/
  | noted (scope name : String) (index : Nat) (down : Option Teardown)
  /-- All is done. -/
  | done (result : Except ControlError NextStep)

namespace Stage

/-- How it ends once the cluster has answered. -/
def conclude (good : Except ControlError NextStep) (bad : Failure → ControlError) :
    Except Failure SyncConfig → Stage
  | .ok _ => .done good
  | .error f => .done (.error (bad f))

/-- Whether all is done. -/
def isDone : Stage → Bool
  | .done _ => true
  | _ => false

end Stage

/-- A request that was sent to change a configuration, with what had been done by then. -/
structure Sending where
  /-- What was sent. -/
  patch : Patch
  /-- The manager. -/
  manager : Manager
  /-- The feed that had been taken down. -/
  down : Option Teardown

/-- When a request was sent the manager had stopped what ran under a key. -/
structure Sending.AfterStop (x : Sending) (m : Manager) (key : String) : Prop where
  manager : x.manager = (m.stop key).2
  down : ∀ f, m.feeds[key]? = some f → ∃ t, x.down = some t ∧ t.Down f

/-- A request that removes something, in one of its steps. -/
def Removes (p : Patch) : Prop :=
  ∃ steps fields, p.body = .arr steps ∧ .obj fields ∈ steps ∧ ("op", .str "remove") ∈ fields

/-- A configuration that is being reconciled. -/
structure Errand (σ : Type) where
  /-- The manager. -/
  manager : Manager
  /-- The world outside. -/
  world : σ
  /-- How far the controller is. -/
  stage : Stage
  /-- The requests that were sent, the first one first. -/
  sent : List Sending

namespace Errand

/-- An errand at its beginning. -/
def opening (m : Manager) (s : σ) : Errand σ := ⟨m, s, .begun, []⟩

/-- The errand has come so far. -/
def proceed (e : Errand σ) (stage : Stage) : Errand σ := { e with stage }

/-- Sends a request, and goes on with the answer. -/
def send (o : Outside σ) (e : Errand σ) (p : Patch) (down : Option Teardown)
    (next : Except Failure SyncConfig → Stage) : Errand σ :=
  let (answer, s) := o.cluster.apply p SyncConfig.decode e.world
  { e with world := s, stage := next answer, sent := e.sent ++ [⟨p, e.manager, down⟩] }

/-- Writes the status of a configuration from what the registry says now. -/
def report (o : Outside σ) (c : SyncConfig) (e : Errand σ) (scope : String) (reason : ReadyReason)
    (message : String) (next : Except Failure SyncConfig → Stage) : Errand σ :=
  let entry := e.manager.registry[c.key]?
  e.send o (c.statusPatch scope (c.statusNow entry reason message (o.now e.world))) none next

/-- What comes first depends on the finalizer and on whether the configuration is to go. -/
def takeOn (o : Outside σ) (c : SyncConfig) (e : Errand σ) : Errand σ :=
  match c.metadata.scope with
  | none => e.proceed (.done (.error (.missingNamespace c.metadata.nameOrStem)))
  | some scope =>
    match c.finalizerIndex?, c.metadata.isDeleting with
    | some _, false =>
      let ((result, m), s) := e.manager.ensure o c.key scope (Settings.ofSpec c.spec) e.world
      { e with manager := m, world := s, stage := .ensured scope result }
    | some index, true =>
      match c.metadata.name with
      | none => e.proceed (.done (.error .unnamedObject))
      | some name =>
        match e.manager.feeds[c.key]? with
        | none => e.proceed (.stopped scope name index none)
        | some f =>
          { e with
            manager := e.manager.unseat c.key
            stage := .parting scope name index (.opening f) }
    | none, false =>
      match c.metadata.name with
      | none => e.proceed (.done (.error .unnamedObject))
      | some name => e.proceed (.adding scope name)
    | none, true => e.proceed (.done (.ok .awaitChange))

/-- The status to write once the token has been read, or not. -/
def condition (m : Manager) (key : String) : Except ControlError Unit → ReadyReason × String
  | .ok _ => (.watching, m.watchingMessage key)
  | .error e => (.credentialUnavailable, e.message)

/-- The status of a configuration whose feed has been stopped. -/
def lastStatus (o : Outside σ) (c : SyncConfig) (s : σ) : SyncStatus :=
  c.statusNow none .stopped "configuration deleted" (o.now s)

/-- The next thing to do. A feed that is being taken down is waited for. -/
def step (o : Outside σ) (c : SyncConfig) (e : Errand σ) : Errand σ :=
  match e.stage with
  | .begun => e.takeOn o c
  | .ensured scope (.ok _) =>
    let (token, s) := Manager.probe o scope (Settings.ofSpec c.spec) e.world
    { e with world := s, stage := .probed scope token }
  | .ensured scope (.error (.discovery cause)) =>
    e.report o c scope .discoveryFailed (ControlError.discovery cause).message
      (.conclude (.error (.applyFailed (.discovery cause))) fun f => .applyFailed (.kube f))
  | .ensured _ (.error cause) => e.proceed (.done (.error (.applyFailed cause)))
  | .probed scope token =>
    let (reason, message) := condition e.manager c.key token
    e.report o c scope reason message
      (.conclude (.ok .lookAgain) fun f => .applyFailed (.kube f))
  | .adding scope name =>
    e.send o (SyncConfig.stepsPatch scope name c.addition) none
      (.conclude (.ok .awaitChange) .addFinalizer)
  | .parting _ _ _ _ => e
  | .stopped scope name index down =>
    e.send o (c.statusPatch scope (lastStatus o c e.world)) down fun _ =>
      .noted scope name index down
  | .noted scope name index down =>
    e.send o (SyncConfig.stepsPatch scope name (SyncConfig.removal index)) down
      (.conclude (.ok .awaitChange) .removeFinalizer)
  | .done _ => e

/-- All that is left to be done, where no feed has to be taken down. -/
def finish (o : Outside σ) (c : SyncConfig) (e : Errand σ) : Errand σ :=
  ((e.step o c).step o c).step o c

/-- An errand goes on. -/
inductive Moves (o : Outside σ) (c : SyncConfig) : Errand σ → Errand σ → Prop
  /-- The next thing is done. -/
  | act (e : Errand σ) : Moves o c e (e.step o c)
  /-- Something happens to the feed that is being taken down, and in the world. -/
  | part {e : Errand σ} {scope name : String} {index : Nat} {t t' : Teardown}
    (hstage : e.stage = .parting scope name index t) {ev : Teardown.Event}
    (ht : t.step? ev = some t') (s : σ) :
    Moves o c e
      { e with
        manager := e.manager.note c.key t ev, world := s, stage := .parting scope name index t' }
  /-- The feed has been taken down, and leaves the registry. -/
  | parted {e : Errand σ} {scope name : String} {index : Nat} {t : Teardown}
    (hstage : e.stage = .parting scope name index t) (ht : t.Complete) :
    Moves o c e
      { e with manager := e.manager.strike c.key, stage := .stopped scope name index (some t) }

/-- An errand comes to another state. -/
def Reaches (o : Outside σ) (c : SyncConfig) : Errand σ → Errand σ → Prop :=
  Relation.ReflTransGen (Moves o c)

variable {o : Outside σ} {m : Manager} {c : SyncConfig} {s : σ} {e e' r : Errand σ}
  {scope name : String} {index : Nat} {down : Option Teardown} {f : Feed} {t t' : Teardown}

/-! ## All that is left to be done -/

/-- What comes of sending a request is up to the cluster. -/
theorem exists_send (o : Outside σ) (e : Errand σ) (p : Patch) (down : Option Teardown)
    (next : Except Failure SyncConfig → Stage) :
    ∃ answer s, o.cluster.apply p SyncConfig.decode e.world = (answer, s) ∧
      e.send o p down next = ⟨e.manager, s, next answer, e.sent ++ [⟨p, e.manager, down⟩]⟩ :=
  ⟨_, _, rfl, rfl⟩

theorem step_of_done (h : e.stage.isDone = true) : e.step o c = e := by
  obtain ⟨m, s, stage, sent⟩ := e
  cases stage with
  | done result => rfl
  | _ => cases h

theorem finish_of_done (h : e.stage.isDone = true) : e.finish o c = e := by
  unfold finish
  rw [step_of_done h, step_of_done h, step_of_done h]

/-- What has been sent is never taken back. -/
theorem subset_step (o : Outside σ) (c : SyncConfig) (e : Errand σ) :
    e.sent ⊆ (e.step o c).sent := by
  have hsend : ∀ p down next, e.sent ⊆ (e.send o p down next).sent :=
    fun p down next => List.subset_append_left _ _
  have htakeOn : (e.takeOn o c).sent = e.sent := by
    unfold takeOn
    repeat' split
    all_goals rfl
  obtain ⟨m, s, stage, sent⟩ := e
  cases stage with
  | begun => exact htakeOn ▸ List.Subset.refl _
  | ensured scope result =>
    cases result with
    | ok outcome => exact List.Subset.refl _
    | error cause =>
      cases cause with
      | discovery text => exact hsend _ _ _
      | _ => exact List.Subset.refl _
  | parting scope name index t => exact List.Subset.refl _
  | done result => exact List.Subset.refl _
  | _ => exact hsend _ _ _

theorem subset_finish (o : Outside σ) (c : SyncConfig) (e : Errand σ) :
    e.sent ⊆ (e.finish o c).sent :=
  List.Subset.trans (List.Subset.trans (subset_step o c e) (subset_step o c _)) (subset_step o c _)

/-- Nothing but what is left to be done can happen any more. -/
structure Bound (o : Outside σ) (c : SyncConfig) (e r : Errand σ) : Prop where
  finish : e.finish o c = r
  done : r.stage.isDone = true

theorem Bound.not_parting (h : Bound o c e r) :
    e.stage ≠ .parting scope name index t := by
  intro hstage
  have hstep : e.step o c = e := by
    unfold step
    rw [hstage]
  have hfinish := h.finish
  unfold Errand.finish at hfinish
  rw [hstep, hstep, hstep] at hfinish
  have hdone := h.done
  rw [← hfinish, hstage] at hdone
  cases hdone

theorem Bound.moves (h : Bound o c e r) (hm : Moves o c e e') : Bound o c e' r := by
  cases hm with
  | act =>
    refine ⟨?_, h.done⟩
    show (e.finish o c).step o c = r
    rw [h.finish]
    exact step_of_done h.done
  | part hstage => exact absurd hstage h.not_parting
  | parted hstage => exact absurd hstage h.not_parting

theorem Bound.eq_of_done (h : Bound o c e r) (he : e.stage.isDone = true) : e = r :=
  (finish_of_done he).symm.trans h.finish

theorem reaches_finish (o : Outside σ) (c : SyncConfig) (e : Errand σ) :
    Reaches o c e (e.finish o c) :=
  ((Relation.ReflTransGen.single (.act e)).tail (.act _)).tail (.act _)

theorem Bound.reaches (h : Bound o c e r) : Reaches o c e r := h.finish ▸ reaches_finish o c e

/-! ## Done stage by stage or in one go -/

/-- An errand has been done, with what the other way of doing it gives. -/
structure Ends (e : Errand σ) (r : (Except ControlError NextStep × Manager) × σ) : Prop where
  stage : e.stage = .done r.1.1
  manager : e.manager = r.1.2
  world : e.world = r.2

/-- What an errand has come to at its end, where the world was in the given state when the feed had
been stopped. -/
structure Concluded (o : Outside σ) (m : Manager) (c : SyncConfig) (s : σ) (r : Errand σ) :
    Prop where
  ends : r.Ends (m.reconcile o c s)
  leaving : c.Leaves → ∃ scope name index, c.metadata.scope = some scope ∧
    c.metadata.name = some name ∧ c.finalizerIndex? = some index ∧
    r.sent.map (·.patch) = [c.statusPatch scope (lastStatus o c s),
      SyncConfig.stepsPatch scope name (SyncConfig.removal index)] ∧
    ∀ x ∈ r.sent, x.AfterStop m c.key
  staying : ¬ c.Leaves → ∀ x ∈ r.sent, ¬ Removes x.patch

theorem Concluded.done (h : Concluded o m c s r) : r.stage.isDone = true := by
  rw [h.ends.stage]
  rfl

/-- A status is not written in steps. -/
theorem not_removes_statusPatch (scope : String) (c : SyncConfig) (status : SyncStatus) :
    ¬ Removes (c.statusPatch scope status) := by
  rintro ⟨steps, fields, hbody, -⟩
  cases hbody

/-- The finalizer is added without removing anything. -/
theorem not_removes_addition (scope name : String) (c : SyncConfig) :
    ¬ Removes (SyncConfig.stepsPatch scope name c.addition) := by
  rintro ⟨steps, fields, hbody, hsteps, hremove⟩
  have hsteps' : ∃ a b d, steps = [SyncConfig.testStep SyncConfig.finalizersPath a,
      SyncConfig.addStep b d] := by
    have hbody : c.addition = .arr steps := hbody
    unfold SyncConfig.addition at hbody
    split at hbody
    · cases hbody
      exact ⟨_, _, _, rfl⟩
    · cases hbody
      exact ⟨_, _, _, rfl⟩
  obtain ⟨a, b, d, rfl⟩ := hsteps'
  rcases List.mem_cons.mp hsteps with hstep | hstep
  · cases hstep
    simp at hremove
  · cases List.mem_singleton.mp hstep
    simp at hremove

/-- Writing the status by itself is writing it in an errand. -/
theorem exists_report (o : Outside σ) (c : SyncConfig) (e : Errand σ) (scope : String)
    (reason : ReadyReason) (message : String) (next : Except Failure SyncConfig → Stage) :
    ∃ answer s status, e.report o c scope reason message next =
        ⟨e.manager, s, next answer, e.sent ++ [⟨c.statusPatch scope status, e.manager, none⟩]⟩ ∧
      e.manager.report o scope c reason message e.world =
        ((answer.mapError .kube).map fun _ => (), s) :=
  ⟨_, _, _, rfl, rfl⟩

/-- The errand for a configuration that stays, after the manager was to have its feed run. -/
def ensured (o : Outside σ) (m : Manager) (c : SyncConfig) (scope : String) (s : σ) : Errand σ :=
  let r := m.ensure o c.key scope (Settings.ofSpec c.spec) s
  ⟨r.1.2, r.2, .ensured scope r.1.1, []⟩

/-- The feed of a configuration that stays is to run, and how it is doing is written. -/
theorem ends_takeUp (o : Outside σ) (m : Manager) (c : SyncConfig) (s : σ) (scope : String) :
    ((((ensured o m c scope s).step o c).step o c).Ends
      (((m.takeUp o scope c s).1.1.mapError .applyFailed, (m.takeUp o scope c s).1.2),
        (m.takeUp o scope c s).2)) ∧
      ∀ x ∈ (((ensured o m c scope s).step o c).step o c).sent,
        ∃ status, x.patch = c.statusPatch scope status := by
  unfold Manager.takeUp ensured
  dsimp only
  obtain ⟨⟨⟨result, m'⟩, s'⟩, hensure⟩ :
      ∃ r, m.ensure o c.key scope (Settings.ofSpec c.spec) s = r := ⟨_, rfl⟩
  rw [hensure]
  have hone : ∀ status, ∀ x ∈ [(⟨c.statusPatch scope status, m', none⟩ : Sending)],
      ∃ status, x.patch = c.statusPatch scope status := by
    intro status x hx
    rw [List.mem_singleton.mp hx]
    exact ⟨status, rfl⟩
  cases result with
  | ok outcome =>
    obtain ⟨⟨token, s₁⟩, hprobe⟩ : ∃ r, Manager.probe o scope (Settings.ofSpec c.spec) s' = r :=
      ⟨_, rfl⟩
    obtain ⟨answer, s₂, status, hreport, hmanager⟩ := exists_report o c
      ⟨m', s₁, .probed scope token, []⟩ scope (condition m' c.key token).1
      (condition m' c.key token).2 (.conclude (.ok .lookAgain) fun f => .applyFailed (.kube f))
    have hstep : ((⟨m', s', .ensured scope (.ok outcome), []⟩ : Errand σ).step o c).step o c =
        ⟨m', s₂, .conclude (.ok .lookAgain) (fun f => .applyFailed (.kube f)) answer,
          [⟨c.statusPatch scope status, m', none⟩]⟩ := by
      dsimp only [step]
      rw [hprobe]
      exact hreport
    rw [hstep]
    refine ⟨?_, hone status⟩
    dsimp only
    rw [hprobe]
    cases token with
    | ok u =>
      dsimp only [condition] at hmanager ⊢
      rw [hmanager]
      cases answer <;> exact ⟨rfl, rfl, rfl⟩
    | error e =>
      dsimp only [condition] at hmanager ⊢
      rw [hmanager]
      cases answer <;> exact ⟨rfl, rfl, rfl⟩
  | error cause =>
    by_cases hcause : ∃ text, cause = .discovery text
    · obtain ⟨text, rfl⟩ := hcause
      obtain ⟨answer, s₁, status, hreport, hmanager⟩ := exists_report o c
        ⟨m', s', .ensured scope (.error (.discovery text)), []⟩ scope .discoveryFailed
        (ControlError.discovery text).message
        (.conclude (.error (.applyFailed (.discovery text))) fun f => .applyFailed (.kube f))
      have hstep : (⟨m', s', .ensured scope (.error (.discovery text)), []⟩ : Errand σ).step o c =
          ⟨m', s₁, .conclude (.error (.applyFailed (.discovery text)))
            (fun f => .applyFailed (.kube f)) answer,
            [⟨c.statusPatch scope status, m', none⟩]⟩ := hreport
      have hdone : ∀ answer, (Stage.conclude (.error (.applyFailed (.discovery text)))
          (fun f => .applyFailed (.kube f)) answer).isDone = true := by
        intro answer
        cases answer <;> rfl
      rw [hstep, step_of_done (hdone answer)]
      refine ⟨?_, hone status⟩
      dsimp only at hmanager ⊢
      rw [hmanager]
      cases answer <;> exact ⟨rfl, rfl, rfl⟩
    · cases cause with
      | discovery text => exact absurd ⟨text, rfl⟩ hcause
      | _ => exact ⟨⟨rfl, rfl, rfl⟩, fun x hx => (nomatch hx)⟩

/-- After the feed of a configuration that is about to go has been stopped, its status is written
and its finalizer removed, whatever the cluster answers. -/
theorem concluded_of_stopped (o : Outside σ) (m : Manager) (s : σ) (down : Option Teardown)
    (hscope : c.metadata.scope = some scope) (hname : c.metadata.name = some name)
    (hindex : c.finalizerIndex? = some index) (hleaving : c.metadata.isDeleting = true)
    (hdown : ∀ f, m.feeds[c.key]? = some f → ∃ t, down = some t ∧ t.Down f) :
    let stopped : Errand σ := ⟨(m.stop c.key).2, s, .stopped scope name index down, []⟩
    Concluded o m c s ((stopped.step o c).step o c) := by
  intro stopped
  set m' := (m.stop c.key).2 with hm'
  set status := c.statusPatch scope (lastStatus o c s) with hstatus
  set removal := SyncConfig.stepsPatch scope name (SyncConfig.removal index) with hremoval
  obtain ⟨noted, s₁, hnoted, hsend₁⟩ := exists_send o
    ⟨m', s, .stopped scope name index down, []⟩ status down fun _ => .noted scope name index down
  obtain ⟨removed, s₂, hremoved, hsend₂⟩ := exists_send o
    ⟨m', s₁, .noted scope name index down, [⟨status, m', down⟩]⟩ removal down
    (.conclude (.ok .awaitChange) .removeFinalizer)
  have hfirst : (⟨m', s, .stopped scope name index down, []⟩ : Errand σ).step o c =
      ⟨m', s₁, .noted scope name index down, [⟨status, m', down⟩]⟩ := hsend₁
  have hsecond : (⟨m', s₁, .noted scope name index down, [⟨status, m', down⟩]⟩ :
      Errand σ).step o c = ⟨m', s₂, .conclude (.ok .awaitChange) .removeFinalizer removed,
        [⟨status, m', down⟩, ⟨removal, m', down⟩]⟩ := hsend₂
  rw [hfirst, hsecond]
  refine ⟨?_, fun _ => ⟨scope, name, index, hscope, hname, hindex, rfl, ?_⟩,
    fun hno => absurd (SyncConfig.leaves_of_parts hscope hname hindex hleaving) hno⟩
  · have hgiveUp : m.giveUp o scope c s = (m', s₁) :=
      congrArg (Prod.mk m') (congrArg Prod.snd hnoted)
    have hchange : SyncConfig.change o scope name (SyncConfig.removal index) s₁ = (removed, s₂) :=
      hremoved
    unfold Manager.reconcile
    rw [hscope, hindex, hleaving]
    dsimp only
    unfold Manager.dismiss
    rw [hname]
    dsimp only
    rw [hgiveUp]
    dsimp only
    rw [hchange]
    cases removed <;> exact ⟨rfl, rfl, rfl⟩
  · intro x hx
    rcases List.mem_cons.mp hx with rfl | hx
    · exact ⟨rfl, hdown⟩
    · rw [List.mem_singleton.mp hx]
      exact ⟨rfl, hdown⟩

/-- A configuration without a finalizer gets one, and nothing else is done. -/
theorem finish_of_new (o : Outside σ) (m : Manager) (s : σ)
    (hscope : c.metadata.scope = some scope) (hname : c.metadata.name = some name)
    (hindex : c.finalizerIndex? = none) (hstays : c.metadata.isDeleting = false) :
    ((opening m s).finish o c).Ends (m.reconcile o c s) ∧
      ((opening m s).finish o c).sent =
        [⟨SyncConfig.stepsPatch scope name c.addition, m, none⟩] := by
  obtain ⟨added, s₁, hadded, hsend⟩ := exists_send o ⟨m, s, .adding scope name, []⟩
    (SyncConfig.stepsPatch scope name c.addition) none (.conclude (.ok .awaitChange) .addFinalizer)
  have hfirst : (opening m s).step o c = ⟨m, s, .adding scope name, []⟩ := by
    show takeOn o c _ = _
    unfold takeOn
    rw [hscope, hindex, hstays, hname]
    rfl
  have hfinish : (opening m s).finish o c =
      ⟨m, s₁, .conclude (.ok .awaitChange) .addFinalizer added,
        [⟨SyncConfig.stepsPatch scope name c.addition, m, none⟩]⟩ := by
    have hsecond : (⟨m, s, .adding scope name, []⟩ : Errand σ).step o c = _ := hsend
    unfold finish
    rw [hfirst, hsecond]
    refine step_of_done ?_
    cases added <;> rfl
  rw [hfinish]
  refine ⟨?_, rfl⟩
  have hchange : SyncConfig.change o scope name c.addition s = (added, s₁) := hadded
  unfold Manager.reconcile
  rw [hscope, hindex, hstays]
  dsimp only
  unfold Manager.addFinalizer
  rw [hname]
  dsimp only
  rw [hchange]
  cases added <;> exact ⟨rfl, rfl, rfl⟩

/-- With some configurations nothing is to be done. -/
theorem concluded_of_idle (result : Except ControlError NextStep) (hno : ¬ c.Leaves)
    (htake : takeOn o c (opening m s) = ⟨m, s, .done result, []⟩)
    (hreconcile : m.reconcile o c s = ((result, m), s)) :
    Concluded o m c s ((opening m s).finish o c) := by
  have hfinish : (opening m s).finish o c = ⟨m, s, .done result, []⟩ := by
    show Errand.step o c (Errand.step o c (takeOn o c (opening m s))) = _
    rw [htake]
    rfl
  rw [hfinish]
  refine ⟨?_, fun hleaves => absurd hleaves hno, fun _ x hx => (nomatch hx)⟩
  rw [hreconcile]
  exact ⟨rfl, rfl, rfl⟩

/-- Where no feed has to be taken down an errand is bound to come to its end. -/
theorem concluded_finish (o : Outside σ) (m : Manager) (c : SyncConfig) (s : σ)
    (h : c.Leaves → m.feeds[c.key]? = none) :
    Concluded o m c s ((opening m s).finish o c) := by
  cases hscope : c.metadata.scope with
  | none =>
    refine concluded_of_idle (.error (.missingNamespace c.metadata.nameOrStem)) (fun hl => ?_)
      ?_ ?_
    · obtain ⟨_, _, _, hsome, -⟩ := hl.parts
      cases hscope.symm.trans hsome
    · unfold takeOn
      rw [hscope]
      rfl
    · unfold Manager.reconcile
      rw [hscope]
  | some scope =>
    cases hleaving : c.metadata.isDeleting with
    | false =>
      have hno : ¬ c.Leaves := fun hl => by
        obtain ⟨_, _, _, _, _, _, hgoes⟩ := hl.parts
        cases hleaving.symm.trans hgoes
      cases hindex : c.finalizerIndex? with
      | some index =>
        obtain ⟨hends, hsent⟩ := ends_takeUp o m c s scope
        have hfirst : (opening m s).step o c = ensured o m c scope s := by
          show takeOn o c _ = _
          unfold takeOn
          rw [hscope, hindex, hleaving]
          rfl
        unfold finish
        rw [hfirst]
        refine ⟨?_, fun hleaves => absurd hleaves hno, fun _ x hx => ?_⟩
        · unfold Manager.reconcile
          rw [hscope, hindex, hleaving]
          exact hends
        · obtain ⟨status, hpatch⟩ := hsent x hx
          rw [hpatch]
          exact not_removes_statusPatch scope c status
      | none =>
        cases hname : c.metadata.name with
        | some name =>
          obtain ⟨hends, hsent⟩ := finish_of_new o m s hscope hname hindex hleaving
          refine ⟨hends, fun hleaves => absurd hleaves hno, fun _ x hx => ?_⟩
          rw [hsent] at hx
          rw [List.mem_singleton.mp hx]
          exact not_removes_addition scope name c
        | none =>
          refine concluded_of_idle (.error .unnamedObject) hno ?_ ?_
          · unfold takeOn
            rw [hscope, hindex, hleaving, hname]
            rfl
          · unfold Manager.reconcile Manager.addFinalizer
            rw [hscope, hindex, hleaving, hname]
    | true =>
      cases hindex : c.finalizerIndex? with
      | some index =>
        cases hname : c.metadata.name with
        | some name =>
          -- no feed runs, so that there is nothing to wait for
          have hnone : m.feeds[c.key]? = none :=
            h (SyncConfig.leaves_of_parts hscope hname hindex hleaving)
          have hstop : (m.stop c.key).2 = m := Manager.remove_of_none hnone
          have hfirst : (opening m s).step o c =
              ⟨(m.stop c.key).2, s, .stopped scope name index none, []⟩ := by
            have hfeed : (opening m s).manager.feeds[c.key]? = none := hnone
            rw [hstop]
            show takeOn o c (opening m s) = _
            unfold takeOn
            rw [hscope, hindex, hleaving, hname]
            dsimp only
            rw [hfeed]
            rfl
          unfold finish
          rw [hfirst]
          exact concluded_of_stopped o m s none hscope hname hindex hleaving fun f hf =>
            (nomatch hnone.symm.trans hf)
        | none =>
          refine concluded_of_idle (.error .unnamedObject) (fun hl => ?_) ?_ ?_
          · obtain ⟨_, _, _, _, hsome, -⟩ := hl.parts
            cases hname.symm.trans hsome
          · unfold takeOn
            rw [hscope, hindex, hleaving, hname]
            rfl
          · unfold Manager.reconcile Manager.dismiss
            rw [hscope, hindex, hleaving, hname]
      | none =>
        refine concluded_of_idle (.ok .awaitChange) (fun hl => ?_) ?_ ?_
        · obtain ⟨_, _, _, _, _, hsome, -⟩ := hl.parts
          cases hindex.symm.trans hsome
        · unfold takeOn
          rw [hscope, hindex, hleaving]
          rfl
        · unfold Manager.reconcile
          rw [hscope, hindex, hleaving]

/-! ## While a feed is taken down -/

/-- The errand waits for the feed of a configuration that is given up. -/
structure Parts (m : Manager) (c : SyncConfig) (f : Feed) (t : Teardown) (e : Errand σ) : Prop where
  feed : m.feeds[c.key]? = some f
  leaving : c.metadata.isDeleting = true
  stage : ∃ scope name index, c.metadata.scope = some scope ∧ c.metadata.name = some name ∧
    c.finalizerIndex? = some index ∧ e.stage = .parting scope name index t
  kept : t.Kept f
  manager : e.manager.strike c.key = (m.stop c.key).2
  sent : e.sent = []

/-- A feed that is to be stopped leaves the table, and is taken down from then on. -/
theorem parts_step_opening (hleaves : c.Leaves) (hf : m.feeds[c.key]? = some f) (o : Outside σ)
    (s : σ) :
    Parts m c f (.opening f) ((opening m s).step o c) ∧ ((opening m s).step o c).world = s := by
  obtain ⟨scope, name, index, hscope, hname, hindex, hleaving⟩ := hleaves.parts
  have hfeed : (opening m s).manager.feeds[c.key]? = some f := hf
  have hstep : (opening m s).step o c =
      ⟨m.unseat c.key, s, .parting scope name index (.opening f), []⟩ := by
    show takeOn o c (opening m s) = _
    unfold takeOn
    rw [hscope, hindex, hleaving, hname]
    dsimp only
    rw [hfeed]
    rfl
  rw [hstep]
  exact ⟨⟨hf, hleaving, ⟨scope, name, index, hscope, hname, hindex, rfl⟩,
    Teardown.kept_opening f, Manager.strike_unseat hf, rfl⟩, rfl⟩

theorem Parts.leaves (h : Parts m c f t e) : c.Leaves := by
  obtain ⟨_, _, _, hscope, hname, hindex, -⟩ := h.stage
  exact SyncConfig.leaves_of_parts hscope hname hindex h.leaving

theorem Parts.not_done (h : Parts m c f t e) : e.stage.isDone = false := by
  obtain ⟨_, _, _, _, _, _, hstage⟩ := h.stage
  rw [hstage]
  rfl

/-- Whatever happens to the feed, the errand waits. -/
theorem Parts.part (h : Parts m c f t e) {ev : Teardown.Event} (ht : t.step? ev = some t')
    (hstage : e.stage = .parting scope name index t) (s : σ) :
    Parts m c f t' { e with
      manager := e.manager.note c.key t ev
      world := s
      stage := .parting scope name index t' } := by
  obtain ⟨scope', name', index', hscope, hname, hindex, hstage'⟩ := h.stage
  cases hstage.symm.trans hstage'
  exact ⟨h.feed, h.leaving, ⟨scope, name, index, hscope, hname, hindex, rfl⟩, h.kept.step ht,
    (Manager.strike_note _ _ _ _).trans h.manager, h.sent⟩

/-- When the feed has been taken down the errand is bound to come to its end. -/
theorem Parts.parted (h : Parts m c f t e) (ht : t.Complete)
    (hstage : e.stage = .parting scope name index t) (o : Outside σ) :
    ∃ r, Bound o c
      { e with manager := e.manager.strike c.key, stage := .stopped scope name index (some t) } r ∧
      Concluded o m c e.world r := by
  obtain ⟨scope', name', index', hscope, hname, hindex, hstage'⟩ := h.stage
  cases hstage.symm.trans hstage'
  have hconcluded := concluded_of_stopped o m e.world (some t) hscope hname hindex
    h.leaving fun f' hf' => ⟨t, rfl, Option.some.inj (h.feed.symm.trans hf') ▸ h.kept.down ht⟩
  rw [h.manager, h.sent]
  exact ⟨_, ⟨step_of_done hconcluded.done, hconcluded.done⟩, hconcluded⟩

theorem Parts.moves (h : Parts m c f t e) (hm : Moves o c e e') :
    (∃ t', Parts m c f t' e') ∨ ∃ r, Bound o c e' r ∧ Concluded o m c e.world r := by
  cases hm with
  | act =>
    obtain ⟨_, _, _, _, _, _, hstage⟩ := h.stage
    have hstep : e.step o c = e := by
      unfold step
      rw [hstage]
    rw [hstep]
    exact .inl ⟨t, h⟩
  | @part _ _ _ _ t' hstage _ ht s =>
    obtain ⟨_, _, _, _, _, _, hstage'⟩ := h.stage
    cases hstage.symm.trans hstage'
    exact .inl ⟨t', h.part ht hstage s⟩
  | parted hstage ht =>
    obtain ⟨_, _, _, _, _, _, hstage'⟩ := h.stage
    cases hstage.symm.trans hstage'
    exact .inr (h.parted ht hstage o)

/-- Whatever can happen to the feed can happen while the errand waits, and leave the world alone. -/
theorem Parts.leads (h : Parts m c f t e) (ht : t.Leads t') (o : Outside σ) :
    ∃ e', Reaches o c e e' ∧ Parts m c f t' e' ∧ e'.world = e.world := by
  obtain ⟨es, hes⟩ := ht
  refine Runs.induction (motive := fun _ t' => ∃ e', Reaches o c e e' ∧ Parts m c f t' e' ∧
    e'.world = e.world) ⟨e, .refl, h, rfl⟩ (fun _ _ ev _ _ hm hs => ?_) hes
  obtain ⟨e', hreaches, hparts, hworld⟩ := hm
  obtain ⟨scope, name, index, _, _, _, hstage⟩ := hparts.stage
  exact ⟨_, hreaches.tail (.part hstage hs e'.world), hparts.part hs hstage e'.world, hworld⟩

theorem Parts.exists_concluded (h : Parts m c f t e) (o : Outside σ) :
    ∃ r, Reaches o c e r ∧ Concluded o m c e.world r := by
  obtain ⟨t', hleads, hcomplete⟩ := h.kept.exists_complete
  obtain ⟨e', hreaches, hparts, hworld⟩ := h.leads hleads o
  obtain ⟨scope, name, index, _, _, _, hstage⟩ := hparts.stage
  obtain ⟨r, hbound, hconcluded⟩ := hparts.parted hcomplete hstage o
  refine ⟨r, (hreaches.tail (.parted hstage hcomplete)).trans hbound.reaches, ?_⟩
  rw [← hworld]
  exact hconcluded

/-! ## Where an errand can come to -/

/-- How far an errand can have come: it has to take a feed down and has not done so, or it is bound
to come to its end. -/
inductive Underway (o : Outside σ) (m : Manager) (c : SyncConfig) (s : σ) (e : Errand σ) : Prop
  /-- The feed has not been stopped yet. -/
  | begun {f : Feed} (hleaves : c.Leaves) (hf : m.feeds[c.key]? = some f) (he : e = opening m s)
  /-- It is being taken down. -/
  | parting {f : Feed} {t : Teardown} (hparts : Parts m c f t e)
  /-- There is no feed to be taken down any more. -/
  | bound {s' : σ} {r : Errand σ} (hbound : Bound o c e r) (hconcluded : Concluded o m c s' r)
    (hworld : ¬ c.Leaves → s' = s)

theorem underway_opening (o : Outside σ) (m : Manager) (c : SyncConfig) (s : σ) :
    (opening m s).Underway o m c s := by
  by_cases h : c.Leaves → m.feeds[c.key]? = none
  · have hconcluded := concluded_finish o m c s h
    exact .bound ⟨rfl, hconcluded.done⟩ hconcluded fun _ => rfl
  · obtain ⟨hleaves, hsome⟩ := Classical.not_imp.mp h
    obtain ⟨f, hf⟩ := Option.ne_none_iff_exists'.mp hsome
    exact .begun hleaves hf rfl

theorem Underway.moves (h : e.Underway o m c s) (hm : Moves o c e e') : e'.Underway o m c s := by
  cases h with
  | begun hleaves hf he =>
    subst he
    cases hm with
    | act => exact .parting (parts_step_opening hleaves hf o s).1
    | part hstage => cases hstage
    | parted hstage => cases hstage
  | parting hparts =>
    rcases hparts.moves hm with ⟨t', hparts'⟩ | ⟨r, hbound, hconcluded⟩
    · exact .parting hparts'
    · exact .bound hbound hconcluded fun hno => absurd hparts.leaves hno
  | bound hbound hconcluded hworld => exact .bound (hbound.moves hm) hconcluded hworld

theorem underway_of_reaches (h : Reaches o c (opening m s) e) : e.Underway o m c s := by
  induction h with
  | refl => exact underway_opening o m c s
  | tail _ hm ih => exact ih.moves hm

/-- However far an errand is, it can come to its end. -/
theorem Underway.exists_concluded (h : e.Underway o m c s) :
    ∃ r s', Reaches o c e r ∧ Concluded o m c s' r := by
  cases h with
  | begun hleaves hf he =>
    subst he
    obtain ⟨r, hreaches, hconcluded⟩ := (parts_step_opening hleaves hf o s).1.exists_concluded o
    exact ⟨r, _, .head (.act _) hreaches, hconcluded⟩
  | parting hparts =>
    obtain ⟨r, hreaches, hconcluded⟩ := hparts.exists_concluded o
    exact ⟨r, _, hreaches, hconcluded⟩
  | @bound s' r hbound hconcluded _ => exact ⟨r, s', hbound.reaches, hconcluded⟩

/-- What `Manager.reconcile` does in one go is one of the ends that an errand can come to. -/
theorem exists_ends (o : Outside σ) (m : Manager) (c : SyncConfig) (s : σ) :
    ∃ r, Reaches o c (opening m s) r ∧ r.Ends (m.reconcile o c s) := by
  by_cases h : c.Leaves → m.feeds[c.key]? = none
  · exact ⟨_, reaches_finish o c (opening m s), (concluded_finish o m c s h).ends⟩
  · obtain ⟨hleaves, hsome⟩ := Classical.not_imp.mp h
    obtain ⟨f, hf⟩ := Option.ne_none_iff_exists'.mp hsome
    obtain ⟨hparts, hworld⟩ := parts_step_opening hleaves hf o s
    obtain ⟨r, hreaches, hconcluded⟩ := hparts.exists_concluded o
    rw [hworld] at hconcluded
    exact ⟨r, .head (.act _) hreaches, hconcluded.ends⟩

/-- An errand that is done has come to an end. -/
theorem exists_concluded_of_done (h : Reaches o c (opening m s) e) (hdone : e.stage.isDone = true) :
    ∃ s', Concluded o m c s' e ∧ (¬ c.Leaves → s' = s) := by
  cases underway_of_reaches h with
  | begun _ _ he =>
    rw [he] at hdone
    cases hdone
  | parting hparts =>
    rw [hparts.not_done] at hdone
    cases hdone
  | @bound s' r hbound hconcluded hworld =>
    exact ⟨s', hbound.eq_of_done hdone ▸ hconcluded, hworld⟩

/-- Whatever an errand sends is part of what it has sent at its end. -/
theorem exists_concluded_of_mem (h : Reaches o c (opening m s) e) {x : Sending} (hx : x ∈ e.sent) :
    ∃ r s', Concluded o m c s' r ∧ x ∈ r.sent := by
  cases underway_of_reaches h with
  | begun _ _ he =>
    rw [he] at hx
    cases hx
  | parting hparts =>
    rw [hparts.sent] at hx
    cases hx
  | @bound s' r hbound hconcluded _ =>
    exact ⟨r, s', hconcluded, hbound.finish ▸ subset_finish o c e hx⟩

end Errand

end ClusterFeed.Control
