import ClusterFeed.Proofs.Control.Agreement
import ClusterFeed.Proofs.Control.Ensuring

/-!
# Work that goes on undisturbed

When the manager does one thing under a key from its beginning to its end, and nothing else happens
meanwhile, its office does what the manager does in one go.

So what holds of `ensure_running`, `stop`, `resync` and `shutdown` piece by piece holds of
`Manager.ensure`, `Manager.stop`, `Manager.resync` and `Manager.shutdown?`.
-/

namespace ClusterFeed.Control

open Sync (SyncError)

/-! ## What a resync of a feed tells -/

namespace Feed

variable {σ : Type} {f : Feed}

theorem resync_of_not_notes (h : f.notesResync = false) (o : Outside σ) (opts : Options) (s : σ) :
    f.resync o opts s = (.ok 0, s) := by
  unfold resync resyncOnce transport
  unfold notesResync at h
  cases htarget : f.settings.hasTarget with
  | false => rfl
  | true =>
    rw [htarget, Bool.true_and, Bool.not_eq_false'] at h
    simp only [if_true, h]

theorem resync_of_notes (h : f.notesResync = true) (o : Outside σ) (opts : Options) (s : σ) :
    ∃ (answer : Except SyncError Sync.Response) (s' : σ), f.resync o opts s =
      (answer.map fun _ => (ResyncSource.collect (o.now s) f.sources).length, s') := by
  unfold resync resyncOnce transport
  unfold notesResync at h
  obtain ⟨htarget, hsources⟩ := Bool.and_eq_true_iff.mp h
  rw [Bool.not_eq_true'] at hsources
  simp only [htarget, if_true, hsources]
  exact ⟨_, _, rfl⟩

end Feed

namespace Office

open Cluster (Failure)
open Time (Instant)

variable {σ : Type} {w w' w'' : Office} {key : String} {n : Nat}

/-- The manager that is seen in an office, with the options and the clock of a given one. -/
def manager (w : Office) (m : Manager) : Manager :=
  { m with registry := w.registry, feeds := w.feeds, pinned := w.pinned }

/-- One office comes from the other by some events. -/
def Reaches (w w' : Office) : Prop := ∃ es, w.run? es = some w'

/-- Something has been done: the manager is now another one, and the answer has been given. -/
structure Has (w w' : Office) (m m' : Manager) (a : Answer) : Prop where
  manager : w'.manager m = m'
  answers : w'.answers = w.answers ++ [a]
  work : w'.work = w.work

theorem Reaches.refl (w : Office) : w.Reaches w := ⟨[], rfl⟩

theorem Reaches.trans (h : w.Reaches w') (h' : w'.Reaches w'') : w.Reaches w'' := by
  obtain ⟨es, hes⟩ := h
  obtain ⟨es', hes'⟩ := h'
  exact ⟨es ++ es', Runs.append_eq_some_iff.mpr ⟨w', hes, hes'⟩⟩

theorem reaches_of_step {e : Event} (h : w.step? e = some w') : w.Reaches w' :=
  ⟨[e], by unfold run?; rw [List.foldlM_cons, h]; rfl⟩

/-! ## Only the last stage under a key counts -/

@[simp] theorem pinned_proceed (w : Office) (key : String) (s : Work) :
    (w.proceed key s).pinned = w.pinned := rfl

@[simp] theorem table_proceed (w : Office) (key : String) (s : Work) :
    (w.proceed key s).table = w.table := rfl

@[simp] theorem work_proceed (w : Office) (key : String) (s : Work) :
    (w.proceed key s).work[key]? = some s :=
  (KeyedMap.getElem?_insert_eq _ _ _ _).trans (if_pos rfl)

@[simp] theorem proceed_proceed (w : Office) (key : String) (s s' : Work) :
    (w.proceed key s).proceed key s' = w.proceed key s' := by
  have hwork : (w.work.insert key s).insert key s' = w.work.insert key s' := by
    ext1 k
    simp only [KeyedMap.getElem?_insert_eq]
    split <;> rfl
  unfold proceed
  dsimp only
  rw [hwork]

@[simp] theorem finish_proceed (w : Office) (key : String) (s : Work) (a : Answer) :
    (w.proceed key s).finish key a = w.finish key a := by
  have hwork : (w.work.insert key s).erase key = w.work.erase key := by
    ext1 k
    simp only [KeyedMap.getElem?_erase_eq, KeyedMap.getElem?_insert_eq]
    split <;> rfl
  unfold finish proceed
  dsimp only
  rw [hwork]

theorem work_finish (hidle : key ∉ w.work) (a : Answer) : (w.finish key a).work = w.work := by
  show w.work.erase key = w.work
  ext1 k
  rw [KeyedMap.getElem?_erase_eq]
  split
  · rename_i hk
    rw [← hk, (getElem?_eq_none_iff _ _).mpr hidle]
  · rfl

@[simp] theorem onFound_proceed (w : Office) (key : String) (s : Work) (order : Order) (aim : Aim)
    (found : Except ControlError (List WatchedType)) :
    (w.proceed key s).onFound key order aim found = w.onFound key order aim found := by
  unfold onFound
  cases aim with
  | compare f => simp only [finish_proceed, proceed_proceed]
  | launch outcome => cases found <;> simp only [finish_proceed, proceed_proceed]

@[simp] theorem onFree_proceed (w : Office) (key : String) (s : Work) (order : Order)
    (outcome : StartOutcome) (found : Option (Except ControlError (List WatchedType))) :
    (w.proceed key s).onFree key order outcome found = w.onFree key order outcome found := by
  unfold onFree
  cases found <;> simp only [onFound_proceed, proceed_proceed]

@[simp] theorem onReached_proceed (w : Office) (key : String) (s : Work) (order : Order)
    (known : Option Feed) (answer : Except Failure Unit) :
    (w.proceed key s).onReached key order known answer = w.onReached key order known answer := by
  unfold onReached
  split
  · rw [finish_proceed]
  · rw [proceed_proceed]
  · simp only [proceed_proceed]

@[simp] theorem onReplied_proceed (w : Office) (key : String) (s : Work) (n : Nat)
    (told : List Snapshot) (answer : Except SyncError Sync.Response) (now : Instant) :
    (w.proceed key s).onReplied key n told answer now = w.onReplied key n told answer now := by
  cases answer with
  | error e => exact finish_proceed w key s _
  | ok r => exact finish_proceed (w.note key n told now) key s _

/-! ## The stages -/

/-- The types are found out as the manager finds them out. -/
theorem reaches_onFound (o : Outside σ) (m : Manager) (s : σ) (w : Office) (key : String)
    (order : Order) (aim : Aim) :
    (w.proceed key (.seeking order aim)).Reaches
      (w.onFound key order aim ((w.manager m).resolve o s).1) := by
  unfold Manager.resolve
  cases hpinned : w.pinned with
  | some types =>
    refine reaches_of_step (e := .consulted key) ?_
    simp only [step?, work_proceed, pinned_proceed, hpinned, onFound_proceed, manager]
  | none =>
    have hfirst : (w.proceed key (.seeking order aim)).step? (.consulted key) =
        some (w.proceed key (.discovering order aim)) := by
      simp only [step?, work_proceed, pinned_proceed, hpinned, proceed_proceed]
    refine (reaches_of_step hfirst).trans (reaches_of_step (e := .discovered key
      ((Cluster.discover o.cluster s).1.mapError fun e => .discovery e.message)) ?_)
    simp only [step?, work_proceed, onFound_proceed, manager, hpinned]

/-- A feed whose task has not ended yet ends it, and is then taken out of the registry. -/
def cleared (w : Office) (key : String) (n : Nat) (t : Tenure) : Office :=
  (w.setTask n t .ended).strike key

theorem setTask_of_ended {t : Tenure} (ht : w.tenures[n]? = some t) (htask : t.task = .ended) :
    w.setTask n t .ended = w := by
  have hset : w.tenures.set n { t with task := .ended } = w.tenures := by
    rw [← htask]
    exact List.ext_getElem? fun i => by
      rw [List.getElem?_set]
      split
      · rename_i hi
        rw [← hi, ht, if_pos (List.getElem?_eq_some_iff.mp ht).1]
      · rfl
  unfold setTask
  rw [hset]

/-- The task of a feed can always end. -/
theorem reaches_ended {t : Tenure} (ht : w.tenures[n]? = some t) :
    w.Reaches (w.setTask n t .ended) := by
  cases htask : t.task with
  | resting =>
    refine reaches_of_step (e := .ends n) ?_
    simp only [step?, ht, Option.bind_some, htask]
  | telling told =>
    refine reaches_of_step (e := .told n (.error .cancelled) ⟨0, 0⟩) ?_
    simp only [step?, ht, Option.bind_some, htask, onTold]
  | ended =>
    rw [setTask_of_ended ht htask]
    exact .refl w

theorem isOver_setTask {t : Tenure} (ht : w.tenures[n]? = some t) :
    (w.setTask n t .ended).isOver n = true := by
  unfold isOver setTask
  dsimp only
  rw [List.getElem?_set_self (List.getElem?_eq_some_iff.mp ht).1]
  rfl

/-- A feed in hand is taken down, once its task has ended. -/
theorem reaches_onCleared {t : Tenure} {s : Work} (hw : w.work[key]? = some s)
    (ht : w.tenures[n]? = some t)
    (hs : (w.setTask n t .ended).onCleared? key s = some w') : w.Reaches w' := by
  refine (reaches_ended ht).trans (reaches_of_step (e := .cleared key) ?_)
  show ((w.work[key]?).bind ((w.setTask n t .ended).onCleared? key)) = some w'
  rw [hw, Option.bind_some, hs]

/-- What is in the table is taken out and taken down. -/
theorem reaches_onFree {t : Tenure} (order : Order)
    (found : Option (Except ControlError (List WatchedType))) (hn : w.table[key]? = some n)
    (ht : w.tenures[n]? = some t) :
    (w.proceed key (.taking order found)).Reaches
      (((w.unseat key).cleared key n t).onFree key order .restarted found) := by
  have htaken : (w.proceed key (.taking order found)).step? (.taken key) =
      some ((w.unseat key).proceed key (.clearing order found n)) := by
    simp only [step?, work_proceed, table_proceed, hn]
    show some ((((w.unseat key).proceed key (.taking order found)).proceed key _)) = _
    rw [proceed_proceed]
  refine (reaches_of_step htaken).trans (reaches_onCleared (work_proceed _ _ _) ht ?_)
  unfold onCleared?
  refine (if_pos (isOver_setTask (w := w.unseat key) ht)).trans ?_
  show some ((((w.unseat key).cleared key n t).proceed key _).onFree key order _ found) = _
  rw [onFree_proceed]

/-- A feed that was started is put into the table and entered into the registry. -/
def settled (w : Office) (key : String) (f : Feed) : Office :=
  ((w.appoint key f).seat key w.tenures.length).enter key f

/-- A feed is started. -/
theorem reaches_settled {order : Order} {types : List WatchedType} {f : Feed}
    (outcome : StartOutcome) (hf : f.Serves order.scope order.settings types) :
    (w.proceed key (.starting order outcome types)).Reaches
      ((w.settled key f).finish key (.ensured key (.ok outcome))) := by
  have hlaunched : (w.proceed key (.starting order outcome types)).step? (.launched key (.ok f)) =
      some ((w.appoint key f).proceed key (.installing outcome w.tenures.length)) := by
    simp only [step?, work_proceed, onLaunched?, hf, if_true]
    show some (((w.appoint key f).proceed key _).proceed key _) = _
    rw [proceed_proceed]
    rfl
  have hseated : ((w.appoint key f).proceed key (.installing outcome w.tenures.length)).step?
      (.seated key) = some (((w.appoint key f).seat key w.tenures.length).proceed key
        (.entering outcome w.tenures.length)) := by
    simp only [step?, work_proceed]
    show some ((((w.appoint key f).seat key w.tenures.length).proceed key _).proceed key _) = _
    rw [proceed_proceed]
  refine ((reaches_of_step hlaunched).trans (reaches_of_step hseated)).trans
    (reaches_of_step (e := .entered key) ?_)
  have htenure : (((w.appoint key f).seat key w.tenures.length).proceed key
      (.entering outcome w.tenures.length)).tenures[w.tenures.length]? =
        some ⟨key, f, .resting⟩ := List.getElem?_concat_length
  simp only [step?, work_proceed, htenure, Option.map_some]
  show some ((((w.settled key f).proceed key _)).finish key _) = _
  rw [finish_proceed]

/-! ## What the manager looks like -/

theorem getElem?_feeds_of_table {t : Tenure} (hn : w.table[key]? = some n)
    (ht : w.tenures[n]? = some t) : w.feeds[key]? = some t.feed := by
  rw [getElem?_feeds]
  unfold feed?
  rw [hn, Option.bind_some, ht, Option.map_some]

theorem manager_cleared {t : Tenure} (m : Manager) (hn : w.table[key]? = some n)
    (ht : w.tenures[n]? = some t) :
    ((w.unseat key).cleared key n t).manager m = (w.manager m).remove key := by
  have hmem : (w.manager m).feeds.contains key = true :=
    Std.ExtTreeMap.contains_iff_mem.mpr
      (Std.ExtTreeMap.getElem?_eq_some_iff.mp (getElem?_feeds_of_table hn ht)).1
  have hfeeds : ((w.unseat key).cleared key n t).feeds = w.feeds.erase key := by
    ext1 k
    rw [KeyedMap.getElem?_erase_eq, getElem?_feeds, getElem?_feeds]
    show ((w.table.erase key)[k]?).bind (fun i => ((w.tenures.set n _)[i]?).map _) = _
    rw [KeyedMap.getElem?_erase_eq]
    split
    · rfl
    · unfold feed?
      refine congrArg _ (funext fun i => ?_)
      rw [List.getElem?_set]
      split
      · rename_i hi
        rw [← hi, if_pos (List.getElem?_eq_some_iff.mp ht).1, ht]
        rfl
      · rfl
  unfold Manager.remove
  rw [if_pos hmem]
  show ({ m with registry := _, feeds := _, pinned := _ } : Manager) = { m with
    registry := _, feeds := _, pinned := _ }
  rw [hfeeds]
  rfl

/-- The table names feeds that were started. -/
def Numbered (w : Office) : Prop := ∀ (k : String) i, w.table[k]? = some i → i < w.tenures.length

theorem Sound.numbered (h : w.Sound) : w.Numbered := by
  intro k i hi
  obtain ⟨t, ht, _⟩ := (h.stands k).held i (h.current hi)
  exact (List.getElem?_eq_some_iff.mp ht).1

theorem Sound.feed?_eq_none_iff (h : w.Sound) : w.feed? key = none ↔ key ∉ w.table := by
  unfold feed?
  rw [← getElem?_eq_none_iff]
  cases hn : w.table[key]? with
  | none => exact iff_of_true rfl rfl
  | some n =>
    obtain ⟨t, ht, _⟩ := (h.stands key).held n (h.current hn)
    rw [Option.bind_some, ht]
    exact iff_of_false nofun nofun

theorem Numbered.cleared (h : w.Numbered) (key : String) (n : Nat) (t : Tenure) :
    ((w.unseat key).cleared key n t).Numbered := by
  intro k i hi
  replace hi : (w.table.erase key)[k]? = some i := hi
  rw [KeyedMap.getElem?_erase_eq] at hi
  show i < (w.tenures.set n _).length
  rw [List.length_set]
  split at hi
  · exact nomatch hi
  · exact h k i hi

theorem manager_settled (h : w.Numbered) (m : Manager) (f : Feed) :
    (w.settled key f).manager m = (w.manager m).install key f := by
  have hfeeds : (w.settled key f).feeds = w.feeds.insert key f := by
    ext1 k
    rw [KeyedMap.getElem?_insert_eq, getElem?_feeds, getElem?_feeds]
    show ((w.table.insert key w.tenures.length)[k]?).bind
      (fun i => ((w.tenures ++ [⟨key, f, .resting⟩])[i]?).map _) = _
    rw [KeyedMap.getElem?_insert_eq]
    split
    · rw [Option.bind_some, List.getElem?_concat_length]
      rfl
    · unfold feed?
      cases hk : w.table[k]? with
      | none => rfl
      | some i =>
        rw [Option.bind_some, Option.bind_some, List.getElem?_append_left (h k i hk)]
  show ({ m with registry := _, feeds := _, pinned := _ } : Manager) = { m with
    registry := _, feeds := _, pinned := _ }
  rw [hfeeds]
  rfl

/-! ## Whole pieces of work -/

variable {m m' : Manager} {a : Answer}

theorem Has.since {u : Office} (h : Has u w' m m' a) (hwork : u.work = w.work)
    (hanswers : u.answers = w.answers) : Has w w' m m' a :=
  ⟨h.manager, hanswers ▸ h.answers, h.work.trans hwork⟩

theorem has_finish (hidle : key ∉ w.work) (hm : w.manager m = m') :
    Has w (w.finish key a) m m' a :=
  ⟨hm, rfl, work_finish hidle a⟩

/-- A feed is started, or not, as the manager does it. -/
theorem launch_undisturbed (hidle : key ∉ w.work) (hnumbered : w.Numbered) (o : Outside σ)
    (m : Manager) (order : Order) (outcome : StartOutcome)
    (found : Except ControlError (List WatchedType)) (s : σ) :
    ∃ w', (w.onFound key order (.launch outcome) found).Reaches w' ∧
      match ((w.manager m).launch o key order.scope order.settings found s).1 with
      | .error e => Has w w' m (w.manager m) (.ensured key (.error e))
      | .ok m' => Has w w' m m' (.ensured key (.ok outcome)) := by
  unfold Manager.launch
  cases found with
  | error e => exact ⟨_, .refl _, has_finish hidle rfl⟩
  | ok types =>
    dsimp only
    obtain ⟨⟨client, s'⟩, hclient⟩ : ∃ r, o.makeClient order.settings s = r := ⟨_, rfl⟩
    rw [hclient]
    cases client with
    | error e =>
      refine ⟨w.finish key (.ensured key (.error (.sync e))),
        reaches_of_step (e := .launched key (.error e)) ?_, has_finish hidle rfl⟩
      simp only [onFound, step?, work_proceed, onLaunched?, finish_proceed]
    | ok u =>
      have hserves := Feed.start_serves o m.options order.scope order.settings types m.clock s'
      refine ⟨_, reaches_settled outcome hserves, manager_settled hnumbered m _, rfl, ?_⟩
      exact work_finish (w := w.settled key _) hidle _

/-- A new feed is put into the place of an old one, as the manager does it. -/
theorem replace_undisturbed (h : w.Sound) (hidle : key ∉ w.work) (o : Outside σ) (m : Manager)
    (order : Order) (found : Option (Except ControlError (List WatchedType)))
    {outcome : StartOutcome}
    (houtcome : outcome = if key ∈ w.table then .restarted else .started) (s : σ) :
    ∃ w', (w.proceed key (.taking order found)).Reaches w' ∧
      Has w w' m ((w.manager m).replace o key order.scope order.settings found outcome s).1.2
        (.ensured key
          ((w.manager m).replace o key order.scope order.settings found outcome s).1.1) := by
  -- either nothing is in the way, or it is taken down first
  obtain ⟨u, hreaches, hnumbered, hwork, hanswers, hmanager⟩ : ∃ u : Office,
      (w.proceed key (.taking order found)).Reaches (u.onFree key order outcome found) ∧
      u.Numbered ∧ u.work = w.work ∧ u.answers = w.answers ∧
      u.manager m = (w.manager m).remove key := by
    cases hn : w.table[key]? with
    | none =>
      have hfeed : (w.manager m).feeds[key]? = none := by
        show w.feeds[key]? = none
        rw [getElem?_feeds]
        unfold feed?
        rw [hn]
        rfl
      rw [if_neg ((getElem?_eq_none_iff _ _).mp hn)] at houtcome
      refine ⟨w, reaches_of_step (e := .taken key) ?_, h.numbered, rfl, rfl,
        (Manager.remove_of_none hfeed).symm⟩
      simp only [step?, work_proceed, table_proceed, hn, onFree_proceed, houtcome]
    | some n =>
      obtain ⟨t, ht, _⟩ := (h.stands key).held n (h.current hn)
      rw [if_pos (Std.ExtTreeMap.getElem?_eq_some_iff.mp hn).1] at houtcome
      rw [houtcome]
      exact ⟨_, reaches_onFree order found hn ht, h.numbered.cleared key n t, rfl, rfl,
        manager_cleared m hn ht⟩
  have hidle' : key ∉ u.work := hwork ▸ hidle
  -- then the types are found out unless they are known
  obtain ⟨found', s', hfound, hseek⟩ : ∃ found' s',
      (w.manager m).replace o key order.scope order.settings found outcome s =
        (w.manager m).replace o key order.scope order.settings (some found') outcome s' ∧
      (u.onFree key order outcome found).Reaches
        (u.onFound key order (.launch outcome) found') := by
    cases found with
    | some found => exact ⟨found, s, rfl, .refl _⟩
    | none =>
      refine ⟨_, _, Manager.replace_none o _ key order.scope order.settings outcome s, ?_⟩
      rw [← Manager.resolve_remove o (w.manager m) key s, ← hmanager]
      exact reaches_onFound o m s u key order (.launch outcome)
  -- and a feed is started
  obtain ⟨w', hlaunch, hhas⟩ := launch_undisturbed hidle' hnumbered o m order outcome found' s'
  refine ⟨w', (hreaches.trans hseek).trans hlaunch, ?_⟩
  rw [hfound]
  unfold Manager.replace
  dsimp only
  rw [hmanager] at hhas
  obtain ⟨⟨r, s''⟩, hr⟩ : ∃ r, ((w.manager m).remove key).launch o key order.scope order.settings
    found' s' = r := ⟨_, rfl⟩
  rw [hr] at hhas ⊢
  cases r with
  | error e => exact hhas.since hwork hanswers
  | ok m' => exact hhas.since hwork hanswers

/-- Having a feed run, undisturbed, is what the manager does in one go. -/
theorem ensure_undisturbed (h : w.Sound) (hidle : key ∉ w.work) (o : Outside σ) (m : Manager)
    (order : Order) (s : σ) :
    ∃ w', w.Reaches w' ∧
      Has w w' m ((w.manager m).ensure o key order.scope order.settings s).1.2
        (.ensured key ((w.manager m).ensure o key order.scope order.settings s).1.1) := by
  have hbegins : w.Reaches (w.proceed key (.reaching order (w.feed? key))) := by
    refine reaches_of_step (e := .ensure key order) ?_
    simp only [step?, hidle, if_false]
  obtain ⟨⟨reached, s'⟩, hconnect⟩ : ∃ r, o.connect s = r := ⟨_, rfl⟩
  have hreached : w.Reaches (w.onReached key order (w.feed? key) reached) := by
    refine hbegins.trans (reaches_of_step (e := .reached key reached) ?_)
    simp only [step?, work_proceed, onReached_proceed]
  have hfeed : (w.manager m).feeds[key]? = w.feed? key := getElem?_feeds w key
  unfold Manager.ensure
  rw [hconnect, hfeed]
  cases reached with
  | error e => exact ⟨_, hreached, has_finish hidle rfl⟩
  | ok u =>
    dsimp only
    cases hf : w.feed? key with
    | none =>
      rw [hf] at hreached
      obtain ⟨w', hreaches, hhas⟩ := replace_undisturbed h hidle o m order none
        (if_neg (h.feed?_eq_none_iff.mp hf)).symm s'
      exact ⟨w', hreached.trans hreaches, hhas⟩
    | some f =>
      have hmem : key ∈ w.table := by
        by_contra hnot
        rw [h.feed?_eq_none_iff.mpr hnot] at hf
        cases hf
      have hreplace := fun found s =>
        replace_undisturbed h hidle o m order found (if_pos hmem).symm s
      rw [hf] at hreached
      unfold onReached at hreached
      dsimp only at hreached ⊢
      by_cases hsettings : f.settings = order.settings
      · rw [if_pos hsettings] at hreached ⊢
        have hfound := hreached.trans (reaches_onFound o m s' w key order (.compare f))
        unfold onFound at hfound
        dsimp only at hfound
        by_cases hgo : Manager.mayGoOn f ((w.manager m).resolve o s').1 = true
        · rw [if_pos hgo] at hfound ⊢
          exact ⟨_, hfound, has_finish hidle rfl⟩
        · rw [if_neg hgo] at hfound ⊢
          obtain ⟨w', hreaches, hhas⟩ := hreplace _ _
          exact ⟨w', hfound.trans hreaches, hhas⟩
      · rw [if_neg hsettings] at hreached ⊢
        obtain ⟨w', hreaches, hhas⟩ := hreplace none s'
        exact ⟨w', hreached.trans hreaches, hhas⟩

/-- Stopping a feed, undisturbed, is what the manager does in one go. -/
theorem stop_undisturbed (h : w.Sound) (hidle : key ∉ w.work) (m : Manager) :
    ∃ w', w.Reaches w' ∧
      Has w w' m ((w.manager m).stop key).2
        (.stopped key (w.table.contains key) ((w.manager m).stop key).1) := by
  have hbegins : w.Reaches (w.onStop key) := by
    refine reaches_of_step (e := .stop key) ?_
    simp only [step?, hidle, if_false]
  have hcontains : (w.manager m).feeds.contains key = w.table.contains key := by
    have hiff : w.feed? key = none ↔ key ∉ w.table := h.feed?_eq_none_iff
    rw [← getElem?_feeds, getElem?_eq_none_iff, not_iff_not] at hiff
    rw [Bool.eq_iff_iff, Std.ExtTreeMap.contains_iff_mem, Std.ExtTreeMap.contains_iff_mem]
    exact hiff
  unfold Manager.stop
  dsimp only
  rw [hcontains]
  unfold Office.onStop at hbegins
  dsimp only at hbegins
  cases hn : w.table[key]? with
  | none =>
    rw [hn] at hbegins
    have hfeed : (w.manager m).feeds[key]? = none := by
      show w.feeds[key]? = none
      rw [getElem?_feeds, h.feed?_eq_none_iff]
      exact (getElem?_eq_none_iff _ _).mp hn
    rw [Manager.remove_of_none hfeed]
    have hran : w.table.contains key = false := by
      rw [Std.ExtTreeMap.contains_eq_isSome_getElem?, hn]
      rfl
    rw [hran] at hbegins ⊢
    exact ⟨_, hbegins, has_finish hidle rfl⟩
  | some n =>
    rw [hn] at hbegins
    obtain ⟨t, ht, _⟩ := (h.stands key).held n (h.current hn)
    have hran : w.table.contains key = true := by
      rw [Std.ExtTreeMap.contains_eq_isSome_getElem?, hn]
      rfl
    rw [hran] at hbegins ⊢
    refine ⟨((w.unseat key).cleared key n t).finish key (.stopped key true true),
      hbegins.trans (reaches_onCleared (work_proceed _ _ _) ht ?_),
      (has_finish (w := (w.unseat key).cleared key n t) hidle
        (manager_cleared m hn ht)).since rfl rfl⟩
    unfold onCleared?
    refine (if_pos (isOver_setTask (w := w.unseat key) ht)).trans ?_
    show some ((((w.unseat key).cleared key n t).proceed key _).finish key _) = _
    rw [finish_proceed]

/-- A resync, undisturbed, is what the manager does in one go. -/
theorem resync_undisturbed (h : w.Sound) (hidle : key ∉ w.work) (o : Outside σ) (m : Manager)
    (s : σ) :
    ∃ w', w.Reaches w' ∧
      Has w w' m ((w.manager m).resync o key s).1.2
        (.told key ((w.manager m).resync o key s).1.1) := by
  have hbegins : w.Reaches (w.onResync key (o.now s)) := by
    refine reaches_of_step (e := .resync key (o.now s)) ?_
    simp only [step?, hidle, if_false]
  have hfeed : (w.manager m).feeds[key]? = w.feed? key := getElem?_feeds w key
  unfold Manager.resync
  rw [hfeed]
  unfold onResync at hbegins
  cases hn : w.table[key]? with
  | none =>
    rw [h.feed?_eq_none_iff.mpr ((getElem?_eq_none_iff _ _).mp hn)]
    rw [hn] at hbegins
    exact ⟨_, hbegins, has_finish hidle rfl⟩
  | some n =>
    obtain ⟨t, ht, _⟩ := (h.stands key).held n (h.current hn)
    have hf : w.feed? key = some t.feed := by
      rw [← getElem?_feeds]
      exact getElem?_feeds_of_table hn ht
    rw [hn, hf] at hbegins
    rw [hf]
    dsimp only at hbegins ⊢
    cases hnotes : t.feed.notesResync with
    | false =>
      rw [hnotes] at hbegins
      rw [Feed.resync_of_not_notes hnotes]
      exact ⟨_, hbegins, has_finish hidle rfl⟩
    | true =>
      rw [hnotes, if_pos rfl] at hbegins
      obtain ⟨answer, s', hanswer⟩ := Feed.resync_of_notes hnotes o (w.manager m).options s
      have hreplied : w.Reaches (w.onReplied key n
          (ResyncSource.collect (o.now s) t.feed.sources) answer (o.now s')) := by
        refine hbegins.trans (reaches_of_step (e := .replied key answer (o.now s')) ?_)
        simp only [step?, work_proceed, onReplied_proceed]
      rw [hanswer]
      cases answer with
      | error e => exact ⟨_, hreplied, has_finish hidle rfl⟩
      | ok r => exact ⟨_, hreplied, rfl, rfl, work_finish (w := w.note key n _ _) hidle _⟩

/-! ## Stopping everything -/

/-- All feeds under some keys are taken down, one after the other. -/
theorem reaches_closed (es : List (String × Nat)) (hes : es.Pairwise fun a b => a.1 ≠ b.1)
    (hwork : ∀ e ∈ es, w.work[e.1]? = some (.closing e.2))
    (htenures : ∀ e ∈ es, e.2 < w.tenures.length) :
    ∃ w', w.Reaches w' ∧ w'.pinned = w.pinned ∧ w'.table = w.table ∧ w'.answers = w.answers ∧
      w'.shutdowns = w.shutdowns ∧
      w'.registry = (es.map Prod.fst).foldl (fun r k => (Registry.stop r k).2) w.registry ∧
      ∀ k : String, w'.work[k]? = if k ∈ es.map Prod.fst then some .closed else w.work[k]? := by
  induction es generalizing w with
  | nil => exact ⟨w, .refl w, rfl, rfl, rfl, rfl, rfl, fun _ => rfl⟩
  | cons e es ih =>
    obtain ⟨hfirst, hes⟩ := List.pairwise_cons.mp hes
    have hlt := htenures e List.mem_cons_self
    have ht := List.getElem?_eq_getElem hlt
    set u := (w.cleared e.1 e.2 w.tenures[e.2]).proceed e.1 .closed with hu
    have hreaches : w.Reaches u := by
      refine reaches_onCleared (hwork e List.mem_cons_self) ht ?_
      unfold onCleared?
      exact if_pos (isOver_setTask ht)
    have hother : ∀ k, e.1 ≠ k → u.work[k]? = w.work[k]? := fun k hk =>
      (KeyedMap.getElem?_insert_eq _ _ _ _).trans (if_neg hk)
    obtain ⟨w', hreaches', hpinned, htable, hanswers, hshutdowns, hregistry, hwork'⟩ := ih hes
      (fun e' he' => (hother e'.1 (hfirst e' he')).trans (hwork e' (List.mem_cons_of_mem _ he')))
      (fun e' he' => by
        show e'.2 < (w.tenures.set e.2 _).length
        rw [List.length_set]
        exact htenures e' (List.mem_cons_of_mem _ he'))
    refine ⟨w', hreaches.trans hreaches', hpinned, htable, hanswers, hshutdowns, hregistry,
      fun k => ?_⟩
    rw [hwork', List.map_cons]
    by_cases hk : e.1 = k
    · subst hk
      rw [if_pos List.mem_cons_self, work_proceed]
      split <;> rfl
    · rw [hother k hk]
      simp only [List.mem_cons, Ne.symm hk, false_or]

/-- Stopping everything, undisturbed, is what the manager does in one go. -/
theorem shutdown_undisturbed (h : w.Sound) (hidle : ∀ key ∈ w.table.keys, key ∉ w.work)
    (o : Outside σ) (m : Manager) (s : σ) {r : Manager × σ}
    (hr : (w.manager m).shutdown? o s = some r) :
    ∃ w', w.Reaches w' ∧ w'.manager m = r.1 ∧ w'.answers = w.answers ∧ w'.work = w.work := by
  obtain ⟨s', _, rfl⟩ := Option.map_eq_some_iff.mp hr
  have hbegins : w.Reaches w.onShutdown := by
    refine reaches_of_step (e := .shutdown) ?_
    exact if_neg fun ⟨key, hkey, hwork⟩ => hidle key hkey hwork
  have hworks : ∀ k : String, w.onShutdown.work[k]? =
      (w.table[k]?.map Work.closing).or w.work[k]? := KeyedMap.getElem?_foldl_toList _ _ _
  have hentry : ∀ e ∈ w.table.toList, w.table[e.1]? = some e.2 := fun e he =>
    Std.ExtTreeMap.mem_toList_iff_getElem?_eq_some.mp he
  obtain ⟨u, hreaches, hpinned, htable, hanswers, hshutdowns, hregistry, hwork⟩ :=
    reaches_closed (w := w.onShutdown) w.table.toList
      ((Std.ExtTreeMap.distinct_keys_toList (t := w.table)).imp fun hne he =>
        hne (Std.LawfulEqCmp.compare_eq_iff_eq.mpr he))
      (fun e he => by rw [hworks, hentry e he]; rfl)
      (fun e he => h.numbered e.1 e.2 (hentry e he))
  rw [Std.ExtTreeMap.map_fst_toList_eq_keys] at hregistry hwork
  -- all that was in the table has been taken down, so that the work ends
  have hclosed : ∀ key ∈ w.table.keys, u.isClosed key = true := by
    intro key hkey
    unfold isClosed
    rw [hwork, if_pos hkey]
  set w' : Office := { u with
    work := w.table.keys.foldl (fun work key => work.erase key) u.work
    shutdowns := u.shutdowns.erase w.table.keys } with hw'
  have hends : u.step? (.shutdownEnds w.table.keys) = some w' := by
    refine if_pos ⟨?_, List.all_eq_true.mpr hclosed⟩
    rw [hshutdowns]
    exact List.mem_append_right _ List.mem_cons_self
  refine ⟨w', (hbegins.trans hreaches).trans (reaches_of_step hends), ?_, hanswers, ?_⟩
  · have hkeys : w.table.keys = w.feeds.keys := KeyedMap.keys_eq_keys fun k => by
      rw [← not_iff_not, ← h.feed?_eq_none_iff, ← getElem?_feeds, getElem?_eq_none_iff]
    have hfeeds : w'.feeds = ∅ := by
      ext1 k
      rw [getElem?_feeds]
      unfold feed?
      show (u.table[k]?).bind _ = _
      rw [htable, show w.onShutdown.table[k]? = none from Std.ExtTreeMap.getElem?_empty,
        Std.ExtTreeMap.getElem?_empty]
      rfl
    have hregistry' : w'.registry =
        w.feeds.keys.foldl (fun r k => (Registry.stop r k).2) w.registry := by
      rw [← hkeys]
      exact hregistry
    unfold manager
    rw [hfeeds, hregistry', show w'.pinned = w.pinned from hpinned]
  · ext1 k
    show (w.table.keys.foldl (fun work key => work.erase key) u.work)[k]? = _
    rw [KeyedMap.getElem?_foldl_erase, hwork]
    split
    · rename_i hk
      exact ((getElem?_eq_none_iff _ _).mpr (hidle k hk)).symm
    · rename_i hk
      have hnone : w.table[k]? = none :=
        (getElem?_eq_none_iff _ _).mpr fun hmem => hk (Std.ExtTreeMap.mem_keys.mpr hmem)
      rw [hworks, hnone]
      rfl

/-! ## What goes on in the background -/

theorem step?_goesOn {t : Tenure} {f : Feed} (ht : w.tenures[n]? = some t)
    (hf : f.Succeeds t.feed) :
    w.step? (.goesOn n f) = some { w with tenures := w.tenures.set n { t with feed := f } } := by
  simp only [step?, ht, Option.bind_some, hf, if_true]

/-- The informers of a feed may hear of changes at any time. -/
theorem reaches_notify {t : Tenure} (ht : w.tenures[n]? = some t) (o : Outside σ) (opts : Options)
    (path : String) (notices : List Cluster.Notice) (s : σ) :
    w.Reaches { w with
      tenures := w.tenures.set n { t with feed := (t.feed.notify o opts path notices s).1 } } :=
  reaches_of_step (step?_goesOn ht (Feed.notify_succeeds o opts path notices t.feed s))

/-- An informer of a feed may go on by itself at any time. -/
theorem reaches_resume {t : Tenure} (ht : w.tenures[n]? = some t) (o : Outside σ) (opts : Options)
    (place : Seat) (s : σ) :
    w.Reaches { w with
      tenures := w.tenures.set n { t with feed := (t.feed.resume o opts place s).1 } } :=
  reaches_of_step (step?_goesOn ht (Feed.resume_succeeds o opts place t.feed s))

/-- A feed may wake at any time. -/
theorem reaches_wake {t : Tenure} (ht : w.tenures[n]? = some t) (o : Outside σ) (opts : Options)
    (now : Nat) (s : σ) :
    w.Reaches { w with
      tenures := w.tenures.set n { t with feed := (t.feed.wake o opts now s).2.1 } } :=
  reaches_of_step (step?_goesOn ht (Feed.wake_succeeds o opts now t.feed s))

end Office

end ClusterFeed.Control
