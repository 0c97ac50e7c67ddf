import ClusterFeed.Proofs.Control.Desk

/-!
# The table and the registry agree

Whatever the manager is asked to do, in whatever order its work goes on and whatever fails: where
nothing is being done, the registry has an entry of just the feed that is in the table. What the
entry says of the last resync is about this feed and not about one before it.

The manager is asked by `ensure_running`, `stop`, `resync` and `shutdown`, and the task of a feed is
`resync_loop`.
-/

namespace ClusterFeed.Control.Office

open Cluster (Failure)
open Sync (SyncError)
open Time (Instant)

variable {w w' : Office} {key : String} {n : Nat}

/-! ## The steps under one key -/

variable {order : Order}

theorem Sound.onReached (h : w.Sound) {known : Option Feed}
    (hw : w.work[key]? = some (.reaching order known)) (answer : Except Cluster.Failure Unit) :
    (w.onReached key order known answer).Sound := by
  have hdesk := desk_of_work hw
  unfold Office.onReached
  split
  · exact h.finish (by rw [hdesk]; rfl) (by rw [hdesk]; rfl) trivial
  · exact h.proceed trivial (by rw [hdesk]; rfl) (by rw [hdesk]; rfl) trivial
  · split
    · exact h.proceed trivial (by rw [hdesk]; rfl) (by rw [hdesk]; rfl) trivial
    · exact h.proceed trivial (by rw [hdesk]; rfl) (by rw [hdesk]; rfl) trivial

/-- When a feed is to start, nothing has run since the place under its key became free. -/
theorem Bare.onFound (h : w.Bare key) (order : Order) (outcome : StartOutcome)
    (found : Except ControlError (List WatchedType)) :
    (w.onFound key order (.launch outcome) found).Sound := by
  cases found with
  | error e => exact h.finish trivial
  | ok types => exact h.proceed rfl trivial

theorem Bare.onFree (h : w.Bare key) (order : Order) (outcome : StartOutcome)
    (found : Option (Except ControlError (List WatchedType))) :
    (w.onFree key order outcome found).Sound := by
  cases found with
  | none => exact h.proceed rfl trivial
  | some found => exact h.onFound order outcome found

theorem Sound.onFound (h : w.Sound) {aim : Aim} {s : Work} (hw : w.work[key]? = some s)
    (hplace : s.place = aim.place) (hentered : s.isEntered = true)
    (found : Except ControlError (List WatchedType)) :
    (w.onFound key order aim found).Sound := by
  have hdesk := desk_of_work hw
  rw [hplace, hentered] at hdesk
  cases aim with
  | compare f =>
    unfold Office.onFound
    dsimp only
    split
    · exact h.finish (by rw [hdesk]; rfl) (by rw [hdesk]) trivial
    · exact h.proceed trivial (by rw [hdesk]; rfl) (by rw [hdesk]; rfl) trivial
  | launch outcome =>
    have hseat : w.table[key]? = none := by
      have := (h.stands key).placed
      rw [hdesk] at this
      exact this
    exact (h.bare (.inr (by rw [hdesk]; rfl)) hseat).onFound order outcome found

theorem Sound.onCleared (h : w.Sound) {s : Work} (hw : w.work[key]? = some s)
    (hs : w.onCleared? key s = some w') : w'.Sound := by
  have hdesk := desk_of_work hw
  unfold onCleared? at hs
  split at hs
  · split at hs
    · rename_i hover
      cases hs
      exact (h.strike (by rw [hdesk]; rfl) hover).onFree _ _ _
    · exact nomatch hs
  · split at hs
    · rename_i hover
      cases hs
      have hran : _ = true := h.honest.work key _ hw
      exact (h.strike (by rw [hdesk]; rfl) hover).finish hran.symm
    · exact nomatch hs
  · split at hs
    · rename_i hover
      cases hs
      exact (h.strike (by rw [hdesk]; rfl) hover).proceed rfl trivial
    · exact nomatch hs
  · exact nomatch hs

theorem Sound.onLaunched (h : w.Sound) {outcome : StartOutcome} {types : List WatchedType}
    (hw : w.work[key]? = some (.starting order outcome types)) {made : Except SyncError Feed}
    (hs : w.onLaunched? key order outcome types made = some w') : w'.Sound := by
  have hdesk := desk_of_work hw
  have hseat : w.table[key]? = none := by
    have := (h.stands key).placed
    rw [hdesk] at this
    exact this
  have hbare : w.Bare key := h.bare (.inr (by rw [hdesk]; rfl)) hseat
  cases made with
  | error e =>
    cases hs
    exact hbare.finish trivial
  | ok f =>
    unfold onLaunched? at hs
    dsimp only at hs
    split at hs
    · cases hs
      exact hbare.launch f outcome
    · exact nomatch hs

theorem Sound.onStop (h : w.Sound) (hidle : w.work[key]? = none) : (w.onStop key).Sound := by
  have hdesk := desk_of_none hidle
  unfold Office.onStop
  cases hn : w.table[key]? with
  | none =>
    have hran : w.table.contains key = false :=
      Bool.eq_false_iff.mpr fun hc =>
        (getElem?_eq_none_iff _ _).mp hn (Std.ExtTreeMap.contains_iff_mem.mp hc)
    exact h.finish (by rw [hdesk]) (by rw [hdesk]) hran.symm
  | some n =>
    have hran : w.table.contains key = true :=
      Std.ExtTreeMap.contains_iff_mem.mpr (Std.ExtTreeMap.getElem?_eq_some_iff.mp hn).1
    exact h.take (by rw [hdesk]) (by rw [hdesk]) hn rfl rfl hran

theorem Sound.onResync (h : w.Sound) (hidle : w.work[key]? = none) (now : Instant) :
    (w.onResync key now).Sound := by
  have hdesk := desk_of_none hidle
  have hfinish : (w.finish key (.told key (.ok 0))).Sound :=
    h.finish (by rw [hdesk]) (by rw [hdesk]) trivial
  unfold Office.onResync
  split
  · rename_i n f hn _
    split
    · exact h.proceed (by rw [hdesk]; exact hn) (by rw [hdesk]; rfl) (by rw [hdesk]; rfl) trivial
    · exact hfinish
  · exact hfinish

theorem Sound.onReplied (h : w.Sound) {told : List Snapshot}
    (hw : w.work[key]? = some (.telling n told)) (answer : Except SyncError Sync.Response)
    (now : Instant) : (w.onReplied key n told answer now).Sound := by
  have hdesk := desk_of_work hw
  have hseat : w.table[key]? = some n := by
    have := (h.stands key).placed
    rw [hdesk] at this
    exact this
  have hholder : (w.desk key).holder = some n := by
    rw [hdesk]
    exact hseat
  cases answer with
  | error e => exact h.finish (by rw [hdesk]; rfl) (by rw [hdesk]; rfl) trivial
  | ok r =>
    have hnoted := h.note hholder told now
    have hdesk' := desk_note w key n told now key
    rw [if_pos rfl, hdesk] at hdesk'
    exact hnoted.finish (by rw [hdesk']; rfl) (by rw [hdesk']; rfl) trivial

/-- Whatever happens in an office, everything stays in order. -/
theorem Sound.step (h : w.Sound) {e : Event} (hs : w.step? e = some w') : w'.Sound := by
  cases e with
  | pin types =>
    cases hs
    exact ⟨fun k => (h.stands k).mono (fun n t ht => ⟨t, ht, rfl, .refl _⟩) fun _ ha => ha,
      h.live, h.honest.same rfl rfl⟩
  | ensure key order =>
    simp only [step?] at hs
    split at hs
    · exact nomatch hs
    · rename_i hidle
      cases hs
      have hdesk := desk_of_none ((getElem?_eq_none_iff _ _).mpr hidle)
      exact h.proceed trivial (by rw [hdesk]; rfl) (by rw [hdesk]; rfl) trivial
  | reached key answer =>
    simp only [step?] at hs
    split at hs
    · rename_i hw
      cases hs
      exact h.onReached hw answer
    · exact nomatch hs
  | consulted key =>
    simp only [step?] at hs
    split at hs
    · rename_i order aim hw
      split at hs
      · cases hs
        exact h.onFound hw rfl rfl _
      · cases hs
        have hdesk := desk_of_work hw
        have hplaced := (h.stands key).placed
        rw [hdesk] at hplaced
        exact h.proceed (by rw [hdesk]; exact hplaced) (by rw [hdesk]; rfl) (by rw [hdesk]; rfl)
          trivial
    · exact nomatch hs
  | discovered key answer =>
    simp only [step?] at hs
    split at hs
    · rename_i hw
      cases hs
      exact h.onFound hw rfl rfl answer
    · exact nomatch hs
  | taken key =>
    simp only [step?] at hs
    split at hs
    · rename_i order found hw
      have hdesk := desk_of_work hw
      split at hs
      · rename_i hn
        cases hs
        exact (h.bare (.inl (by rw [hdesk]; rfl)) hn).onFree order .started found
      · rename_i n hn
        cases hs
        exact h.take (by rw [hdesk]; rfl) (by rw [hdesk]; rfl) hn rfl rfl trivial
    · exact nomatch hs
  | cleared key =>
    obtain ⟨s, hw, hs⟩ := Option.bind_eq_some_iff.mp hs
    exact h.onCleared hw hs
  | launched key made =>
    simp only [step?] at hs
    split at hs
    · rename_i hw
      exact h.onLaunched hw hs
    · exact nomatch hs
  | seated key =>
    simp only [step?] at hs
    split at hs
    · rename_i hw
      cases hs
      have hdesk := desk_of_work hw
      exact h.seat (by rw [hdesk]; rfl) rfl (by rw [hdesk]; rfl) trivial
    · exact nomatch hs
  | entered key =>
    simp only [step?] at hs
    split at hs
    · rename_i hw
      obtain ⟨t, ht, rfl⟩ := Option.map_eq_some_iff.mp hs
      exact h.enter (by rw [desk_of_work hw]; rfl) ht trivial
    · exact nomatch hs
  | stop key =>
    simp only [step?] at hs
    split at hs
    · exact nomatch hs
    · rename_i hidle
      cases hs
      exact h.onStop ((getElem?_eq_none_iff _ _).mpr hidle)
  | resync key now =>
    simp only [step?] at hs
    split at hs
    · exact nomatch hs
    · rename_i hidle
      cases hs
      exact h.onResync ((getElem?_eq_none_iff _ _).mpr hidle) now
  | replied key answer now =>
    simp only [step?] at hs
    split at hs
    · rename_i hw
      cases hs
      exact h.onReplied hw answer now
    · exact nomatch hs
  | shutdown =>
    simp only [step?] at hs
    split at hs
    · exact nomatch hs
    · rename_i hidle
      cases hs
      exact h.onShutdown hidle
  | shutdownEnds keys =>
    simp only [step?] at hs
    split at hs
    · rename_i hclosed
      cases hs
      exact h.shutdownEnds hclosed.2 _
    · exact nomatch hs
  | goesOn n f =>
    obtain ⟨t, ht, hs⟩ := Option.bind_eq_some_iff.mp hs
    split at hs
    · rename_i hf
      cases hs
      exact h.set ht rfl hf id
    · exact nomatch hs
  | due n now =>
    obtain ⟨t, ht, hs⟩ := Option.bind_eq_some_iff.mp hs
    split at hs
    · rename_i htask
      split at hs
      · cases hs
        exact h.set ht rfl (.refl _) fun _ => by rw [htask]; exact nofun
      · exact nomatch hs
    · exact nomatch hs
  | told n answer now =>
    obtain ⟨t, ht, hs⟩ := Option.bind_eq_some_iff.mp hs
    split at hs
    · rename_i htask
      cases hs
      exact h.onTold ht htask answer now
    · exact nomatch hs
  | ends n =>
    obtain ⟨t, ht, hs⟩ := Option.bind_eq_some_iff.mp hs
    split at hs
    · rename_i htask
      cases hs
      exact h.set ht rfl (.refl _) fun _ => by rw [htask]; exact nofun
    · exact nomatch hs

theorem sound_new : new.Sound where
  stands _ := stands_of_gone (.inl rfl) Std.ExtTreeMap.getElem?_empty Std.ExtTreeMap.getElem?_empty
  live _ _ ht := nomatch ht
  honest := ⟨fun _ _ hs => (nomatch Std.ExtTreeMap.getElem?_empty.symm.trans hs), nofun⟩

theorem sound_of_run {es : List Event} (h : new.run? es = some w) : w.Sound :=
  Runs.induction (motive := fun _ w => w.Sound) sound_new
    (fun _ _ _ _ _ hm hs => hm.step hs) h

/-! ## The agreement -/

/-- The feed of a key that has not been taken down. -/
def current? (w : Office) (key : String) : Option Nat := (w.desk key).holder

/-- What the registry has of a key is about what the table has. -/
structure Agrees (w : Office) (key : String) : Prop where
  /-- Just what runs is reported. -/
  reported : key ∈ w.registry ↔ key ∈ w.feeds
  /-- It is reported as active, and with the number of its informers. -/
  entry : ∀ e, w.registry[key]? = some e →
    e.active = true ∧ ∃ f, w.feeds[key]? = some f ∧ e.watched = f.informers.size

/-- The table, the registry and the answers of an office belong together. -/
structure Orderly (w : Office) : Prop where
  /-- Where nothing is being done, the table and the registry agree. -/
  agrees : ∀ key : String, w.work[key]? = none → w.Agrees key
  /-- What is in the table has not been taken down. -/
  current : ∀ (key : String) n, w.table[key]? = some n → w.current? key = some n
  /-- The last resync that is reported is one that was accepted of the feed that has not been taken
  down. -/
  resyncs : ∀ (key : String) e r, w.registry[key]? = some e → e.lastResync = some r →
    ∃ n told, w.current? key = some n ∧ (n, told) ∈ w.accepted ∧ r.count = told.length
  /-- The task of a feed writes into no entry but that of this feed. -/
  tasks : ∀ n answer now w', w.step? (.told n answer now) = some w' →
    ∀ key : String, w'.registry[key]? ≠ w.registry[key]? → w.current? key = some n
  /-- Whoever has a feed stopped hears whether there was one. -/
  stopped : ∀ key ran answer, .stopped key ran answer ∈ w.answers → answer = ran
  /-- After everything has been stopped nothing of it is left. -/
  gone : ∀ keys w', w.step? (.shutdownEnds keys) = some w' →
    ∀ key ∈ keys, key ∉ w'.feeds ∧ key ∉ w'.registry

theorem getElem?_feeds (w : Office) (key : String) : w.feeds[key]? = w.feed? key :=
  Std.ExtTreeMap.getElem?_filterMap'

theorem Sound.current (h : w.Sound) (hn : w.table[key]? = some n) : w.current? key = some n := by
  have hplaced := (h.stands key).placed
  unfold current? Desk.holder
  cases hp : (w.desk key).place with
  | held n' =>
    rw [hp] at hplaced
    exact nomatch (hn.symm.trans hplaced)
  | free => exact hn
  | vacant => exact hn
  | seated n' => exact hn

theorem Sound.agrees (h : w.Sound) (hidle : w.work[key]? = none) : w.Agrees key := by
  have hstands := h.stands key
  rw [desk_of_none hidle] at hstands
  have hfeeds := getElem?_feeds w key
  unfold feed? at hfeeds
  cases hn : w.table[key]? with
  | none =>
    have hentry : w.registry[key]? = none := hstands.lacking hn
    rw [hn] at hfeeds
    exact
      { reported := iff_of_false ((getElem?_eq_none_iff _ _).mp hentry)
          ((getElem?_eq_none_iff _ _).mp hfeeds)
        entry := fun e he => nomatch hentry.symm.trans he }
  | some n =>
    obtain ⟨t, ht, _⟩ := hstands.held n hn
    obtain ⟨e, he, htells⟩ := hstands.entry n t hn ht rfl
    replace he : w.registry[key]? = some e := he
    rw [hn, Option.bind_some, ht, Option.map_some] at hfeeds
    exact
      { reported := iff_of_true (Std.ExtTreeMap.getElem?_eq_some_iff.mp he).1
          (Std.ExtTreeMap.getElem?_eq_some_iff.mp hfeeds).1
        entry := fun e' he' => by
          cases he.symm.trans he'
          exact ⟨htells.active, t.feed, hfeeds, htells.watched⟩ }

theorem Sound.resyncs (h : w.Sound) {e : ActiveEntry} {r : ResyncRecord}
    (he : w.registry[key]? = some e) (hr : e.lastResync = some r) :
    ∃ n told, w.current? key = some n ∧ (n, told) ∈ w.accepted ∧ r.count = told.length := by
  have hstands := h.stands key
  cases hn : (w.desk key).holder with
  | none => exact nomatch (hstands.lacking hn).symm.trans he
  | some n =>
    cases hentered : (w.desk key).entered with
    | false => exact nomatch (hstands.noEntry hentered).symm.trans he
    | true =>
      obtain ⟨t, ht, _⟩ := hstands.held n hn
      obtain ⟨e', he', htells⟩ := hstands.entry n t hn ht hentered
      cases he'.symm.trans he
      obtain ⟨told, htold, hcount⟩ := htells.lastResync r hr
      exact ⟨n, told, hn, htold, hcount⟩

theorem Sound.tasks (h : w.Sound) {answer : Except SyncError Sync.Response} {now : Instant}
    (hs : w.step? (.told n answer now) = some w')
    (hchanged : w'.registry[key]? ≠ w.registry[key]?) : w.current? key = some n := by
  obtain ⟨t, ht, hs⟩ := Option.bind_eq_some_iff.mp hs
  split at hs
  · rename_i told htask
    cases hs
    have hlive := h.live n t ht (by rw [htask]; exact nofun)
    by_cases hk : t.key = key
    · rw [← hk]
      exact hlive
    · refine absurd ?_ hchanged
      unfold Office.onTold
      split
      · exact congrArg Desk.entry ((desk_note w t.key n told now key).trans (if_neg hk))
      · rfl
      · rfl
  · exact nomatch hs

theorem Sound.after_shutdownEnds (h : w.Sound) {keys : List String}
    (hs : w.step? (.shutdownEnds keys) = some w') (hkey : key ∈ keys) :
    key ∉ w'.feeds ∧ key ∉ w'.registry := by
  simp only [step?] at hs
  split at hs
  · rename_i hclosed
    cases hs
    obtain ⟨hseat, hentry⟩ := h.gone (List.all_eq_true.mp hclosed.2 key hkey)
    refine ⟨(getElem?_eq_none_iff _ _).mp ?_, (getElem?_eq_none_iff _ _).mp hentry⟩
    rw [getElem?_feeds]
    unfold feed?
    dsimp only
    rw [hseat]
    rfl
  · exact nomatch hs

/-- After every run the table and the registry agree. -/
theorem orderly_of_run {es : List Event} (h : new.run? es = some w) : w.Orderly := by
  have hsound := sound_of_run h
  exact
    { agrees := fun _ hidle => hsound.agrees hidle
      current := fun _ _ hn => hsound.current hn
      resyncs := fun _ _ _ he hr => hsound.resyncs he hr
      tasks := fun _ _ _ _ hs _ hchanged => hsound.tasks hs hchanged
      stopped := fun _ _ _ ha => hsound.honest.answers _ ha
      gone := fun _ _ hs _ hkey => hsound.after_shutdownEnds hs hkey }

/-- What a feed of pods is to be like. -/
def podOrder (endpoint : String) : Order :=
  ⟨"default", endpoint, .ofSeconds 10, .ofSeconds 3600, none⟩

/-- A feed of pods. -/
def podFeed (endpoint : String) : Feed :=
  (Feed.empty .usual "default" (podOrder endpoint).settings 0).put
    (.start ⟨⟨"", "v1", "pods"⟩, "Pod", true⟩)

/-- One feed is started and then started anew with another index, while it is resyncing; another one
cannot be started. A third one is started while the first is taken down for good. -/
def busyRun : List Event :=
  [.pin [⟨⟨"", "v1", "pods"⟩, "Pod", true⟩], .ensure "a" (podOrder "one"),
    .ensure "b" (podOrder "one"), .reached "a" (.ok ()), .reached "b" (.ok ()), .taken "a",
    .taken "b", .consulted "a", .launched "a" (.ok (podFeed "one")), .seated "a", .entered "a",
    .due 0 ⟨0, 0⟩, .consulted "b", .ensure "a" (podOrder "two"), .told 0 (.ok ⟨true, none, none⟩)
    ⟨1, 0⟩, .reached "a" (.ok ()), .due 0 ⟨2, 0⟩, .taken "a", .launched "b" (.error .cancelled),
    .told 0 (.ok ⟨true, none, none⟩) ⟨3, 0⟩, .ends 0, .cleared "a", .consulted "a",
    .launched "a" (.ok (podFeed "two")), .due 1 ⟨4, 0⟩, .seated "a",
    .told 1 (.error (.http "refused")) ⟨5, 0⟩, .entered "a", .resync "a" ⟨6, 0⟩, .stop "b",
    .replied "a" (.ok ⟨true, none, none⟩) ⟨7, 0⟩, .shutdown, .ensure "c" (podOrder "one"),
    .reached "c" (.ok ()), .taken "c", .consulted "c", .launched "c" (.ok (podFeed "one")),
    .ends 1, .seated "c", .cleared "a", .entered "c", .due 2 ⟨8, 0⟩,
    .told 2 (.ok ⟨true, none, none⟩) ⟨9, 0⟩]

theorem isSome_busyRun : (new.run? busyRun).isSome = true := by decide +kernel

theorem orderly_of_busyRun : ((new.run? busyRun).get isSome_busyRun).Orderly :=
  orderly_of_run (Option.some_get isSome_busyRun).symm

end ClusterFeed.Control.Office
