import ClusterFeed.Control.Status
import ClusterFeed.Proofs.Time.Instants
import Mathlib.Algebra.Ring.Int.Defs
import Mathlib.Data.List.Induction

/-!
# The history of a status

The controller makes a status on many occasions with `build_status`, each time from the one before.
Each of its fields has a rule of its own: some tell of the present occasion only, others are carried
on until an occasion brings something new, as `set_ready` does with the time of the condition.
However long the history is, what a status tells can be read off the start and the occasions.
-/

namespace ClusterFeed.Control

open Time (Instant)

/-- What a status is made from, apart from the one before. -/
structure Occasion where
  /-- The generation of the configuration. -/
  generation : Option Int
  /-- The entry of the registry, if the feed runs. -/
  active : Option ActiveEntry
  /-- Why the feed is ready or not. -/
  reason : ReadyReason
  /-- The same in a text for readers. -/
  message : String
  /-- The time. -/
  now : Instant

namespace Occasion

/-- The resync that the registry tells of. -/
def resync? (o : Occasion) : Option ResyncRecord := o.active.bind (·.lastResync)

end Occasion

/-- The latest of some occasions at which something held that may hang on the occasions before. -/
inductive Latest (held : List Occasion → Occasion → Prop) :
    List Occasion → Option Occasion → Prop where
  /-- Without occasions there is none. -/
  | nil : Latest held [] none
  /-- It held at the last one. -/
  | last {os : List Occasion} {o : Occasion} (h : held os o) : Latest held (os ++ [o]) (some o)
  /-- It did not hold at the last one. -/
  | before {os : List Occasion} {o : Occasion} {found : Option Occasion} (h : ¬ held os o)
    (hbefore : Latest held os found) : Latest held (os ++ [o]) found

namespace SyncStatus

/-- The status that is made on an occasion. -/
def next (prev : Option SyncStatus) (o : Occasion) : SyncStatus :=
  build o.generation prev o.active o.reason o.message o.now

/-- The status after occasions on each of which it is made from the one before. -/
def after (start : Option SyncStatus) (os : List Occasion) : Option SyncStatus :=
  os.foldl (fun prev o => some (next prev o)) start

/-- The conditions of a status that may be missing. -/
def conditionsOf (s : Option SyncStatus) : List Condition := (s.map (·.conditions)).getD []

/-- The conditions that do not tell whether the feed is ready. -/
def others (s : Option SyncStatus) : List Condition :=
  (conditionsOf s).filter (·.about != readyName)

/-- The first condition of a status that tells whether the feed is ready. -/
def firstReady? (s : Option SyncStatus) : Option Condition :=
  (conditionsOf s).find? (·.about == "Ready")

/-- On an occasion the feed turns from ready to not ready or back, or it is told for the first time
whether it is ready. -/
def Turns (start : Option SyncStatus) (os : List Occasion) (o : Occasion) : Prop :=
  (firstReady? (after start os)).map (·.status) ≠ some o.reason.statusWord

variable {start prev : Option SyncStatus} {os : List Occasion} {o : Occasion}

theorem firstReady?_eq (s : Option SyncStatus) : firstReady? s = s.bind ready? := by
  cases s <;> rfl

theorem after_concat (start : Option SyncStatus) (os : List Occasion) (o : Occasion) :
    after start (os ++ [o]) = some (next (after start os) o) := by
  unfold after
  rw [List.foldl_append]
  rfl

/-! ## Counts and times -/

/-- A number tells a count: it is the count as long as that fits into 64 bits with a sign, and has
the same 64 bits otherwise. -/
structure Tells (i : Int) (n : Nat) : Prop where
  /-- It is the count. -/
  exact : n < 2 ^ 63 → i = n
  /-- It has the bits of the count. -/
  bits : i % 2 ^ 64 = n % 2 ^ 64
  /-- It fits into 64 bits with a sign. -/
  range : -2 ^ 63 ≤ i ∧ i < 2 ^ 63

theorem signed_tells (n : Nat) : Tells (signed n) n := by
  unfold signed
  rw [Int.bmod_def]
  constructor
  · intro hn
    split <;> omega
  · split <;> omega
  · split <;> omega

/-- A text is the time of an instant to the second. -/
structure Dates (text : String) (t : Instant) : Prop where
  /-- It is written after the rules. -/
  written : text = t.renderSeconds
  /-- It is read as the beginning of the second. -/
  read : t.IsPlain → Instant.parse? text = some ⟨t.seconds, 0⟩

theorem renderSeconds_dates (t : Instant) : Dates t.renderSeconds t :=
  ⟨rfl, Instant.parse?_renderSeconds⟩

/-! ## One occasion -/

/-- The condition that an occasion brings. -/
def condition (prev : Option SyncStatus) (o : Occasion) : Condition :=
  ⟨readyName, o.reason.statusWord, o.reason.name, o.message, readySince prev o.reason o.now⟩

theorem conditions_next (prev : Option SyncStatus) (o : Occasion) :
    (next prev o).conditions = others prev ++ [condition prev o] := by
  unfold next build setReady others conditionsOf
  cases prev <;> rfl

theorem about_of_mem_others {c : Condition} (h : c ∈ others prev) : (c.about != readyName) = true :=
  (List.mem_filter.mp h).2

theorem firstReady?_next (prev : Option SyncStatus) (o : Occasion) :
    firstReady? (some (next prev o)) = some (condition prev o) := by
  have hnone : (others prev).find? (·.about == readyName) = none := by
    refine List.find?_eq_none.mpr fun c hc => ?_
    simpa using about_of_mem_others hc
  show (next prev o).conditions.find? (·.about == readyName) = _
  rw [conditions_next, List.find?_append, hnone]
  rfl

theorem others_next (prev : Option SyncStatus) (o : Occasion) :
    others (some (next prev o)) = others prev := by
  show (next prev o).conditions.filter (·.about != readyName) = _
  have hready : [condition prev o].filter (·.about != readyName) = [] := rfl
  rw [conditions_next, List.filter_append, hready, List.append_nil]
  exact List.filter_eq_self.mpr fun c hc => about_of_mem_others hc

theorem readySince_of_same {c : Condition} {reason : ReadyReason} (h : firstReady? prev = some c)
    (hsame : c.status = reason.statusWord) (now : Instant) :
    readySince prev reason now = c.since := by
  have hfilter : (some c).filter (·.status == reason.statusWord) = some c :=
    Option.filter_some_pos (beq_iff_eq.mpr hsame)
  rw [firstReady?_eq] at h
  rw [readySince, h, hfilter]

theorem readySince_of_turned {reason : ReadyReason}
    (h : (firstReady? prev).map (·.status) ≠ some reason.statusWord) (now : Instant) :
    readySince prev reason now = now.renderSeconds := by
  rw [firstReady?_eq] at h
  unfold readySince
  cases hc : prev.bind ready? with
  | none => rfl
  | some c =>
    rw [hc] at h
    have hne : c.status ≠ reason.statusWord := fun he => h (congrArg some he)
    rw [Option.filter_some_neg (by simpa using hne)]

theorem lastResync_next (prev : Option SyncStatus) (o : Occasion) :
    (next prev o).lastResyncTime =
        o.resync?.elim (prev.bind (·.lastResyncTime)) (fun r => some r.instant.renderSeconds) ∧
      (next prev o).lastResyncCount =
        o.resync?.elim (prev.bind (·.lastResyncCount)) fun r => some (signed r.count) := by
  unfold next build Occasion.resync?
  cases o.active.bind (·.lastResync) <;> exact ⟨rfl, rfl⟩

/-- Said of any way to count, because the numbers of 64 bits must not be computed in
`watched_build`. -/
theorem match_eq_elim (count : Nat → Int) (active : Option ActiveEntry) :
    (match active with
      | some a => count a.watched
      | none => 0) = active.elim 0 fun a => count a.watched := by
  cases active <;> rfl

/-- The number of types that are watched is that of the registry's entry. -/
theorem watched_build (generation : Option Int) (prev : Option SyncStatus)
    (active : Option ActiveEntry) (reason : ReadyReason) (message : String) (now : Instant) :
    (build generation prev active reason message now).watched =
      active.elim 0 fun a => signed a.watched :=
  match_eq_elim signed active

theorem current_next (prev : Option SyncStatus) (o : Occasion) :
    (next prev o).active = o.active.any (·.active) ∧
      (next prev o).watched = o.active.elim 0 fun e => signed e.watched := by
  refine ⟨?_, watched_build ..⟩
  unfold next build setReady
  cases o.active <;> rfl

theorem statusWord_cases (r : ReadyReason) :
    r.statusWord = "True" ∧ r = .watching ∨ r.statusWord = "False" ∧ r ≠ .watching := by
  cases r with
  | watching => exact .inl ⟨rfl, rfl⟩
  | discoveryFailed => exact .inr ⟨rfl, nofun⟩
  | credentialUnavailable => exact .inr ⟨rfl, nofun⟩
  | stopped => exact .inr ⟨rfl, nofun⟩

/-! ## A history -/

theorem others_after (start : Option SyncStatus) (os : List Occasion) :
    others (after start os) = others start := by
  induction os using List.reverseRecOn with
  | nil => rfl
  | append_singleton os o ih => rw [after_concat, others_next, ih]

/-- The last resync of a history, with the start's as long as there is none. -/
theorem lastResync_after (start : Option SyncStatus) (os : List Occasion) :
    (after start os).bind (·.lastResyncTime) = (os.filterMap Occasion.resync?).getLast?.elim
        (start.bind (·.lastResyncTime)) (fun r => some r.instant.renderSeconds) ∧
      (after start os).bind (·.lastResyncCount) = (os.filterMap Occasion.resync?).getLast?.elim
        (start.bind (·.lastResyncCount)) fun r => some (signed r.count) := by
  induction os using List.reverseRecOn with
  | nil => exact ⟨rfl, rfl⟩
  | append_singleton os o ih =>
    obtain ⟨htime, hcount⟩ := lastResync_next (after start os) o
    rw [after_concat, Option.bind_some, Option.bind_some, htime, hcount, List.filterMap_append]
    cases hr : o.resync? with
    | none => simpa [hr] using ih
    | some r => simp [hr]

/-- The time of the condition is that of the latest turn, and the start's as long as there is
none. -/
theorem exists_latest (start : Option SyncStatus) (os : List Occasion) :
    ∃ found, Latest (Turns start) os found ∧
      (firstReady? (after start os)).map (·.since) =
        found.elim ((firstReady? start).map (·.since)) fun o => some o.now.renderSeconds := by
  induction os using List.reverseRecOn with
  | nil => exact ⟨none, .nil, rfl⟩
  | append_singleton os o ih =>
    obtain ⟨found, hfound, hsince⟩ := ih
    rw [after_concat, firstReady?_next, Option.map_some]
    by_cases hturns : Turns start os o
    · exact ⟨some o, .last hturns, congrArg some (readySince_of_turned hturns o.now)⟩
    · refine ⟨found, .before hturns hfound, ?_⟩
      obtain ⟨c, hc, hsame⟩ := Option.map_eq_some_iff.mp (Classical.not_not.mp hturns)
      rw [hc] at hsince
      rw [← hsince]
      exact congrArg some (readySince_of_same hc hsame o.now)

/-- What a status tells that was made on the last of some occasions. -/
structure CarriesOn (start : Option SyncStatus) (os : List Occasion) (o : Occasion) (s : SyncStatus)
    (c : Condition) : Prop where
  /-- All conditions but the last one are those of the start in their order. -/
  conditions : s.conditions = (conditionsOf start).filter (·.about != "Ready") ++ [c]
  /-- The last one is the only one that tells whether the feed is ready. -/
  ready : s.conditions.filter (·.about == "Ready") = [c]
  /-- It holds just when the feed watches the cluster. -/
  status : c.status = "True" ∧ o.reason = .watching ∨ c.status = "False" ∧ o.reason ≠ .watching
  /-- It tells the reason and the text of the occasion. -/
  told : c.reason = o.reason.name ∧ c.message = o.message
  /-- Its time is that of the latest turn, and without a turn that of the start's first one. -/
  since : ∃ found, Latest (Turns start) (os ++ [o]) found ∧
    match found with
    | some o => Dates c.since o.now
    | none => (firstReady? start).map (·.since) = some c.since
  /-- An occasion on which the feed does not turn leaves the time alone. -/
  steady : ∀ c', firstReady? (after start os) = some c' → c'.status = c.status → c.since = c'.since
  /-- The last resync is the latest one that an occasion told of, and without one that of the
  start. -/
  resync : match ((os ++ [o]).filterMap Occasion.resync?).getLast? with
    | some r => (∃ text, s.lastResyncTime = some text ∧ Dates text r.instant) ∧
      ∃ n, s.lastResyncCount = some n ∧ Tells n r.count
    | none => s.lastResyncTime = start.bind (·.lastResyncTime) ∧
      s.lastResyncCount = start.bind (·.lastResyncCount)
  /-- Whether the feed is active and how many types it watches hangs on the registry's entry
  alone. -/
  current : match o.active with
    | some e => s.active = e.active ∧ Tells s.watched e.watched
    | none => s.active = false ∧ s.watched = 0
  /-- The generation is that of the configuration. -/
  generation : s.observedGeneration = o.generation

theorem CarriesOn.of_next (start : Option SyncStatus) (os : List Occasion) (o : Occasion) :
    CarriesOn start os o (next (after start os) o) (condition (after start os) o) := by
  have hconditions : (next (after start os) o).conditions =
      others start ++ [condition (after start os) o] := by
    rw [conditions_next, others_after]
  refine ⟨hconditions, ?_, statusWord_cases o.reason, ⟨rfl, rfl⟩, ?_,
    fun c' hc' hsame => readySince_of_same hc' hsame o.now, ?_, ?_, rfl⟩
  · have hnone : (others start).filter (·.about == readyName) = [] := by
      refine List.filter_eq_nil_iff.mpr fun c hc => ?_
      simpa using about_of_mem_others hc
    show (next (after start os) o).conditions.filter (·.about == readyName) = _
    rw [hconditions, List.filter_append, hnone]
    rfl
  · obtain ⟨found, hfound, hsince⟩ := exists_latest start (os ++ [o])
    rw [after_concat, firstReady?_next, Option.map_some] at hsince
    refine ⟨found, hfound, ?_⟩
    cases found with
    | none => exact hsince.symm
    | some o' => exact Option.some.inj hsince ▸ renderSeconds_dates o'.now
  · obtain ⟨htime, hcount⟩ := lastResync_after start (os ++ [o])
    rw [after_concat, Option.bind_some] at htime hcount
    cases hlast : ((os ++ [o]).filterMap Occasion.resync?).getLast? with
    | none =>
      rw [hlast] at htime hcount
      exact ⟨htime, hcount⟩
    | some r =>
      rw [hlast] at htime hcount
      exact ⟨⟨_, htime, renderSeconds_dates r.instant⟩, _, hcount, signed_tells r.count⟩
  · obtain ⟨hactive, hwatched⟩ := current_next (after start os) o
    cases he : o.active with
    | none =>
      rw [he] at hactive hwatched
      exact ⟨hactive, hwatched⟩
    | some e =>
      rw [he, Option.elim_some] at hwatched
      rw [he] at hactive
      refine ⟨hactive, ?_⟩
      rw [hwatched]
      exact signed_tells e.watched

/-- Whatever the start was and however long the history is, each field of a status is carried on by
its own rule. -/
theorem history_is_carried (start : Option SyncStatus) (os : List Occasion) (o : Occasion) :
    ∃ s c, after start (os ++ [o]) = some s ∧ CarriesOn start os o s c :=
  ⟨_, _, after_concat start os o, .of_next start os o⟩

end SyncStatus

end ClusterFeed.Control
