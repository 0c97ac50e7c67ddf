import ClusterFeed.Proofs.Control.Ensuring
import ClusterFeed.Proofs.Control.Renewal
import ClusterFeed.Proofs.Text.Trimming
import Mathlib.Algebra.Group.Nat.Defs

/-!
# Settings and timers

A configuration asks for its times in numbers of 64 bits, which may be missing, negative or far too
great. The settings make of them times that can be kept: no later layer has to put them right, and
written out as a configuration they come back as they are. Two configurations have the same settings
just if they come to the same address, the same times and the same place of the token; then a feed
for one of them serves the other as well.

The settings are those of `from_spec`, and the times are read by the ticks of `run` and
`resync_loop`.
-/

namespace ClusterFeed.Control

open Cluster (Notice SecretKey)
open Time (Duration)

/-- What a configuration asks for, its numbers as they are kept in 64 bits. -/
structure Wish where
  endpoint : String
  debounce : Option Int64
  resync : Option Int64
  auth : Option SecretKey
  deriving DecidableEq

namespace Wish

/-- What the configuration asks for, in numbers of any size. -/
def spec (w : Wish) : SyncSpec :=
  ⟨w.endpoint, w.debounce.map Int64.toInt, w.resync.map Int64.toInt, w.auth⟩

/-- A number of units of time: what is asked for, up to a greatest one, or else the usual one. -/
def units (greatest usual : Nat) : Option Int64 → Nat
  | some i => if 0 < i.toInt then min i.toInt.toNat greatest else usual
  | none => usual

/-- The seconds between two sendings. -/
def seconds (w : Wish) : Nat := units 3600 10 w.debounce

/-- The minutes between two resyncs. -/
def minutes (w : Wish) : Nat := units 10080 60 w.resync

/-- Two wishes come to the same. -/
structure Agrees (w w' : Wish) : Prop where
  endpoint : Text.trim w.endpoint = Text.trim w'.endpoint
  seconds : w.seconds = w'.seconds
  minutes : w.minutes = w'.minutes
  auth : w.auth = w'.auth

/-- The bits of a positive number, read without a sign. -/
def word? (n : Option Int64) : Option UInt64 :=
  (n.filter fun i => decide (0 < i)).map Int64.toUInt64

/-- The product, or the greatest number when the product does not fit into 64 bits. -/
def productOrMost (a b : UInt64) : UInt64 :=
  if BitVec.umulOverflow a.toBitVec b.toBitVec then .ofNat Settings.maxSeconds else a * b

/-- The settings, computed with 64 bits throughout. -/
def machineSettings (w : Wish) : Settings where
  endpoint := Text.trim w.endpoint
  debounce := .ofSeconds ((word? w.debounce).elim 10 fun n => min n 3600).toNat
  resync := .ofSeconds ((word? w.resync).elim 3600 fun n => min (productOrMost n 60) 604800).toNat
  auth := w.auth

variable {w w' : Wish} {i : Int64} {n : Option Int64} {greatest usual : Nat}

/-! ## The arithmetic of 64 bits -/

/-- Without its sign a positive number is the same. -/
theorem toNat_toUInt64 (h : 0 < i.toInt) : i.toUInt64.toNat = i.toInt.toNat := by
  have hbits : 0 < i.toBitVec.toInt := h
  show i.toBitVec.toNat = i.toBitVec.toInt.toNat
  rw [BitVec.toInt_eq_toNat_cond] at *
  split at hbits <;> omega

theorem positive?_map (n : Option Int64) :
    Settings.positive? (n.map Int64.toInt) = (word? n).map UInt64.toNat := by
  cases n with
  | none => rfl
  | some i =>
    by_cases h : 0 < i.toInt
    · have hi : 0 < i := Int64.lt_iff_toInt_lt.mpr h
      simp [Settings.positive?, word?, Option.filter, h, hi, toNat_toUInt64 h]
    · have hi : ¬ 0 < i := fun hi => h (Int64.lt_iff_toInt_lt.mp hi)
      simp [Settings.positive?, word?, Option.filter, h, hi]

theorem toNat_productOrMost (a b : UInt64) :
    (productOrMost a b).toNat = min (a.toNat * b.toNat) Settings.maxSeconds := by
  have hmost : (UInt64.ofNat Settings.maxSeconds).toNat = Settings.maxSeconds := rfl
  unfold productOrMost
  split
  · rename_i h
    have hbig : 2 ^ 64 ≤ a.toNat * b.toNat := by simpa [BitVec.umulOverflow] using h
    rw [hmost, Nat.min_eq_right]
    unfold Settings.maxSeconds
    omega
  · rename_i h
    have hsmall : a.toNat * b.toNat < 2 ^ 64 := by simpa [BitVec.umulOverflow] using h
    rw [UInt64.toNat_mul, Nat.mod_eq_of_lt hsmall, Nat.min_eq_left]
    unfold Settings.maxSeconds
    omega

theorem toNat_min (a b : UInt64) : (min a b).toNat = min a.toNat b.toNat := by
  show (if a ≤ b then a else b).toNat = _
  split
  · rename_i h
    exact (Nat.min_eq_left (UInt64.le_iff_toNat_le.mp h)).symm
  · rename_i h
    have hlt : ¬ a.toNat ≤ b.toNat := fun hle => h (UInt64.le_iff_toNat_le.mpr hle)
    omega

theorem ofSeconds_min (a b : Nat) :
    (Duration.ofSeconds a).min (.ofSeconds b) = .ofSeconds (min a b) := by
  unfold Duration.ofSeconds Duration.min
  rw [Duration.mk.injEq]
  exact (Nat.mul_min_mul_right a b Duration.perSecond)

/-- Nothing grows beyond 64 bits on the way to the settings. -/
theorem machineSettings_eq (w : Wish) : w.machineSettings = .ofSpec w.spec := by
  obtain ⟨endpoint, debounce, resync, auth⟩ := w
  unfold machineSettings Settings.ofSpec spec
  dsimp only
  rw [positive?_map, positive?_map]
  congr 1
  · cases word? debounce with
    | none => rfl
    | some n =>
      show Duration.ofSeconds (min n 3600).toNat =
        (Duration.ofSeconds n.toNat).min (.ofSeconds 3600)
      rw [toNat_min, ofSeconds_min]
      rfl
  · cases word? resync with
    | none => rfl
    | some n =>
      show Duration.ofSeconds (min (productOrMost n 60) 604800).toNat =
        (Duration.ofSeconds (min (n.toNat * 60) Settings.maxSeconds)).min (.ofSeconds 604800)
      rw [toNat_min, toNat_productOrMost, ofSeconds_min]
      rfl

/-! ## The times that come of it -/

theorem units_pos (hgreatest : 0 < greatest) (husual : 0 < usual) (n : Option Int64) :
    0 < units greatest usual n := by
  unfold units
  split
  · split <;> omega
  · exact husual

theorem units_le (h : usual ≤ greatest) (n : Option Int64) :
    units greatest usual n ≤ greatest := by
  unfold units
  split
  · split <;> omega
  · exact h

/-- A number of units that is written out is read as it is. -/
theorem units_ofNat {k : Nat} (hpos : 0 < k) (hk : k ≤ greatest) (hfits : greatest < 2 ^ 63) :
    units greatest usual (some (.ofNat k)) = k := by
  have hint : (Int64.ofNat k).toInt = k := Int64.toInt_ofNat_of_lt (by omega)
  unfold units
  dsimp only
  rw [hint]
  simp only [Int.toNat_natCast]
  split <;> omega

theorem debounce_ofSpec (w : Wish) : (Settings.ofSpec w.spec).debounce = .ofSeconds w.seconds := by
  obtain ⟨endpoint, debounce, resync, auth⟩ := w
  unfold Settings.ofSpec spec seconds units
  cases debounce with
  | none => rfl
  | some i =>
    dsimp only [Option.map]
    by_cases h : 0 < i.toInt
    · simp only [Settings.positive?, Option.filter, h, decide_true, if_true, Option.map]
      exact ofSeconds_min _ _
    · simp only [Settings.positive?, Option.filter, h, decide_false, if_false, Option.map]
      rfl

theorem resync_ofSpec (w : Wish) :
    (Settings.ofSpec w.spec).resync = .ofSeconds (w.minutes * 60) := by
  obtain ⟨endpoint, debounce, resync, auth⟩ := w
  unfold Settings.ofSpec spec minutes units
  cases resync with
  | none => rfl
  | some i =>
    dsimp only [Option.map]
    by_cases h : 0 < i.toInt
    · simp only [Settings.positive?, Option.filter, h, decide_true, if_true, Option.map]
      refine (ofSeconds_min _ _).trans ?_
      congr 1
      show min (min (i.toInt.toNat * 60) Settings.maxSeconds) 604800 = min i.toInt.toNat 10080 * 60
      unfold Settings.maxSeconds
      omega
    · simp only [Settings.positive?, Option.filter, h, decide_false, if_false, Option.map]
      rfl

/-- Lengths of time in seconds are told apart. -/
theorem ofSeconds_inj {a b : Nat} : Duration.ofSeconds a = .ofSeconds b ↔ a = b := by
  unfold Duration.ofSeconds Duration.perSecond
  rw [Duration.mk.injEq]
  omega

theorem agrees_iff : w.Agrees w' ↔ Settings.ofSpec w.spec = .ofSpec w'.spec := by
  have hparts : ∀ w : Wish, Settings.ofSpec w.spec =
      ⟨Text.trim w.endpoint, .ofSeconds w.seconds, .ofSeconds (w.minutes * 60), w.auth⟩ := by
    intro w
    rw [← debounce_ofSpec, ← resync_ofSpec]
    rfl
  rw [hparts w, hparts w', Settings.mk.injEq, ofSeconds_inj, ofSeconds_inj]
  constructor
  · rintro ⟨hendpoint, hseconds, hminutes, hauth⟩
    exact ⟨hendpoint, hseconds, by rw [hminutes], hauth⟩
  · rintro ⟨hendpoint, hseconds, hminutes, hauth⟩
    exact ⟨hendpoint, hseconds, by omega, hauth⟩

end Wish

/-- The settings written out as what a configuration asks for. -/
def Settings.explicit (s : Settings) : Wish :=
  ⟨s.endpoint, some (.ofNat s.debounce.seconds), some (.ofNat (s.resync.seconds / 60)), s.auth⟩

/-- What is left without blanks around it is left as it is. -/
theorem trim_trim (s : String) : Text.trim (Text.trim s) = Text.trim s := by
  have h := Text.trims_trim s
  exact Text.trims_iff.mp (.self h.first h.last)

theorem Wish.explicit_agrees (w : Wish) : (Settings.ofSpec w.spec).explicit.Agrees w := by
  have hseconds : (Settings.ofSpec w.spec).debounce.seconds = w.seconds := by
    rw [debounce_ofSpec]
    exact Nat.mul_div_cancel _ (by decide)
  have hminutes : (Settings.ofSpec w.spec).resync.seconds / 60 = w.minutes := by
    have hresync : (Settings.ofSpec w.spec).resync.seconds = w.minutes * 60 := by
      rw [resync_ofSpec]
      exact Nat.mul_div_cancel _ (by decide)
    rw [hresync]
    omega
  refine ⟨trim_trim w.endpoint, ?_, ?_, rfl⟩
  · show units 3600 10 (some (.ofNat (Settings.ofSpec w.spec).debounce.seconds)) = w.seconds
    rw [hseconds]
    exact units_ofNat (units_pos (by omega) (by omega) _) (units_le (by omega) _) (by omega)
  · show units 10080 60 (some (.ofNat ((Settings.ofSpec w.spec).resync.seconds / 60))) = w.minutes
    rw [hminutes]
    exact units_ofNat (units_pos (by omega) (by omega) _) (units_le (by omega) _) (by omega)

/-! ## The timers of a feed -/

namespace Feed

variable {σ : Type} {f : Feed} {o : Outside σ} {opts : Options} {scope : String}
  {settings : Settings} {types : List WatchedType}

theorem Life.serves (h : Life o opts scope settings types f) : f.Serves scope settings types := by
  induction h with
  | start now s => exact start_serves o opts scope settings types now s
  | @notify f _ path notices s ih =>
    have hsame := notify_succeeds o opts path notices f s
    exact ⟨hsame.settings.trans ih.settings, hsame.scope.trans ih.scope,
      hsame.watched.trans ih.watched⟩
  | @resume f _ place s ih =>
    have hsame := resume_succeeds o opts place f s
    exact ⟨hsame.settings.trans ih.settings, hsame.scope.trans ih.scope,
      hsame.watched.trans ih.watched⟩
  | @wake f _ now _ s ih =>
    have hsame := wake_succeeds o opts now f s
    exact ⟨hsame.settings.trans ih.settings, hsame.scope.trans ih.scope,
      hsame.watched.trans ih.watched⟩

/-- All through its life a feed sends in the rhythm with which its buffer began. -/
theorem Life.window (h : Life o opts scope settings types f) :
    f.loop.buffer.window = Buffer.effectiveWindow settings.debounce := by
  obtain ⟨began, hcomes⟩ := h.comes
  obtain ⟨es, y, -, hrun, hy⟩ := hcomes (.opening (.new settings.debounce settings.hasTarget)
    (.new (max opts.queueCapacity 1)) began) rfl
  rw [← hy]
  exact Duty.window_of_run hrun

theorem SameInformers.resyncDue {f' : Feed} (h : f'.SameInformers f) :
    f'.resyncDue = f.resyncDue := by
  rw [h]

theorem resyncDue_settle (send : Option (Send σ)) (f : Feed) (s : σ) :
    (f.closeIfAbandoned.settle send s).1.resyncDue = f.resyncDue :=
  ((sameInformers_settle send f.closeIfAbandoned s).trans
    (sameInformers_closeIfAbandoned f)).resyncDue

/-- The first resync is due when one interval has passed. -/
theorem resyncDue_start (o : Outside σ) (opts : Options) (scope : String) (settings : Settings)
    (types : List WatchedType) (now : Nat) (s : σ) :
    (start o opts scope settings types now s).1.resyncDue = now + resyncEvery settings := by
  obtain ⟨-, hsame⟩ := askAll_keeps o (transport o opts scope settings)
    Watch.Informer.maxRequests (types.map .start) (empty opts scope settings now) s
  have hput : ∀ (is : List Watch.Informer) (g : Feed),
      (is.foldl put g).resyncDue = g.resyncDue := by
    intro is
    induction is with
    | nil => exact fun g => rfl
    | cons i is ih => exact fun g => ih (g.put i)
  exact (resyncDue_settle _ _ _).trans ((hput _ _).trans hsame.resyncDue)

/-- A resync that is due puts off the next one by an interval; nothing else moves it. -/
theorem resyncDue_wake (o : Outside σ) (opts : Options) (now : Nat) (f : Feed) (s : σ) :
    (f.wake o opts now s).2.1.resyncDue =
      if f.resyncDue ≤ now then FlushLoop.nextDeadline (resyncEvery f.settings) f.resyncDue now
      else f.resyncDue := by
  unfold wake settle
  dsimp only
  split
  · split <;> rfl
  · rfl

theorem resyncDue_notify (o : Outside σ) (opts : Options) (path : String) (notices : List Notice)
    (f : Feed) (s : σ) : (f.notify o opts path notices s).1.resyncDue = f.resyncDue := by
  have hstrays : (f.hearStrays path notices (o.now s)).resyncDue = f.resyncDue := by
    unfold hearStrays
    exact List.foldlRecOn (motive := fun g : Feed => g.resyncDue = f.resyncDue) _ _ rfl
      fun g hg _ _ => hg
  have hplaced : ∀ g : Feed, (g.hearPlaced path notices (o.now s)).resyncDue = g.resyncDue := by
    intro g
    unfold hearPlaced
    exact List.foldlRecOn (motive := fun g' : Feed => g'.resyncDue = g.resyncDue) _ _ rfl
      fun g' hg _ _ => hg
  exact (resyncDue_settle _ _ _).trans ((hplaced _).trans hstrays)

theorem resyncDue_resume (o : Outside σ) (opts : Options) (place : Seat) (f : Feed) (s : σ) :
    (f.resume o opts place s).1.resyncDue = f.resyncDue := by
  unfold Feed.resume
  split
  · rfl
  · rename_i i _
    refine (resyncDue_settle _ _ _).trans ?_
    cases place <;> rfl

end Feed

/-! ## Feeds that may go on -/

/-- A feed that may stay as it is does if its settings are asked for again, and is replaced if
others are. -/
theorem Manager.ensure_of_mayStay {σ : Type} {m : Manager} {key : String} {f : Feed}
    {settings : Settings} {o : Outside σ} {s : σ} (scope : String) (hf : m.feeds[key]? = some f)
    (hreached : (m.answers o settings s).reached = .ok ())
    (hstay : f.MayStay (m.answers o settings s).types) :
    (f.settings = settings → (m.ensure o key scope settings s).1 = (.ok .unchanged, m)) ∧
      (f.settings ≠ settings → (m.ensure o key scope settings s).1.1 =
        (m.answers o settings s).outcome .restarted) := by
  set a := m.answers o settings s with ha
  obtain ⟨⟨reached, s₁⟩, hconnect⟩ : ∃ r, o.connect s = r := ⟨_, rfl⟩
  have hok : reached = .ok () := by
    rw [← hreached, ha]
    unfold answers
    rw [hconnect]
  have htypes : m.resolve o s₁ = (a.types, (m.resolve o s₁).2) := by
    rw [ha]
    unfold answers
    rw [hconnect]
  have hclient : o.makeClient settings (m.resolve o s₁).2 = (a.client, a.world) := by
    rw [ha]
    unfold answers
    rw [hconnect]
  unfold ensure
  rw [hconnect, hok]
  dsimp only
  rw [hf]
  dsimp only
  constructor
  · intro hsame
    rw [if_pos hsame, htypes]
    dsimp only
    rw [if_pos (mayGoOn_iff.mpr hstay)]
  · intro hother
    rw [if_neg hother, replace_none, htypes]
    exact (replace_replaced o m key scope settings a .restarted _ hclient).ends

/-- The settings are what is wished for, and keep every timer valid. -/
structure Settings.Meets (s : Settings) (w : Wish) : Prop where
  /-- No number on the way to them needs more than 64 bits. -/
  computed : w.machineSettings = s
  /-- The times are those that are wished for, within bounds. -/
  debounce : s.debounce = .ofSeconds w.seconds ∧ 0 < w.seconds ∧ w.seconds ≤ 3600
  resync : s.resync = .ofSeconds (w.minutes * 60) ∧ 0 < w.minutes ∧ w.minutes ≤ 10080
  /-- A buffer takes its time as it is, -/
  buffer : ∀ attached, (Buffer.new s.debounce attached).window = s.debounce
  /-- and so does every feed, as long as it lives. -/
  lasting : ∀ {σ : Type} (o : Outside σ) (opts : Options) (scope : String)
    (types : List WatchedType) (f : Feed), Feed.Life o opts scope s types f →
    f.settings = s ∧ f.loop.buffer.window = s.debounce
  /-- The resyncs take theirs as it is, from the first one on. -/
  first : ∀ {σ : Type} (o : Outside σ) (opts : Options) (scope : String)
    (types : List WatchedType) (now : Nat) (world : σ),
    (Feed.start o opts scope s types now world).1.resyncDue = now + s.resync.nanos
  next : ∀ {σ : Type} (o : Outside σ) (opts : Options) (f : Feed) (now : Nat) (world : σ),
    f.settings = s → (f.wake o opts now world).2.1.resyncDue =
      if f.resyncDue ≤ now then FlushLoop.nextDeadline s.resync.nanos f.resyncDue now
      else f.resyncDue
  meanwhile : ∀ {σ : Type} (o : Outside σ) (opts : Options) (f : Feed) (path : String)
    (notices : List Notice) (place : Seat) (world : σ),
    (f.notify o opts path notices world).1.resyncDue = f.resyncDue ∧
      (f.resume o opts place world).1.resyncDue = f.resyncDue
  /-- Written out they come back as they are. -/
  explicit : Settings.ofSpec s.explicit.spec = s
  /-- Another wish has the same settings just if it comes to the same. -/
  shared : ∀ w' : Wish, Settings.ofSpec w'.spec = s ↔ w'.Agrees w
  /-- Then, and only then, it leaves a feed alone that may stay as it is. -/
  kept : ∀ {σ : Type} (o : Outside σ) (m : Manager) (key scope : String) (f : Feed) (world : σ)
    (w' : Wish), m.feeds[key]? = some f → f.settings = s →
    (m.answers o (.ofSpec w'.spec) world).reached = .ok () →
    f.MayStay (m.answers o (.ofSpec w'.spec) world).types →
    (w'.Agrees w →
      (m.ensure o key scope (.ofSpec w'.spec) world).1 = (.ok .unchanged, m)) ∧
    (¬ w'.Agrees w → (m.ensure o key scope (.ofSpec w'.spec) world).1.1 =
      (m.answers o (.ofSpec w'.spec) world).outcome .restarted)

/-- Whatever is wished for, the settings meet it. -/
theorem settings_meet_wish (w : Wish) : (Settings.ofSpec w.spec).Meets w := by
  have hdebounce := w.debounce_ofSpec
  have hresync := w.resync_ofSpec
  have hseconds : 0 < w.seconds ∧ w.seconds ≤ 3600 :=
    ⟨Wish.units_pos (by omega) (by omega) _, Wish.units_le (by omega) _⟩
  have hminutes : 0 < w.minutes ∧ w.minutes ≤ 10080 :=
    ⟨Wish.units_pos (by omega) (by omega) _, Wish.units_le (by omega) _⟩
  -- neither the buffer nor the resyncs find anything to put right
  have hwindow : Buffer.effectiveWindow (Settings.ofSpec w.spec).debounce =
      (Settings.ofSpec w.spec).debounce := by
    rw [hdebounce]
    unfold Buffer.effectiveWindow
    rw [if_neg]
    · refine (Wish.ofSeconds_min _ _).trans ?_
      rw [Nat.min_eq_left (by omega)]
    · show ¬ w.seconds * 1000000000 = 0
      omega
  have hevery :
      Feed.resyncEvery (Settings.ofSpec w.spec) = (Settings.ofSpec w.spec).resync.nanos := by
    unfold Feed.resyncEvery
    rw [if_neg]
    rw [hresync]
    show ¬ w.minutes * 60 * 1000000000 = 0
    omega
  refine
    { computed := w.machineSettings_eq
      debounce := ⟨hdebounce, hseconds⟩
      resync := ⟨hresync, hminutes⟩
      buffer := fun _ => hwindow
      lasting := fun o opts scope types f hlife =>
        ⟨hlife.serves.settings, hlife.window.trans hwindow⟩
      first := fun o opts scope types now world => ?_
      next := fun o opts f now world hf => ?_
      meanwhile := fun o opts f path notices place world =>
        ⟨Feed.resyncDue_notify o opts path notices f world,
          Feed.resyncDue_resume o opts place f world⟩
      explicit := Wish.agrees_iff.mp w.explicit_agrees
      shared := fun w' => Wish.agrees_iff.symm
      kept := fun o m key scope f world w' hf hsettings hreached hstay => ?_ }
  · rw [Feed.resyncDue_start, hevery]
  · rw [Feed.resyncDue_wake, hf, hevery]
  · obtain ⟨hsame, hother⟩ := Manager.ensure_of_mayStay scope hf hreached hstay
    rw [Wish.agrees_iff]
    constructor
    · intro hagrees
      exact hsame (hsettings.trans hagrees.symm)
    · intro hdiffer
      exact hother fun heq => hdiffer (heq.symm.trans hsettings)

end ClusterFeed.Control
