import ClusterFeed.Control.Manager
import ClusterFeed.Proofs.Control.Serving

/-!
# Having a feed run

A manager that is to have a feed run under a key asks outside whether the cluster can be reached,
which types there are, and whether a client of the index can be built. The answers decide together
with what runs under the key already. What fails before anything is taken down changes nothing; what
fails afterwards leaves nothing under the key.

This is `ensure_running`.
-/

namespace ClusterFeed.Control

open Cluster (Failure)
open Sync (SyncError)

variable {σ : Type}

/-- What a manager hears from outside when it is to have a feed run. -/
structure Answers (σ : Type) where
  /-- Whether the cluster can be reached. -/
  reached : Except Failure Unit
  /-- The types to watch. -/
  types : Except ControlError (List WatchedType)
  /-- Whether a client of the index can be built, if there is an index. -/
  client : Except SyncError Unit
  /-- The world after all this has been asked once. -/
  world : σ

/-- How it ends when a feed is to start: with the first of the answers that is an error. -/
def Answers.outcome (a : Answers σ) (outcome : StartOutcome) : Except ControlError StartOutcome :=
  match a.types, a.client with
  | .error e, _ => .error e
  | .ok _, .error e => .error (.sync e)
  | .ok _, .ok _ => .ok outcome

/-- A feed may stay as it is: as far as is known it watches just the types there are, and all its
informers run. -/
def Feed.MayStay (f : Feed) (found : Except ControlError (List WatchedType)) : Prop :=
  ∀ types, found = .ok types →
    (∀ g, g ∈ types.map (·.gvr) ↔ g ∈ f.watched) ∧ ∀ i ∈ f.informers.values, i.isRunning = true

namespace Manager

/-- The settings of the feed under a key. -/
def settings? (m : Manager) (key : String) : Option Settings := m.feeds[key]?.map (·.settings)

/-- The types that the feed under a key watches. -/
def watched (m : Manager) (key : String) : List Gvr := m.feeds[key]?.elim [] Feed.watched

/-- Nothing runs under a key, and nothing is reported to. -/
def Lacks (m : Manager) (key : String) : Prop := m.feeds[key]? = none ∧ m.registry[key]? = none

/-- The managers have the same feeds and entries under all keys but one. -/
def SameElsewhere (m' m : Manager) (key : String) : Prop :=
  ∀ k, k ≠ key → m'.feeds[k]? = m.feeds[k]? ∧ m'.registry[k]? = m.registry[k]?

/-- What does not run is not reported. -/
def Accounts (m : Manager) : Prop := ∀ k : String, m.feeds[k]? = none → m.registry[k]? = none

/-- What outside answers when a feed with certain settings is to run. -/
def answers (o : Outside σ) (m : Manager) (settings : Settings) (s : σ) : Answers σ :=
  let (reached, s) := o.connect s
  let (types, s) := m.resolve o s
  let (client, s) := o.makeClient settings s
  ⟨reached, types, client, s⟩

/-- Without an index there is no client that could fail to be built. -/
theorem client_answers_of_no_target (o : Outside σ) (m : Manager) {settings : Settings}
    (h : settings.hasTarget = false) (s : σ) : (m.answers o settings s).client = .ok () := by
  unfold answers Outside.makeClient
  simp only [h, Bool.false_eq_true, if_false]

/-- Under a key a new feed runs, which was started for certain types in a world `s`. -/
structure RunsAnew (o : Outside σ) (m m' : Manager) (key scope : String) (settings : Settings)
    (types : List WatchedType) (s s' : σ) : Prop where
  feed : m'.feeds[key]? = some (Feed.start o m.options scope settings types m.clock s).1
  world : s' = (Feed.start o m.options scope settings types m.clock s).2
  settings : m'.settings? key = some settings
  watched : m'.watched key = (GvrSet.ofList (types.map (·.gvr))).keys
  entry : m'.registry[key]? = some ⟨(m'.watched key).length, true, none⟩

/-! ## Taking feeds out and putting them in -/

theorem getElem?_feeds_remove (m : Manager) (key k : String) :
    (m.remove key).feeds[k]? = if key = k then none else m.feeds[k]? := by
  unfold remove
  split
  · exact KeyedMap.getElem?_erase_eq _ _ _
  · rename_i h
    split
    · rename_i hk
      rw [← hk]
      exact Std.ExtTreeMap.getElem?_eq_none_of_contains_eq_false (Bool.not_eq_true _ ▸ h)
    · rfl

theorem getElem?_registry_remove (m : Manager) (key k : String) :
    (m.remove key).registry[k]? = if key = k ∧ key ∈ m.feeds then none else m.registry[k]? := by
  unfold remove
  by_cases h : key ∈ m.feeds
  · rw [if_pos (Std.ExtTreeMap.contains_iff_mem.mpr h)]
    simp only [h, and_true]
    exact KeyedMap.getElem?_erase_eq _ _ _
  · rw [if_neg (fun hc => h (Std.ExtTreeMap.contains_iff_mem.mp hc))]
    simp only [h, and_false, if_false]

@[simp] theorem options_remove (m : Manager) (key : String) :
    (m.remove key).options = m.options := by
  unfold remove
  split <;> rfl

@[simp] theorem pinned_remove (m : Manager) (key : String) :
    (m.remove key).pinned = m.pinned := by
  unfold remove
  split <;> rfl

@[simp] theorem clock_remove (m : Manager) (key : String) : (m.remove key).clock = m.clock := by
  unfold remove
  split <;> rfl

/-- Without a feed under the key there is nothing to take out. -/
theorem remove_of_none {m : Manager} {key : String} (h : m.feeds[key]? = none) :
    m.remove key = m := by
  unfold remove
  exact if_neg fun hmem => (getElem?_eq_none_iff _ _).mp h (Std.ExtTreeMap.contains_iff_mem.mp hmem)

theorem remove_lacks {m : Manager} {key : String} {f : Feed} (h : m.feeds[key]? = some f) :
    (m.remove key).Lacks key := by
  have hmem : key ∈ m.feeds := (Std.ExtTreeMap.getElem?_eq_some_iff.mp h).1
  constructor
  · rw [getElem?_feeds_remove, if_pos rfl]
  · rw [getElem?_registry_remove, if_pos ⟨rfl, hmem⟩]

theorem remove_sameElsewhere (m : Manager) (key : String) :
    (m.remove key).SameElsewhere m key := by
  intro k hk
  constructor
  · rw [getElem?_feeds_remove, if_neg hk.symm]
  · rw [getElem?_registry_remove, if_neg fun h => hk h.1.symm]

theorem install_sameElsewhere (m : Manager) (key : String) (f : Feed) :
    (m.install key f).SameElsewhere m key := by
  intro k hk
  constructor
  · exact (KeyedMap.getElem?_insert_eq _ _ _ _).trans (if_neg hk.symm)
  · exact (KeyedMap.getElem?_insert_eq _ _ _ _).trans (if_neg hk.symm)

theorem SameElsewhere.refl (m : Manager) (key : String) : m.SameElsewhere m key :=
  fun _ _ => ⟨rfl, rfl⟩

theorem SameElsewhere.trans {m m' m'' : Manager} {key : String} (h : m''.SameElsewhere m' key)
    (h' : m'.SameElsewhere m key) : m''.SameElsewhere m key :=
  fun k hk => ⟨(h k hk).1.trans (h' k hk).1, (h k hk).2.trans (h' k hk).2⟩

theorem SameElsewhere.accounts {m m' : Manager} {key : String} (h : m'.SameElsewhere m key)
    (hkey : m'.feeds[key]? = none → m'.registry[key]? = none) (hm : m.Accounts) : m'.Accounts := by
  intro k hk
  by_cases hkk : k = key
  · rw [hkk] at hk ⊢
    exact hkey hk
  · rw [(h k hkk).2]
    exact hm k ((h k hkk).1.symm.trans hk)

theorem remove_accounts {m : Manager} (key : String) (hm : m.Accounts) :
    (m.remove key).Accounts := by
  refine (remove_sameElsewhere m key).accounts (fun _ => ?_) hm
  cases hf : m.feeds[key]? with
  | some f => exact (remove_lacks hf).2
  | none =>
    rw [remove_of_none hf]
    exact hm key hf

/-- The types are found out alike whatever runs. -/
theorem resolve_remove (o : Outside σ) (m : Manager) (key : String) (s : σ) :
    (m.remove key).resolve o s = m.resolve o s := by
  unfold resolve
  rw [pinned_remove]

/-! ## A new feed in the place of the old one -/

theorem isHealthy_iff {f : Feed} :
    f.isHealthy = true ↔ ∀ i ∈ f.informers.values, i.isRunning = true := List.all_eq_true

theorem mayGoOn_iff {f : Feed} {found : Except ControlError (List WatchedType)} :
    mayGoOn f found = true ↔ f.MayStay found := by
  cases found with
  | error e => exact ⟨fun _ _ h => (nomatch h), fun _ => rfl⟩
  | ok types =>
    show (f.isHealthy && GvrSet.ofList (types.map (·.gvr)) == f.watchedSet) = true ↔ _
    rw [Bool.and_eq_true, isHealthy_iff, beq_iff_eq]
    unfold Feed.watchedSet
    rw [GvrSet.ofList_eq_iff]
    constructor
    · rintro ⟨hlive, hset⟩ types' h
      cases h
      exact ⟨hset, hlive⟩
    · intro h
      exact ⟨(h types rfl).2, (h types rfl).1⟩

/-- A feed put into the table is seen there and in the registry. -/
theorem install_runsAnew (o : Outside σ) (m : Manager) (key scope : String) (settings : Settings)
    (types : List WatchedType) (s : σ) :
    RunsAnew o m ((m.remove key).install key
      (Feed.start o m.options scope settings types m.clock s).1) key scope settings types s
      (Feed.start o m.options scope settings types m.clock s).2 := by
  set f := (Feed.start o m.options scope settings types m.clock s).1 with hf
  have hserves : f.Serves scope settings types :=
    Feed.start_serves o m.options scope settings types m.clock s
  have hfeed : ((m.remove key).install key f).feeds[key]? = some f :=
    (KeyedMap.getElem?_insert_eq _ _ _ _).trans (if_pos rfl)
  have hentry : ((m.remove key).install key f).registry[key]? =
      some ⟨f.informers.size, true, none⟩ :=
    (KeyedMap.getElem?_insert_eq _ _ _ _).trans (if_pos rfl)
  have hwatched : ((m.remove key).install key f).watched key = f.watched := by
    unfold watched
    rw [hfeed]
    rfl
  refine ⟨hfeed, rfl, ?_, hwatched.trans hserves.watched, ?_⟩
  · unfold settings?
    rw [hfeed]
    exact congrArg some hserves.settings
  · rw [hentry, hwatched, Feed.length_watched]

/-- What comes of putting a new feed into the place under a key: the old one is gone, and there is a
new one unless an answer from outside is an error. -/
structure Replaced (o : Outside σ) (m : Manager) (key scope : String) (settings : Settings)
    (a : Answers σ) (outcome : StartOutcome) (result : Except ControlError StartOutcome)
    (m' : Manager) (s' : σ) : Prop where
  ends : result = a.outcome outcome
  failed : ∀ e, result = .error e → m' = m.remove key
  ran : ∀ outcome', result = .ok outcome' →
    ∃ types, a.types = .ok types ∧ RunsAnew o m m' key scope settings types a.world s'
  elsewhere : m'.SameElsewhere m key

theorem Replaced.accounts {o : Outside σ} {m m' : Manager} {key scope : String}
    {settings : Settings} {a : Answers σ} {outcome : StartOutcome}
    {result : Except ControlError StartOutcome} {s' : σ}
    (h : Replaced o m key scope settings a outcome result m' s') (hm : m.Accounts) :
    m'.Accounts := by
  cases hresult : result with
  | error e =>
    rw [h.failed e hresult]
    exact remove_accounts key hm
  | ok outcome' =>
    obtain ⟨types, _, hran⟩ := h.ran outcome' hresult
    exact h.elsewhere.accounts (fun hnone => nomatch hran.feed.symm.trans hnone) hm

theorem replace_replaced (o : Outside σ) (m : Manager) (key scope : String) (settings : Settings)
    (a : Answers σ) (outcome : StartOutcome) (s : σ)
    (h : o.makeClient settings s = (a.client, a.world)) :
    Replaced o m key scope settings a outcome
      (m.replace o key scope settings (some a.types) outcome s).1.1
      (m.replace o key scope settings (some a.types) outcome s).1.2
      (m.replace o key scope settings (some a.types) outcome s).2 := by
  have hremove := remove_sameElsewhere m key
  obtain ⟨reached, types, client, world⟩ := a
  unfold replace launch
  dsimp only at h ⊢
  rw [h]
  cases types with
  | error e => exact ⟨rfl, fun _ _ => rfl, fun _ hok => (nomatch hok), hremove⟩
  | ok types =>
    cases client with
    | error e => exact ⟨rfl, fun _ _ => rfl, fun _ hok => (nomatch hok), hremove⟩
    | ok u =>
      refine ⟨rfl, fun _ herr => (nomatch herr), fun _ _ => ⟨types, rfl, ?_⟩,
        (install_sameElsewhere _ _ _).trans hremove⟩
      dsimp only
      rw [options_remove, clock_remove]
      exact install_runsAnew o m key scope settings types world

/-- The types can be found out before the old feed is taken down as well as afterwards. -/
theorem replace_none (o : Outside σ) (m : Manager) (key scope : String) (settings : Settings)
    (outcome : StartOutcome) (s : σ) :
    m.replace o key scope settings none outcome s =
      m.replace o key scope settings (some (m.resolve o s).1) outcome (m.resolve o s).2 := by
  unfold replace
  dsimp only
  rw [resolve_remove]

/-! ## The transition law -/

/-- How a manager gets a feed to run under a key, where `result`, `m'` and `s'` are what comes of
it, by what outside answers and what runs under the key before. -/
structure Ensures (o : Outside σ) (m : Manager) (key scope : String) (settings : Settings)
    (a : Answers σ) (result : Except ControlError StartOutcome) (m' : Manager) (s' : σ) : Prop where
  /-- If the cluster cannot be reached, nothing changes. -/
  unreached : ∀ e, a.reached = .error e → result = .error (.kube e) ∧ m' = m
  /-- A feed with the same settings that may stay as it is does. -/
  kept : a.reached = .ok () → ∀ f, m.feeds[key]? = some f → f.settings = settings →
    f.MayStay a.types → result = .ok .unchanged ∧ m' = m
  /-- Another one with the same settings is replaced. -/
  renewed : a.reached = .ok () → ∀ f, m.feeds[key]? = some f → f.settings = settings →
    ¬ f.MayStay a.types → result = a.outcome .restarted
  /-- One with other settings is replaced. -/
  changed : a.reached = .ok () → ∀ f, m.feeds[key]? = some f → f.settings ≠ settings →
    result = a.outcome .restarted
  /-- Where none runs one is started, or nothing changes. -/
  absent : a.reached = .ok () → m.feeds[key]? = none → result = a.outcome .started ∧
    ∀ e, result = .error e → m' = m ∧ (m.registry[key]? = none → m'.Lacks key)
  /-- If a feed cannot be replaced, the old one is gone without a trace. -/
  lost : a.reached = .ok () → ∀ e, result = .error e → key ∈ m.feeds → m'.Lacks key
  /-- After a start or a restart the new feed runs, with the types that were found. -/
  ran : ∀ outcome, result = .ok outcome → outcome ≠ .unchanged →
    ∃ types, a.types = .ok types ∧ RunsAnew o m m' key scope settings types a.world s'
  /-- Nothing is done to the other keys. -/
  elsewhere : m'.SameElsewhere m key
  /-- What does not run is not reported, if it was not before. -/
  accounts : m.Accounts → m'.Accounts

section Law

variable {o : Outside σ} {m m' : Manager} {key scope : String} {settings : Settings}
  {a : Answers σ} {result : Except ControlError StartOutcome} {s' : σ} {f : Feed}

theorem ensures_of_unreached {e : Failure} (h : a.reached = .error e) :
    Ensures o m key scope settings a (.error (.kube e)) m s' := by
  have hno : a.reached ≠ .ok () := by rw [h]; exact nofun
  exact
    { unreached := fun e' he' => by cases h.symm.trans he'; exact ⟨rfl, rfl⟩
      kept := fun h => absurd h hno
      renewed := fun h => absurd h hno
      changed := fun h => absurd h hno
      absent := fun h => absurd h hno
      lost := fun h => absurd h hno
      ran := fun _ h => nomatch h
      elsewhere := .refl m key
      accounts := id }

theorem ensures_of_kept (h : a.reached = .ok ()) (hf : m.feeds[key]? = some f)
    (hsettings : f.settings = settings) (hstay : f.MayStay a.types) :
    Ensures o m key scope settings a (.ok .unchanged) m s' where
  unreached e he := nomatch h.symm.trans he
  kept _ _ _ _ _ := ⟨rfl, rfl⟩
  renewed _ f' hf' _ hgo := by
    cases hf.symm.trans hf'
    exact absurd hstay hgo
  changed _ f' hf' hother := by
    cases hf.symm.trans hf'
    exact absurd hsettings hother
  absent _ hnone := nomatch hf.symm.trans hnone
  lost _ _ he := nomatch he
  ran _ hok hne := absurd (Except.ok.inj hok).symm hne
  elsewhere := .refl m key
  accounts := id

theorem ensures_of_started (h : a.reached = .ok ()) (hnone : m.feeds[key]? = none)
    (hr : Replaced o m key scope settings a .started result m' s') :
    Ensures o m key scope settings a result m' s' where
  unreached e he := nomatch h.symm.trans he
  kept _ _ hf := nomatch hnone.symm.trans hf
  renewed _ _ hf := nomatch hnone.symm.trans hf
  changed _ _ hf := nomatch hnone.symm.trans hf
  absent _ _ := by
    refine ⟨hr.ends, fun e he => ?_⟩
    rw [hr.failed e he, remove_of_none hnone]
    exact ⟨rfl, fun hentry => ⟨hnone, hentry⟩⟩
  lost _ _ _ hmem := absurd hmem ((getElem?_eq_none_iff _ _).mp hnone)
  ran outcome hok _ := hr.ran outcome hok
  elsewhere := hr.elsewhere
  accounts := hr.accounts

theorem ensures_of_restarted (h : a.reached = .ok ()) (hf : m.feeds[key]? = some f)
    (hgo : ¬ (f.settings = settings ∧ f.MayStay a.types))
    (hr : Replaced o m key scope settings a .restarted result m' s') :
    Ensures o m key scope settings a result m' s' where
  unreached e he := nomatch h.symm.trans he
  kept _ f' hf' hsettings hstay := by
    cases hf.symm.trans hf'
    exact absurd ⟨hsettings, hstay⟩ hgo
  renewed _ _ _ _ _ := hr.ends
  changed _ _ _ _ := hr.ends
  absent _ hnone := nomatch hf.symm.trans hnone
  lost _ e he _ := by
    rw [hr.failed e he]
    exact remove_lacks hf
  ran outcome hok _ := hr.ran outcome hok
  elsewhere := hr.elsewhere
  accounts := hr.accounts

end Law

/-- The transition law: whatever the manager and whatever outside answers, having a feed run does
what is laid down. -/
theorem ensure_ensures (o : Outside σ) (m : Manager) (key scope : String) (settings : Settings)
    (s : σ) :
    Ensures o m key scope settings (m.answers o settings s)
      (m.ensure o key scope settings s).1.1 (m.ensure o key scope settings s).1.2
      (m.ensure o key scope settings s).2 := by
  set a := m.answers o settings s with ha
  obtain ⟨⟨reached, s₁⟩, hconnect⟩ : ∃ r, o.connect s = r := ⟨_, rfl⟩
  have hreached : a.reached = reached := by rw [ha]; unfold answers; rw [hconnect]
  have htypes : m.resolve o s₁ = (a.types, (m.resolve o s₁).2) := by
    rw [ha]; unfold answers; rw [hconnect]
  have hclient : o.makeClient settings (m.resolve o s₁).2 = (a.client, a.world) := by
    rw [ha]; unfold answers; rw [hconnect]
  have hreplaced := fun outcome =>
    replace_replaced o m key scope settings a outcome (m.resolve o s₁).2 hclient
  unfold ensure
  rw [hconnect]
  cases reached with
  | error e => exact ensures_of_unreached hreached
  | ok u =>
    cases hfeed : m.feeds[key]? with
    | none =>
      dsimp only
      rw [replace_none, htypes]
      exact ensures_of_started hreached hfeed (hreplaced .started)
    | some f =>
      dsimp only
      rw [replace_none, htypes]
      dsimp only
      split
      · rename_i hsettings
        split
        · rename_i hstay
          exact ensures_of_kept hreached hfeed hsettings (mayGoOn_iff.mp hstay)
        · rename_i hstay
          exact ensures_of_restarted hreached hfeed (fun h => hstay (mayGoOn_iff.mpr h.2))
            (hreplaced .restarted)
      · rename_i hsettings
        exact ensures_of_restarted hreached hfeed (fun h => hsettings h.1)
          (hreplaced .restarted)

end Manager

end ClusterFeed.Control
