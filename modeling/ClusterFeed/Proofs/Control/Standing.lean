import ClusterFeed.Proofs.Control.Ensuring

/-!
# Feeds come and go by `ensure`, `stop` and `shutdown` alone

Whatever else a manager does, `resync`, the lines of a watch, an informer that goes on or time that
passes, leaves the same feeds under the same keys, and enters no feed into the registry. Hence what
does not run is never reported.
-/

namespace ClusterFeed.Control

variable {σ : Type}

theorem Registry.getElem?_recordResync_of_none {r : Registry} {k : String} (h : r[k]? = none)
    (key : String) (n : Nat) (now : Time.Instant) : (r.recordResync key n now)[k]? = none := by
  unfold recordResync
  split
  · rename_i e he
    refine (KeyedMap.getElem?_insert_eq r key k _).trans ?_
    split
    · rename_i hkey
      rw [hkey, h] at he
      cases he
    · exact h
  · exact h

namespace Manager

/-- Under the same keys feeds run, and none is reported that was not before. -/
structure SameKeys (m' m : Manager) : Prop where
  feeds : ∀ key : String, key ∈ m'.feeds ↔ key ∈ m.feeds
  registry : ∀ key : String, m.registry[key]? = none → m'.registry[key]? = none

variable {m m' m'' : Manager}

theorem SameKeys.refl (m : Manager) : m.SameKeys m := ⟨fun _ => Iff.rfl, fun _ => id⟩

theorem SameKeys.trans (h : m''.SameKeys m') (h' : m'.SameKeys m) : m''.SameKeys m :=
  ⟨fun key => (h.feeds key).trans (h'.feeds key),
    fun key hkey => h.registry key (h'.registry key hkey)⟩

theorem SameKeys.accounts (h : m'.SameKeys m) (hm : m.Accounts) : m'.Accounts := by
  intro key hkey
  refine h.registry key (hm key ?_)
  rw [getElem?_eq_none_iff] at hkey ⊢
  rwa [← h.feeds key]

/-- A feed is put back into its own place. -/
theorem SameKeys.insert (h : m'.SameKeys m) {key : String} {f : Feed} (hkey : key ∈ m.feeds)
    (hfeeds : m''.feeds = m'.feeds.insert key f) (hregistry : m''.registry = m'.registry) :
    m''.SameKeys m := by
  refine ⟨fun k => ?_, fun k hk => hregistry ▸ h.registry k hk⟩
  rw [hfeeds, Std.ExtTreeMap.mem_insert, h.feeds k]
  constructor
  · rintro (hk | hk)
    · rwa [← Std.LawfulEqCmp.compare_eq_iff_eq.mp hk]
    · exact hk
  · exact .inr

/-- A resync is noted only where there is an entry. -/
theorem SameKeys.record (h : m'.SameKeys m) (key : String) (n : Nat) (now : Time.Instant) :
    { m' with registry := m'.registry.recordResync key n now }.SameKeys m :=
  ⟨h.feeds, fun k hk => Registry.getElem?_recordResync_of_none (h.registry k hk) key n now⟩

theorem mem_of_mem_toList {e : String × Feed} (h : e ∈ m.feeds.toList) : e.1 ∈ m.feeds :=
  (Std.ExtTreeMap.getElem?_eq_some_iff.mp (Std.ExtTreeMap.mem_toList_iff_getElem?_eq_some.mp h)).1

theorem resync_sameKeys (o : Outside σ) (m : Manager) (key : String) (s : σ) :
    (m.resync o key s).1.2.SameKeys m := by
  unfold resync
  split
  · exact .refl m
  · split
    · exact .refl m
    · dsimp only
      split
      · exact (SameKeys.refl m).record key _ _
      · exact .refl m

theorem notify_sameKeys (o : Outside σ) (path : String) (notices : List Cluster.Notice)
    (m : Manager) (s : σ) : (m.notify o path notices s).1.SameKeys m := by
  refine List.foldlRecOn (motive := fun r : Manager × σ => r.1.SameKeys m) m.feeds.toList _
    (.refl m) ?_
  rintro ⟨m', s'⟩ hm e he
  exact hm.insert (mem_of_mem_toList he) rfl rfl

theorem resume_sameKeys (o : Outside σ) (key : String) (place : Seat) (m : Manager) (s : σ) :
    (m.resume o key place s).1.SameKeys m := by
  unfold resume
  split
  · exact .refl m
  · rename_i f hf
    exact (SameKeys.refl m).insert (Std.ExtTreeMap.getElem?_eq_some_iff.mp hf).1 rfl rfl

theorem mem_of_nextWake? {until_ : Nat} {e : String × Feed} (h : m.nextWake? until_ = some e) :
    e.1 ∈ m.feeds := by
  have hfound : ∀ e, m.nextWake? until_ = some e → e ∈ m.feeds.toList := by
    refine List.foldlRecOn (motive := fun best : Option (String × Feed) =>
      ∀ e, best = some e → e ∈ m.feeds.toList) m.feeds.toList _ (fun e h => ?_) ?_
    · cases h
    · intro best hbest e' he' e he
      split at he
      · exact hbest e he
      · split at he
        · split at he
          · cases he
            exact he'
          · exact hbest e he
        · cases he
          exact he'
  exact mem_of_mem_toList (hfound e h)

theorem wakeOne_sameKeys (o : Outside σ) {e : String × Feed} (he : e.1 ∈ m.feeds) (s : σ) :
    (m.wakeOne o e s).1.SameKeys m := by
  have hwoken : ∀ now f, SameKeys { m with clock := now, feeds := m.feeds.insert e.1 f } m :=
    fun now f => (SameKeys.refl m).insert he rfl rfl
  unfold wakeOne
  dsimp only
  split
  · exact (hwoken _ _).record e.1 _ _
  · exact hwoken _ _

theorem passTime_sameKeys (o : Outside σ) (until_ fuel : Nat) (m : Manager) (s : σ) :
    (passTime o until_ fuel m s).1.SameKeys m := by
  induction fuel generalizing m s with
  | zero => exact .refl m
  | succ fuel ih =>
    unfold passTime
    split
    · exact ⟨fun _ => Iff.rfl, fun _ => id⟩
    · rename_i e he
      exact (ih _ _).trans (wakeOne_sameKeys o (mem_of_nextWake? he) s)

theorem awaitResync_sameKeys (o : Outside σ) (key : String) (fuel : Nat) (m : Manager) (s : σ) :
    (awaitResync? o key fuel m s).2.1.SameKeys m := by
  induction fuel generalizing m s with
  | zero => exact .refl m
  | succ fuel ih =>
    unfold awaitResync?
    split
    · exact .refl m
    · exact .refl m
    · split
      · exact .refl m
      · rename_i e he
        exact (ih _ _).trans (wakeOne_sameKeys o (mem_of_nextWake? he) s)

/-- After `shutdown` nothing runs and nothing is reported. -/
theorem shutdown_accounts {o : Outside σ} {s s' : σ} (h : m.shutdown? o s = some (m', s'))
    (hm : m.Accounts) : m'.Accounts ∧ ∀ key : String, key ∉ m'.feeds := by
  obtain ⟨s'', -, heq⟩ := Option.map_eq_some_iff.mp h
  cases heq
  refine ⟨fun key _ => ?_, fun key => Std.ExtTreeMap.not_mem_empty⟩
  refine (KeyedMap.getElem?_foldl_erase m.feeds.keys m.registry key).trans ?_
  split
  · rfl
  · rename_i hkey
    exact hm key ((getElem?_eq_none_iff _ _).mpr fun hmem =>
      hkey (Std.ExtTreeMap.mem_keys.mpr hmem))

end Manager

end ClusterFeed.Control
