import ClusterFeed.Proofs.Watch.Story
import ClusterFeed.Rehearsal.Pursuit

/-!
# What an informer reports on its way

Whatever an informer meets, a page of a list, a line of a watch, a lost connection or the end of a
rest, it takes in at most one event, and reports what `dispatch` does. So its reports tell the story
of its cache at every moment, over any number of lists and watches, and it makes nothing up: the
objects of the cache are objects that the cluster has told of.
-/

namespace ClusterFeed

open Cluster (Manifest Page Notice Key)
open Watch (Callback)

/-- The objects that a line of a watch tells of. -/
def Cluster.Notice.objects : Notice → List Manifest
  | .applied m => [m]
  | .deleted m => [m]
  | _ => []

namespace Watch

/-- The reports are those of some events, which lead from one cache to the other. Of the objects of
these events something is known. -/
def Leads (P : Manifest → Prop) (cache : Cache) (cs : List Callback) (cache' : Cache) : Prop :=
  ∃ es : List Event, (∀ e ∈ es, ∀ m ∈ e.objects, P m) ∧
    es.foldlM hear? ([], cache) = some (cs, cache')

variable {P : Manifest → Prop} {cache cache' cache'' : Cache} {cs cs' : List Callback}

/-- What was reported before makes no difference to what is reported next. -/
theorem hear?_append (before : List Callback) (s : List Callback × Cache) (e : Event) :
    hear? (before ++ s.1, s.2) e = (hear? s e).map fun r => (before ++ r.1, r.2) := by
  unfold hear?
  cases dispatch? s.2 e with
  | none => rfl
  | some r => exact congrArg (fun cs => some (cs, r.2)) (List.append_assoc before s.1 r.1)

theorem foldlM_hear?_append (before : List Callback) (s : List Callback × Cache)
    (es : List Event) : es.foldlM hear? (before ++ s.1, s.2) =
      (es.foldlM hear? s).map fun r => (before ++ r.1, r.2) := by
  induction es generalizing s with
  | nil => rfl
  | cons e es ih =>
    rw [List.foldlM_cons, List.foldlM_cons, hear?_append]
    cases hear? s e with
    | none => rfl
    | some r => exact ih r

theorem Leads.refl (P : Manifest → Prop) (cache : Cache) : Leads P cache [] cache :=
  ⟨[], fun _ he => absurd he List.not_mem_nil, rfl⟩

theorem Leads.trans (h : Leads P cache cs cache') (h' : Leads P cache' cs' cache'') :
    Leads P cache (cs ++ cs') cache'' := by
  obtain ⟨es, hes, hlead⟩ := h
  obtain ⟨es', hes', hlead'⟩ := h'
  refine ⟨es ++ es', fun e he => (List.mem_append.mp he).elim (hes e) (hes' e), ?_⟩
  refine Runs.append_eq_some_iff.mpr ⟨_, hlead, ?_⟩
  have hmore := foldlM_hear?_append cs ([], cache') es'
  rw [hlead', List.append_nil] at hmore
  exact hmore

theorem leads_of_dispatch {e : Event} (he : ∀ m ∈ e.objects, P m)
    (hd : dispatch? cache e = some (cs, cache')) : Leads P cache cs cache' := by
  refine ⟨[e], fun e' he' => List.mem_singleton.mp he' ▸ he, ?_⟩
  have hhear : hear? ([], cache) e = some (cs, cache') :=
    Option.map_eq_some_iff.mpr ⟨_, hd, rfl⟩
  rw [List.foldlM_cons, hhear]
  rfl

/-- What is found in the cache at the end was there at the beginning, or was told of. -/
theorem Leads.known (h : Leads P cache cs cache') {k : Key} {m : Manifest}
    (hm : cache'[k]? = some m) : cache[k]? = some m ∨ P m := by
  obtain ⟨es, hes, hlead⟩ := h
  refine Runs.induction (motive := fun es s => (∀ e ∈ es, ∀ m ∈ e.objects, P m) →
    ∀ m, s.2[k]? = some m → cache[k]? = some m ∨ P m) (fun _ m => .inl) ?_ hlead hes m hm
  rintro es ⟨told, before⟩ e s' - ih he hes m hm
  obtain ⟨⟨now, after⟩, hd, rfl⟩ := Option.map_eq_some_iff.mp he
  have hold := ih fun e' he' => hes e' (List.mem_append_left _ he')
  have hnew : ∀ m ∈ e.objects, P m := hes e (List.mem_append_right _ List.mem_cons_self)
  rw [getElem?_of_dispatch hd k] at hm
  cases e with
  | applied m' =>
    rw [Event.leaves] at hm
    split at hm
    · cases hm
      exact .inr (hnew m List.mem_cons_self)
    · exact hold m hm
  | deleted m' =>
    rw [Event.leaves] at hm
    split at hm
    · cases hm
    · exact hold m hm
  | restarted ms => exact .inr (hnew m (Itemwise.mem_of_findRev? hm).1)

namespace Informer

variable {i i' : Informer} {cs cs' : List Callback}

/-- The objects of a list that is not at its end are known too. -/
def Listed (P : Manifest → Prop) (i : Informer) : Prop :=
  ∀ before, i.phase = .listing before → ∀ m ∈ before, P m

/-- An informer comes to a later state with these reports. -/
structure Follows (P : Manifest → Prop) (i : Informer) (cs : List Callback) (i' : Informer) :
    Prop where
  leads : Leads P i.cache cs i'.cache
  listed : i'.Listed P

theorem Follows.refl (h : i.Listed P) : i.Follows P [] i := ⟨.refl P i.cache, h⟩

theorem Follows.trans {i'' : Informer} (h : i.Follows P cs i') (h' : i'.Follows P cs' i'') :
    i.Follows P (cs ++ cs') i'' := ⟨h.leads.trans h'.leads, h'.listed⟩

/-- Nothing is reported and the cache stays as it is. -/
theorem follows_phase {next : Phase}
    (hnext : ∀ before, next = .listing before → ∀ m ∈ before, P m) :
    i.Follows P [] { i with phase := next } := ⟨.refl P i.cache, hnext⟩

theorem follows_handle (e : Event) (he : ∀ m ∈ e.objects, P m) {next : Phase}
    (hnext : ∀ before, next ≠ .listing before) :
    i.Follows P (i.handle e next).1 (i.handle e next).2 := by
  unfold handle
  cases hd : dispatch? i.cache e with
  | none => exact follows_phase fun before h => nomatch h
  | some r => exact ⟨leads_of_dispatch he hd, fun before h => absurd h (hnext before)⟩

theorem follows_onPage (h : i.Listed P) {page : Option (Page Manifest)}
    (hpage : ∀ p, page = some p → ∀ m ∈ p.items, P m) :
    i.Follows P (i.onPage page).1 (i.onPage page).2 := by
  unfold onPage
  cases hphase : i.phase with
  | listing before =>
    cases page with
    | none => exact follows_phase fun before h => nomatch h
    | some p =>
      have hall : ∀ m ∈ before ++ p.items, P m := fun m hm =>
        (List.mem_append.mp hm).elim (h before hphase m) (hpage p rfl m)
      dsimp only
      split
      · refine follows_phase fun before' h' => ?_
        cases h'
        exact hall
      · split
        · exact follows_handle (.restarted _) hall fun before => nofun
        · exact follows_phase fun before h => nomatch h
  | _ => exact .refl h

theorem follows_onOpened (h : i.Listed P) (isOpen : Bool) :
    i.Follows P [] (i.onOpened isOpen) := by
  unfold onOpened
  split
  · refine follows_phase fun before h => ?_
    cases isOpen <;> cases h
  · exact .refl h

theorem follows_onClosed (h : i.Listed P) : i.Follows P [] i.onClosed := by
  unfold onClosed
  split
  · exact follows_phase fun before h => nomatch h
  · exact .refl h

theorem follows_onRested (h : i.Listed P) : i.Follows P [] i.onRested := by
  unfold onRested
  split
  · refine follows_phase fun before h => ?_
    cases h
    exact fun m hm => absurd hm List.not_mem_nil
  · exact follows_phase fun before h => nomatch h
  · exact follows_phase fun before h => nomatch h
  · exact .refl h

theorem follows_onNotice (h : i.Listed P) {n : Notice} (hn : ∀ m ∈ n.objects, P m) :
    i.Follows P (i.onNotice n).1 (i.onNotice n).2 := by
  have hrest : ∀ next, i.Follows P (i.rest next).1 (i.rest next).2 := fun next =>
    follows_phase fun before h => nomatch h
  unfold onNotice
  split
  · cases n with
    | applied m =>
      dsimp only
      split
      · exact follows_handle (.applied m) hn fun before => nofun
      · exact hrest .list
    | deleted m =>
      dsimp only
      split
      · exact follows_handle (.deleted m) hn fun before => nofun
      · exact hrest .list
    | bookmark => exact .refl h
    | blank => exact .refl h
    | expired => exact hrest .list
    | trouble => exact hrest .goOn
  · exact .refl h

/-- Whatever lines come, the reports tell what they do to the cache. -/
theorem follows_onNotices (h : i.Listed P) {ns : List Notice}
    (hns : ∀ n ∈ ns, ∀ m ∈ n.objects, P m) :
    i.Follows P (i.onNotices ns).1 (i.onNotices ns).2 := by
  induction ns generalizing i with
  | nil => exact .refl h
  | cons n ns ih =>
    have hfirst := follows_onNotice h (hns n List.mem_cons_self)
    exact hfirst.trans (ih hfirst.listed fun n hn => hns n (List.mem_cons_of_mem _ hn))

/-- In every cluster, an informer that goes on by itself reports what that does to its cache. -/
theorem follows_resume {σ : Type} (c : Cluster.Access σ) (i : Informer) (s : σ) :
    i.Follows (fun _ => True) (i.resume c s).1 (i.resume c s).2.1 := by
  have hlisted : i.Listed fun _ => True := fun _ _ _ _ => trivial
  unfold resume
  split
  · exact follows_onRested hlisted
  · exact follows_onClosed hlisted
  · unfold ask
    split
    · exact follows_onPage hlisted fun _ _ _ _ => trivial
    · exact follows_onOpened hlisted _
    · exact .refl hlisted

end Informer

end Watch

/-! ## Rehearsed watches -/

namespace Rehearsal.Course

open Watch (Informer)

/-- The objects that a rehearsed cluster has to tell of. -/
inductive Offers (c : Course) (m : Manifest) : Prop where
  | listed {r : Cluster.Reply} {p : Page Manifest} (hr : r ∈ c.lists)
    (hp : r.read? (Page.decode Manifest.decode) = .ok p) (hm : m ∈ p.items)
  | told {w : Connection} {n : Notice} (hw : w ∈ c.current :: c.coming) (hn : n ∈ w.notices)
    (hm : m ∈ n.objects)

variable {c c' : Course} {i i' : Informer} {cs : List Callback} {m : Manifest}

/-- There is less to tell of when the lists and the watches have less in them. -/
theorem Offers.mono (h : c'.Offers m) (hlists : c'.lists ⊆ c.lists)
    (hwatches : ∀ w' ∈ c'.current :: c'.coming,
      w'.notices = [] ∨ ∃ w ∈ c.current :: c.coming, w'.notices ⊆ w.notices) : c.Offers m := by
  cases h with
  | listed hr hp hm => exact .listed (hlists hr) hp hm
  | told hw hn hm =>
    rcases hwatches _ hw with hnone | ⟨w, hmem, hsub⟩
    · rw [hnone] at hn
      exact absurd hn List.not_mem_nil
    · exact .told hmem (hsub hn) hm

theorem subset_of_next? {α : Type} {as rest : List α} {a : α} (h : next? as = some (a, rest)) :
    a ∈ as ∧ rest ⊆ as := by
  match as, h with
  | [_], rfl => exact ⟨List.mem_cons_self, List.Subset.refl _⟩
  | _ :: _ :: _, rfl => exact ⟨List.mem_cons_self, List.subset_cons_self _ _⟩

/-- The page that is taken comes from the lists. -/
theorem list_offers (c : Course) : (∀ p, c.list.1 = some p → ∀ m ∈ p.items, c.Offers m) ∧
    ∀ m, c.list.2.Offers m → c.Offers m := by
  unfold list
  cases hnext : next? c.lists with
  | none => exact ⟨fun p hp => (nomatch hp), fun m => id⟩
  | some r =>
    obtain ⟨hmem, hsub⟩ := subset_of_next? hnext
    refine ⟨fun p hp m hm => ?_, fun m h => h.mono hsub fun w hw => .inr ⟨w, hw, fun _ => id⟩⟩
    cases hread : r.1.read? (Page.decode Manifest.decode) with
    | error e =>
      dsimp only at hp
      rw [hread] at hp
      cases hp
    | ok p' =>
      dsimp only at hp
      rw [hread] at hp
      cases hp
      exact .listed hmem hread hm

theorem offers_of_openWatch (h : c.openWatch.Offers m) : c.Offers m := by
  unfold openWatch at h
  split at h
  · rename_i w rest hcoming
    refine h.mono (fun _ => id) fun w' hw => .inr ⟨w', ?_, fun _ => id⟩
    exact List.mem_cons_of_mem _ (hcoming ▸ hw)
  · refine h.mono (fun _ => id) fun w hw => ?_
    rcases List.mem_cons.mp hw with rfl | hw
    · exact .inl rfl
    · exact .inr ⟨w, List.mem_cons_of_mem _ hw, fun _ => id⟩

/-- One step reports what it does to the cache, and leaves no more to tell of. -/
theorem follows_step {P : Manifest → Prop} (hs : c.step? i = some (cs, i', c'))
    (hc : ∀ m, c.Offers m → P m) (hl : i.Listed P) :
    i.Follows P cs i' ∧ ∀ m, c'.Offers m → c.Offers m := by
  unfold step? at hs
  cases hphase : i.phase with
  | ended =>
    rw [hphase] at hs
    cases hs
  | resting next =>
    rw [hphase] at hs
    cases hs
    exact ⟨Informer.follows_onRested hl, fun m => id⟩
  | opening =>
    rw [hphase] at hs
    cases hs
    exact ⟨Informer.follows_onOpened hl true, fun m h => offers_of_openWatch h⟩
  | listing before =>
    rw [hphase] at hs
    cases hs
    obtain ⟨hpage, hless⟩ := c.list_offers
    exact ⟨Informer.follows_onPage hl fun p hp m hm => hc m (hpage p hp m hm), hless⟩
  | watching =>
    rw [hphase] at hs
    dsimp only at hs
    split at hs
    · rename_i n rest hnotices
      cases hs
      have hfirst : n ∈ c.current.notices := hnotices ▸ List.mem_cons_self
      refine ⟨Informer.follows_onNotice hl fun m hm => hc m (.told List.mem_cons_self hfirst hm),
        fun m h => h.mono (fun _ => id) fun w hw => .inr ?_⟩
      rcases List.mem_cons.mp hw with rfl | hw
      · exact ⟨c.current, List.mem_cons_self, hnotices ▸ List.subset_cons_self _ _⟩
      · exact ⟨w, List.mem_cons_of_mem _ hw, fun _ => id⟩
    · split at hs
      · cases hs
        exact ⟨Informer.follows_onClosed hl, fun m => id⟩
      · cases hs

theorem follows_run {P : Manifest → Prop} (fuel : Nat) (hc : ∀ m, c.Offers m → P m)
    (hl : i.Listed P) : i.Follows P (c.run fuel i).1 (c.run fuel i).2.1 := by
  induction fuel generalizing c i with
  | zero => exact .refl hl
  | succ fuel ih =>
    unfold run
    cases hstep : c.step? i with
    | none => exact .refl hl
    | some r =>
      obtain ⟨cs, i', c'⟩ := r
      obtain ⟨hfirst, hless⟩ := follows_step hstep hc hl
      exact hfirst.trans (ih (fun m hm => hc m (hless m hm)) hfirst.listed)

/-- However many lists and watches an informer goes through, its reports give its cache back, and
the cache holds nothing but what the cluster has told of. -/
theorem reports_tell_run (c : Course) (w : WatchedType) (fuel : Nat) :
    let r := c.run fuel (.start w)
    ∃ es, Watch.history? es = some (r.1, r.2.1.cache) ∧
      (∀ e ∈ es, ∀ m ∈ e.objects, c.Offers m) ∧ r.1.foldl Watch.Cache.replay ∅ = r.2.1.cache ∧
      ∀ (k : Key) (m : Manifest), r.2.1.cache[k]? = some m → m.key? = some k ∧ c.Offers m := by
  intro r
  have hbegun : (Informer.start w).Listed c.Offers := fun before hphase => by
    cases hphase
    exact fun m hm => absurd hm List.not_mem_nil
  have hleads := (follows_run fuel (fun m => id) hbegun).leads
  have hknown : ∀ (k : Key) (m : Manifest), r.2.1.cache[k]? = some m → c.Offers m :=
    fun k m hm => (hleads.known hm).elim (fun h => by simp [Informer.start] at h) id
  obtain ⟨es, hes, hhistory⟩ := hleads
  obtain ⟨hreplay, hown⟩ := Watch.replay_of_history hhistory
  exact ⟨es, hhistory, hes, hreplay, fun k m hm => ⟨hown k m hm, hknown k m hm⟩⟩

end Rehearsal.Course

end ClusterFeed
