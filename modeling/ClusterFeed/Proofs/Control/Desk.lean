import ClusterFeed.Proofs.Control.Office

/-!
# What there is about a key

Of each key there is at most one feed that has not been taken down: it is in the table, or in the
hands of the work under the key. The registry has an entry of just this feed, except on the way from
its start until it has been entered. As the task that resyncs a feed ends before the entry of the
feed is taken out of the registry, it never finds the entry of a later one there.

Each of the small steps that an office is made of keeps this.

The work under a key is a call of `ensure_running`, `stop`, `resync` or `shutdown` that is not at
its end.
-/

namespace ClusterFeed.Control

open Sync (SyncError)
open Time (Instant)

/-- Where the feed of a key is. -/
inductive Place where
  /-- In the table, if there is one. -/
  | free
  /-- There is none. -/
  | vacant
  /-- It is in hand. -/
  | held (number : Nat)
  /-- It is in the table. -/
  | seated (number : Nat)

/-- What is in the table when the feed of a key is where it is. -/
def Place.Fits : Place → Option Nat → Prop
  | .free, _ => True
  | .vacant, seat => seat = none
  | .held _, seat => seat = none
  | .seated n, seat => seat = some n

/-- Where the feed of a key is while the types are found out. -/
def Aim.place : Aim → Place
  | .compare _ => .free
  | .launch _ => .vacant

namespace Work

/-- Where the feed of a key is while it is worked on. -/
def place : Work → Place
  | .reaching _ _ => .free
  | .seeking _ aim => aim.place
  | .discovering _ aim => aim.place
  | .taking _ _ => .free
  | .clearing _ _ n => .held n
  | .starting _ _ _ => .vacant
  | .installing _ n => .held n
  | .entering _ n => .seated n
  | .stopping _ n => .held n
  | .telling n _ => .seated n
  | .closing n => .held n
  | .closed => .vacant

/-- Whether the feed of a key is in the registry while it is worked on. -/
def isEntered : Work → Bool
  | .installing _ _ => false
  | .entering _ _ => false
  | _ => true

/-- Only what ran is taken down to be stopped. -/
def Honest : Work → Prop
  | .stopping ran _ => ran = true
  | _ => True

end Work

/-- Whether something was stopped is told as it was. -/
def Answer.Honest : Answer → Prop
  | .stopped _ ran answer => answer = ran
  | _ => True

/-- All there is about one key. -/
structure Desk where
  /-- Where its feed is. -/
  place : Place
  /-- Whether its feed is in the registry. -/
  entered : Bool
  /-- What is in the table. -/
  seat : Option Nat
  /-- What is in the registry. -/
  entry : Option ActiveEntry

/-- The feed of a key that has not been taken down. -/
def Desk.holder (d : Desk) : Option Nat :=
  match d.place with
  | .held n => some n
  | _ => d.seat

namespace Office

/-- All there is about a key. -/
def desk (w : Office) (key : String) : Desk where
  place := (w.work[key]?).elim .free Work.place
  entered := (w.work[key]?).elim true Work.isEntered
  seat := w.table[key]?
  entry := w.registry[key]?

/-- An entry is about a feed: the feed is active, so many types are watched, and the last resync is
one of this feed that was accepted. -/
structure Tells (w : Office) (number : Nat) (f : Feed) (e : ActiveEntry) : Prop where
  active : e.active = true
  watched : e.watched = f.informers.size
  lastResync : ∀ r, e.lastResync = some r →
    ∃ told, (number, told) ∈ w.accepted ∧ r.count = told.length

/-- What is about a key in an office is in order. -/
structure Stands (w : Office) (key : String) (d : Desk) : Prop where
  /-- The table has what it is to have. -/
  placed : d.place.Fits d.seat
  /-- What does not run has no entry. -/
  lacking : d.holder = none → d.entry = none
  /-- What runs was started under this key. -/
  held : ∀ n, d.holder = some n → ∃ t, w.tenures[n]? = some t ∧ t.key = key
  /-- It has its entry, -/
  entry : ∀ n t, d.holder = some n → w.tenures[n]? = some t → d.entered = true →
    ∃ e, d.entry = some e ∧ w.Tells n t.feed e
  /-- or is still to have it. -/
  noEntry : d.entered = false → d.entry = none

/-- The work and the answers are as they are to be. -/
structure Honest (w : Office) : Prop where
  work : ∀ (key : String) s, w.work[key]? = some s → s.Honest
  answers : ∀ a ∈ w.answers, a.Honest

/-- Everything is in order in an office: each key, and no feed has a task after it has been taken
down. -/
structure Sound (w : Office) : Prop where
  stands : ∀ key, w.Stands key (w.desk key)
  live : ∀ n t, w.tenures[n]? = some t → t.task ≠ .ended → (w.desk t.key).holder = some n
  honest : w.Honest

/-! ## What the steps do to a key -/

variable {w w' : Office} {key : String}

theorem desk_of_work {s : Work} (h : w.work[key]? = some s) :
    w.desk key = ⟨s.place, s.isEntered, w.table[key]?, w.registry[key]?⟩ := by
  unfold desk
  rw [h]
  rfl

theorem desk_of_none (h : w.work[key]? = none) :
    w.desk key = ⟨.free, true, w.table[key]?, w.registry[key]?⟩ := by
  unfold desk
  rw [h]
  rfl

theorem desk_proceed (w : Office) (key : String) (s : Work) (k : String) :
    (w.proceed key s).desk k =
      if key = k then { w.desk k with place := s.place, entered := s.isEntered } else w.desk k := by
  unfold desk proceed
  dsimp only
  rw [KeyedMap.getElem?_insert_eq]
  split <;> rfl

theorem desk_finish (w : Office) (key : String) (a : Answer) (k : String) :
    (w.finish key a).desk k =
      if key = k then { w.desk k with place := .free, entered := true } else w.desk k := by
  unfold desk finish
  dsimp only
  rw [KeyedMap.getElem?_erase_eq]
  split <;> rfl

theorem desk_strike (w : Office) (key k : String) :
    (w.strike key).desk k = if key = k then { w.desk k with entry := none } else w.desk k := by
  unfold desk strike Registry.stop
  dsimp only
  rw [KeyedMap.getElem?_erase_eq]
  split <;> rfl

theorem desk_unseat (w : Office) (key k : String) :
    (w.unseat key).desk k = if key = k then { w.desk k with seat := none } else w.desk k := by
  unfold desk unseat
  dsimp only
  rw [KeyedMap.getElem?_erase_eq]
  split <;> rfl

theorem desk_seat (w : Office) (key : String) (n : Nat) (k : String) :
    (w.seat key n).desk k = if key = k then { w.desk k with seat := some n } else w.desk k := by
  unfold desk seat
  dsimp only
  rw [KeyedMap.getElem?_insert_eq]
  split <;> rfl

theorem desk_enter (w : Office) (key : String) (f : Feed) (k : String) :
    (w.enter key f).desk k =
      if key = k then { w.desk k with entry := some ⟨f.informers.size, true, none⟩ }
      else w.desk k := by
  unfold desk enter Registry.start
  dsimp only
  rw [KeyedMap.getElem?_insert_eq]
  split <;> rfl

theorem desk_note (w : Office) (key : String) (n : Nat) (told : List Snapshot) (now : Instant)
    (k : String) :
    (w.note key n told now).desk k =
      if key = k then { w.desk k with
        entry := (w.desk k).entry.map fun e => { e with lastResync := some ⟨now, told.length⟩ } }
      else w.desk k := by
  unfold desk note Registry.recordResync
  dsimp only
  cases he : w.registry[key]? with
  | none =>
    dsimp only
    split
    · rename_i hk
      rw [← hk, he]
      rfl
    · rfl
  | some e =>
    dsimp only
    rw [KeyedMap.getElem?_insert_eq]
    split
    · rename_i hk
      rw [← hk, he]
      rfl
    · rfl

/-! ## What a key may come to -/

variable {d : Desk} {n : Nat}

/-- The feed of a key may go from one place to another, as long as it is found there. -/
theorem Stands.move (h : w.Stands key d) {p : Place} {seat : Option Nat} (hp : p.Fits seat)
    (hholder : Desk.holder { d with place := p, seat } = d.holder) :
    w.Stands key { d with place := p, seat } where
  placed := hp
  lacking hn := h.lacking (hholder ▸ hn)
  held n hn := h.held n (hholder ▸ hn)
  entry n t hn := h.entry n t (hholder ▸ hn)
  noEntry := h.noEntry

/-- A feed without an entry gets one. -/
theorem Stands.enter (h : w.Stands key d) (hn : d.holder = some n) {t : Tenure}
    (ht : w.tenures[n]? = some t) (hp : Place.Fits .free d.seat)
    (hholder : Desk.holder { d with place := .free } = d.holder) :
    w.Stands key ⟨.free, true, d.seat, some ⟨t.feed.informers.size, true, none⟩⟩ where
  placed := hp
  lacking hnone := nomatch hn.symm.trans (hholder.symm.trans hnone)
  held n' hn' := h.held n' (hholder.symm.trans hn')
  entry n' t' hn' ht' _ := by
    cases hn.symm.trans (hholder.symm.trans hn')
    cases ht.symm.trans ht'
    exact ⟨_, rfl, rfl, rfl, nofun⟩
  noEntry := nofun

/-- Accepted resyncs and feeds that are started change nothing about what was in order before. -/
theorem Stands.mono (h : w.Stands key d)
    (htenures : ∀ (n : Nat) t, w.tenures[n]? = some t →
      ∃ t' : Tenure, w'.tenures[n]? = some t' ∧ t'.key = t.key ∧ t'.feed.Succeeds t.feed)
    (haccepted : ∀ a ∈ w.accepted, a ∈ w'.accepted) : w'.Stands key d where
  placed := h.placed
  lacking := h.lacking
  held n hn := by
    obtain ⟨t, ht, hkey⟩ := h.held n hn
    obtain ⟨t', ht', hkey', _⟩ := htenures n t ht
    exact ⟨t', ht', hkey'.trans hkey⟩
  entry n t' hn ht' hentered := by
    obtain ⟨t, ht, _⟩ := h.held n hn
    obtain ⟨t'', ht'', _, hsucceeds⟩ := htenures n t ht
    cases ht'.symm.trans ht''
    obtain ⟨e, he, htells⟩ := h.entry n t hn ht hentered
    refine ⟨e, he, htells.active, htells.watched.trans hsucceeds.size.symm, fun r hr => ?_⟩
    obtain ⟨told, htold, hcount⟩ := htells.lastResync r hr
    exact ⟨told, haccepted _ htold, hcount⟩
  noEntry := h.noEntry

/-- A resync of the feed of a key is noted. -/
theorem Stands.note (h : w.Stands key d) (hn : d.holder = some n) (told : List Snapshot)
    (now : Instant) (htenures : w'.tenures = w.tenures)
    (haccepted : w'.accepted = w.accepted ++ [(n, told)]) :
    w'.Stands key { d with
      entry := d.entry.map fun e => { e with lastResync := some ⟨now, told.length⟩ } } where
  placed := h.placed
  lacking hnone := nomatch hn.symm.trans hnone
  held n' hn' := by
    rw [htenures]
    exact h.held n' hn'
  entry n' t hn' ht hentered := by
    cases hn.symm.trans hn'
    rw [htenures] at ht
    obtain ⟨e, he, htells⟩ := h.entry n t hn ht hentered
    refine ⟨_, congrArg (Option.map _) he, htells.active, htells.watched, fun r hr => ?_⟩
    cases hr
    rw [haccepted]
    exact ⟨told, List.mem_append_right _ List.mem_cons_self, rfl⟩
  noEntry hentered := congrArg (Option.map _) (h.noEntry hentered)

/-! ## Steps that keep everything in order -/

theorem Honest.same (h : w.Honest) (hwork : w'.work = w.work)
    (hanswers : w'.answers = w.answers) : w'.Honest :=
  ⟨hwork ▸ h.work, hanswers ▸ h.answers⟩

theorem Honest.proceed (h : w.Honest) {s : Work} (hs : s.Honest) : (w.proceed key s).Honest where
  work k s' hs' := by
    have hinsert : (w.proceed key s).work[k]? = if key = k then some s else w.work[k]? :=
      KeyedMap.getElem?_insert_eq _ _ _ _
    rw [hinsert] at hs'
    split at hs'
    · cases hs'
      exact hs
    · exact h.work k s' hs'
  answers := h.answers

theorem Honest.finish (h : w.Honest) {a : Answer} (ha : a.Honest) : (w.finish key a).Honest where
  work k s hs := by
    have herase : (w.finish key a).work[k]? = if key = k then none else w.work[k]? :=
      KeyedMap.getElem?_erase_eq _ _ _
    rw [herase] at hs
    split at hs
    · exact nomatch hs
    · exact h.work k s hs
  answers b hb := by
    rcases List.mem_append.mp hb with hb | hb
    · exact h.answers b hb
    · rwa [List.mem_singleton.mp hb]

/-- It is enough to look at the key that a step is about, if nothing else changes. -/
theorem Sound.of_desk (h : w.Sound) (key : String) (htenures : w'.tenures = w.tenures)
    (haccepted : w'.accepted = w.accepted) (hothers : ∀ k, key ≠ k → w'.desk k = w.desk k)
    (hstands : w.Stands key (w'.desk key))
    (hholder : ∀ n, (w.desk key).holder = some n → w.isOver n = false →
      (w'.desk key).holder = some n)
    (hhonest : w'.Honest) : w'.Sound where
  stands k := by
    have hmono : ∀ d, w.Stands k d → w'.Stands k d := fun d hd =>
      hd.mono (fun n t ht => ⟨t, htenures ▸ ht, rfl, .refl _⟩) (fun a ha => haccepted ▸ ha)
    by_cases hk : key = k
    · rw [← hk] at hmono ⊢
      exact hmono _ hstands
    · rw [hothers k hk]
      exact hmono _ (h.stands k)
  live n t ht htask := by
    rw [htenures] at ht
    have hlive := h.live n t ht htask
    by_cases hk : key = t.key
    · rw [← hk] at hlive ⊢
      refine hholder n hlive ?_
      unfold isOver
      rw [ht]
      exact decide_eq_false htask
    · rw [hothers _ hk]
      exact hlive
  honest := hhonest

/-- The work goes on, and the feed stays where it is. -/
theorem Sound.proceed (h : w.Sound) {s : Work}
    (hfits : s.place.Fits (w.desk key).seat)
    (hholder : Desk.holder { w.desk key with place := s.place } = (w.desk key).holder)
    (hentered : s.isEntered = (w.desk key).entered) (hs : s.Honest) : (w.proceed key s).Sound := by
  refine h.of_desk key rfl rfl (fun k hk => ?_) ?_ (fun n hn _ => ?_) (h.honest.proceed hs)
  · rw [desk_proceed, if_neg hk]
  · rw [desk_proceed, if_pos rfl, hentered]
    exact (h.stands key).move hfits hholder
  · rw [desk_proceed, if_pos rfl]
    exact hholder.trans hn

/-- The work is done, and the feed stays where it is. -/
theorem Sound.finish (h : w.Sound) {a : Answer}
    (hholder : Desk.holder { w.desk key with place := .free } = (w.desk key).holder)
    (hentered : (w.desk key).entered = true) (ha : a.Honest) : (w.finish key a).Sound := by
  refine h.of_desk key rfl rfl (fun k hk => ?_) ?_ (fun n hn _ => ?_) (h.honest.finish ha)
  · rw [desk_finish, if_neg hk]
  · rw [desk_finish, if_pos rfl, ← hentered]
    exact (h.stands key).move trivial hholder
  · rw [desk_finish, if_pos rfl]
    exact hholder.trans hn

/-- What is in the table is taken in hand. -/
theorem Sound.take (h : w.Sound) (hd : (w.desk key).place = .free)
    (hentered : (w.desk key).entered = true) (hn : w.table[key]? = some n) {s : Work}
    (hplace : s.place = .held n) (hs : s.isEntered = true) (hhonest : s.Honest) :
    ((w.unseat key).proceed key s).Sound := by
  have hseat : (w.desk key).holder = some n := by
    unfold Desk.holder
    rw [hd]
    exact hn
  have hself : ((w.unseat key).proceed key s).desk key =
      { w.desk key with place := .held n, seat := none } := by
    rw [desk_proceed, if_pos rfl, desk_unseat, if_pos rfl, hplace, hs, ← hentered]
  refine h.of_desk key rfl rfl (fun k hk => ?_) ?_ (fun n' hn' _ => ?_)
    (Honest.proceed (h.honest.same rfl rfl : (w.unseat key).Honest) hhonest)
  · rw [desk_proceed, if_neg hk, desk_unseat, if_neg hk]
  · rw [hself]
    exact (h.stands key).move rfl hseat.symm
  · rw [hself]
    exact hseat.symm.trans hn'

/-- What is in hand is put into the table. -/
theorem Sound.seat (h : w.Sound) (hd : (w.desk key).place = .held n) {s : Work}
    (hplace : s.place = .seated n) (hs : s.isEntered = (w.desk key).entered)
    (hhonest : s.Honest) : ((w.seat key n).proceed key s).Sound := by
  have hheld : (w.desk key).holder = some n := by
    unfold Desk.holder
    rw [hd]
  have hself : ((w.seat key n).proceed key s).desk key =
      { w.desk key with place := .seated n, seat := some n } := by
    rw [desk_proceed, if_pos rfl, desk_seat, if_pos rfl, hplace, hs]
  refine h.of_desk key rfl rfl (fun k hk => ?_) ?_ (fun n' hn' _ => ?_)
    (Honest.proceed (h.honest.same rfl rfl : (w.seat key n).Honest) hhonest)
  · rw [desk_proceed, if_neg hk, desk_seat, if_neg hk]
  · rw [hself]
    exact (h.stands key).move rfl hheld.symm
  · rw [hself]
    exact hheld.symm.trans hn'

/-- What is in the table is entered into the registry. -/
theorem Sound.enter (h : w.Sound) (hd : (w.desk key).place = .seated n) {t : Tenure}
    (ht : w.tenures[n]? = some t) {a : Answer} (ha : a.Honest) :
    ((w.enter key t.feed).finish key a).Sound := by
  have hseat : (w.desk key).seat = some n := by
    have := (h.stands key).placed
    rwa [hd] at this
  have hholder : (w.desk key).holder = some n := by
    unfold Desk.holder
    rw [hd]
    exact hseat
  have hself : ((w.enter key t.feed).finish key a).desk key =
      ⟨.free, true, (w.desk key).seat, some ⟨t.feed.informers.size, true, none⟩⟩ := by
    rw [desk_finish, if_pos rfl, desk_enter, if_pos rfl]
  refine h.of_desk key rfl rfl (fun k hk => ?_) ?_ (fun n' hn' _ => ?_)
    (Honest.finish (h.honest.same rfl rfl : (w.enter key t.feed).Honest) ha)
  · rw [desk_finish, if_neg hk, desk_enter, if_neg hk]
  · rw [hself]
    exact (h.stands key).enter hholder ht trivial (hseat.trans hholder.symm)
  · rw [hself]
    exact hseat.trans (hholder.symm.trans hn')

/-! ## Keys under which nothing runs -/

/-- Nothing runs under a key and nothing is reported, and all else is in order. -/
structure Bare (w : Office) (key : String) : Prop where
  stands : ∀ k, key ≠ k → w.Stands k (w.desk k)
  seat : w.table[key]? = none
  entry : w.registry[key]? = none
  live : ∀ n t, w.tenures[n]? = some t → t.task ≠ .ended →
    key ≠ t.key ∧ (w.desk t.key).holder = some n
  honest : w.Honest

/-- Where nothing runs and nothing is reported, everything is in order. -/
theorem stands_of_gone {d : Desk} (hp : d.place = .free ∨ d.place = .vacant)
    (hseat : d.seat = none) (hentry : d.entry = none) : w.Stands key d := by
  have hnone : d.holder = none := by
    unfold Desk.holder
    rcases hp with hp | hp <;> rw [hp] <;> exact hseat
  exact
    { placed := by rcases hp with hp | hp <;> rw [hp] <;> trivial
      lacking := fun _ => hentry
      held := fun n h => nomatch hnone.symm.trans h
      entry := fun n _ h => nomatch hnone.symm.trans h
      noEntry := fun _ => hentry }

/-- Whatever comes next under the key, as long as nothing runs there. -/
theorem Bare.sound (h : w.Bare key) (htenures : w'.tenures = w.tenures)
    (haccepted : w'.accepted = w.accepted) (hothers : ∀ k, key ≠ k → w'.desk k = w.desk k)
    (hp : (w'.desk key).place = .free ∨ (w'.desk key).place = .vacant)
    (hseat : (w'.desk key).seat = none) (hentry : (w'.desk key).entry = none)
    (hhonest : w'.Honest) : w'.Sound where
  stands k := by
    by_cases hk : key = k
    · rw [← hk]
      exact stands_of_gone hp hseat hentry
    · rw [hothers k hk]
      exact (h.stands k hk).mono (fun n t ht => ⟨t, htenures ▸ ht, rfl, .refl _⟩)
        (fun a ha => haccepted ▸ ha)
  live n t ht htask := by
    rw [htenures] at ht
    obtain ⟨hk, hlive⟩ := h.live n t ht htask
    rw [hothers _ hk]
    exact hlive
  honest := hhonest

theorem Bare.proceed (h : w.Bare key) {s : Work} (hs : s.place = .vacant) (hhonest : s.Honest) :
    (w.proceed key s).Sound := by
  have hself : (w.proceed key s).desk key =
      { w.desk key with place := s.place, entered := s.isEntered } := by
    rw [desk_proceed, if_pos rfl]
  refine h.sound rfl rfl (fun k hk => ?_) ?_ ?_ ?_ (h.honest.proceed hhonest)
  · rw [desk_proceed, if_neg hk]
  · rw [hself]
    exact .inr hs
  · rw [hself]
    exact h.seat
  · rw [hself]
    exact h.entry

theorem Bare.finish (h : w.Bare key) {a : Answer} (ha : a.Honest) : (w.finish key a).Sound := by
  have hself : (w.finish key a).desk key =
      { w.desk key with place := .free, entered := true } := by
    rw [desk_finish, if_pos rfl]
  refine h.sound rfl rfl (fun k hk => ?_) ?_ ?_ ?_ (h.honest.finish ha)
  · rw [desk_finish, if_neg hk]
  · rw [hself]
    exact .inl rfl
  · rw [hself]
    exact h.seat
  · rw [hself]
    exact h.entry

/-- Nothing runs under a key without a feed. -/
theorem Sound.bare (h : w.Sound) (hp : (w.desk key).place = .free ∨ (w.desk key).place = .vacant)
    (hseat : w.table[key]? = none) : w.Bare key := by
  have hnone : (w.desk key).holder = none := by
    unfold Desk.holder
    rcases hp with hp | hp <;> rw [hp] <;> exact hseat
  exact
    { stands := fun k _ => h.stands k
      seat := hseat
      entry := (h.stands key).lacking hnone
      live := fun n t ht htask => by
        have hlive := h.live n t ht htask
        refine ⟨fun hk => ?_, hlive⟩
        rw [← hk, hnone] at hlive
        exact nomatch hlive
      honest := h.honest }

/-- Nothing runs under a key any longer when the task of its feed has ended and its entry is taken
out. -/
theorem Sound.strike (h : w.Sound) (hd : (w.desk key).place = .held n)
    (hover : w.isOver n = true) : (w.strike key).Bare key := by
  have hheld : (w.desk key).holder = some n := by
    unfold Desk.holder
    rw [hd]
  have hothers : ∀ k, key ≠ k → (w.strike key).desk k = w.desk k := fun k hk => by
    rw [desk_strike, if_neg hk]
  exact
    { stands := fun k hk => by
        rw [hothers k hk]
        exact (h.stands k).mono (fun n t ht => ⟨t, ht, rfl, .refl _⟩) fun _ ha => ha
      seat := by
        have := (h.stands key).placed
        rw [hd] at this
        exact this
      entry := (KeyedMap.getElem?_erase_eq _ _ _).trans (if_pos rfl)
      live := fun n' t ht htask => by
        have hlive := h.live n' t ht htask
        have hk : key ≠ t.key := by
          intro hk
          rw [← hk, hheld] at hlive
          cases hlive
          have hnot : w.isOver n = false := by
            unfold isOver
            rw [show w.tenures[n]? = some t from ht]
            exact decide_eq_false htask
          rw [hover] at hnot
          exact nomatch hnot
        refine ⟨hk, ?_⟩
        rw [hothers _ hk]
        exact hlive
      honest := h.honest.same rfl rfl }

/-- A feed is started where none runs. -/
theorem Bare.launch (h : w.Bare key) (f : Feed) (outcome : StartOutcome) :
    ((w.appoint key f).proceed key (.installing outcome w.tenures.length)).Sound := by
  set w' := (w.appoint key f).proceed key (.installing outcome w.tenures.length) with hw'
  have hself : w'.desk key = ⟨.held w.tenures.length, false, none, none⟩ := by
    rw [hw', desk_proceed, if_pos rfl]
    show (⟨_, _, w.table[key]?, w.registry[key]?⟩ : Desk) = _
    rw [h.seat, h.entry]
    rfl
  have hothers : ∀ k, key ≠ k → w'.desk k = w.desk k := fun k hk => by
    rw [hw', desk_proceed, if_neg hk]
    rfl
  have hnew : w'.tenures[w.tenures.length]? = some ⟨key, f, .resting⟩ := List.getElem?_concat_length
  have hold : ∀ (n : Nat) t, w.tenures[n]? = some t → w'.tenures[n]? = some t :=
    fun n t ht => Itemwise.getElem?_append_of_some ht _
  exact
    { stands := fun k => by
        by_cases hk : key = k
        · rw [← hk, hself]
          exact
            { placed := rfl
              lacking := nofun
              held := fun n hn => by
                cases hn
                exact ⟨_, hnew, rfl⟩
              entry := nofun
              noEntry := fun _ => rfl }
        · rw [hothers k hk]
          exact (h.stands k hk).mono (fun n t ht => ⟨t, hold n t ht, rfl, .refl _⟩) fun _ ha => ha
      live := fun n t ht htask => by
        by_cases hn : n = w.tenures.length
        · rw [hn] at ht
          cases hnew.symm.trans ht
          rw [hself, hn]
          rfl
        · have ht' : w.tenures[n]? = some t := by
            have hlt : n < (w.tenures ++ [(⟨key, f, .resting⟩ : Tenure)]).length :=
              (List.getElem?_eq_some_iff.mp ht).1
            rw [List.length_append, List.length_singleton] at hlt
            have hleft : (w.tenures ++ [(⟨key, f, .resting⟩ : Tenure)])[n]? = w.tenures[n]? :=
              List.getElem?_append_left (by omega)
            exact hleft.symm.trans ht
          obtain ⟨hk, hlive⟩ := h.live n t ht' htask
          rw [hothers _ hk]
          exact hlive
      honest := Honest.proceed (h.honest.same rfl rfl : (w.appoint key f).Honest) trivial }

/-! ## Feeds and their tasks -/

/-- A feed goes on, and so does its task, which never begins again. -/
theorem Sound.set (h : w.Sound) {t t' : Tenure} (ht : w.tenures[n]? = some t)
    (hkey : t'.key = t.key) (hfeed : t'.feed.Succeeds t.feed)
    (htask : t'.task ≠ .ended → t.task ≠ .ended) :
    Sound { w with tenures := w.tenures.set n t' } where
  stands k := by
    refine (h.stands k).mono (fun n' u hu => ?_) fun _ ha => ha
    show ∃ u', (w.tenures.set n t')[n']? = some u' ∧ _
    by_cases hn : n = n'
    · subst hn
      cases ht.symm.trans hu
      exact ⟨t', List.getElem?_set_self (List.getElem?_eq_some_iff.mp ht).1, hkey, hfeed⟩
    · exact ⟨u, (List.getElem?_set_ne hn).trans hu, rfl, .refl _⟩
  live n' u hu hlive := by
    replace hu : (w.tenures.set n t')[n']? = some u := hu
    by_cases hn : n = n'
    · subst hn
      rw [List.getElem?_set_self (List.getElem?_eq_some_iff.mp ht).1] at hu
      cases hu
      rw [hkey]
      exact h.live n t ht (htask hlive)
    · rw [List.getElem?_set_ne hn] at hu
      exact h.live n' u hu hlive
  honest := h.honest.same rfl rfl

/-- A resync of the feed of a key is noted. -/
theorem Sound.note (h : w.Sound) (hn : (w.desk key).holder = some n) (told : List Snapshot)
    (now : Instant) : (w.note key n told now).Sound where
  stands k := by
    rw [desk_note]
    split
    · rename_i hk
      rw [← hk]
      exact (h.stands key).note hn told now rfl rfl
    · exact (h.stands k).mono (fun n t ht => ⟨t, ht, rfl, .refl _⟩)
        fun _ ha => List.mem_append_left _ ha
  live n' t ht htask := by
    have hlive := h.live n' t ht htask
    rw [desk_note]
    split <;> exact hlive
  honest := h.honest.same rfl rfl

/-- The task of a feed hears from the index. -/
theorem Sound.onTold (h : w.Sound) {t : Tenure} (ht : w.tenures[n]? = some t)
    {told : List Snapshot} (htask : t.task = .telling told)
    (answer : Except SyncError Sync.Response) (now : Instant) :
    (w.onTold n t told answer now).Sound := by
  have hlive : t.task ≠ .ended := by rw [htask]; exact nofun
  have hset : ∀ task, (w.setTask n t task).Sound := fun task =>
    h.set ht rfl (.refl _) fun _ => hlive
  unfold Office.onTold
  split
  · exact (h.note (h.live n t ht hlive) told now).set ht rfl (.refl _) fun _ => hlive
  · exact hset _
  · exact hset _

/-! ## Everything stops -/

theorem desk_onShutdown (w : Office) (k : String) :
    w.onShutdown.desk k = match w.table[k]? with
      | some n => { w.desk k with place := .held n, entered := true, seat := none }
      | none => w.desk k := by
  have hwork : w.onShutdown.work[k]? = (w.table[k]?.map Work.closing).or w.work[k]? :=
    KeyedMap.getElem?_foldl_toList _ _ _ _
  have htable : w.onShutdown.table[k]? = none := Std.ExtTreeMap.getElem?_empty
  unfold desk
  rw [hwork, htable]
  cases w.table[k]? with
  | some n => rfl
  | none => rfl

theorem Sound.onShutdown (h : w.Sound) (hidle : ¬ ∃ key ∈ w.table.keys, key ∈ w.work) :
    w.onShutdown.Sound := by
  have hdesk : ∀ k n, w.table[k]? = some n → w.desk k = ⟨.free, true, some n, w.registry[k]?⟩ := by
    intro k n hn
    have hkey : k ∈ w.table.keys :=
      Std.ExtTreeMap.mem_keys.mpr (Std.ExtTreeMap.getElem?_eq_some_iff.mp hn).1
    have hnone : w.work[k]? = none :=
      (getElem?_eq_none_iff _ _).mpr fun hwork => hidle ⟨k, hkey, hwork⟩
    rw [desk_of_none hnone, hn]
  have hholder : ∀ k n, (w.desk k).holder = some n → (w.onShutdown.desk k).holder = some n := by
    intro k n hn
    rw [desk_onShutdown]
    cases hk : w.table[k]? with
    | none => exact hn
    | some n' =>
      rw [hdesk k n' hk] at hn
      exact hn
  exact
    { stands := fun k => by
        have hmono : ∀ d, w.Stands k d → w.onShutdown.Stands k d := fun d hd =>
          hd.mono (fun n t ht => ⟨t, ht, rfl, .refl _⟩) fun _ ha => ha
        rw [desk_onShutdown]
        have hstands := h.stands k
        cases hk : w.table[k]? with
        | none => exact hmono _ hstands
        | some n =>
          rw [hdesk k n hk] at hstands ⊢
          exact hmono _ (hstands.move rfl rfl)
      live := fun n t ht htask => hholder _ n (h.live n t ht htask)
      honest :=
        { work := fun k s hs => by
            have hwork : w.onShutdown.work[k]? = (w.table[k]?.map Work.closing).or w.work[k]? :=
              KeyedMap.getElem?_foldl_toList _ _ _ _
            rw [hwork] at hs
            cases hk : w.table[k]? with
            | none =>
              rw [hk] at hs
              exact h.honest.work k s hs
            | some n =>
              rw [hk] at hs
              cases hs
              trivial
          answers := h.honest.answers } }

theorem work_of_isClosed (h : w.isClosed key = true) : w.work[key]? = some .closed := by
  unfold isClosed at h
  split at h
  · assumption
  · exact nomatch h

/-- What has been taken down together with all others is gone. -/
theorem Sound.gone (h : w.Sound) (hclosed : w.isClosed key = true) :
    w.table[key]? = none ∧ w.registry[key]? = none := by
  have hdesk := desk_of_work (work_of_isClosed hclosed)
  have hplace : (w.desk key).place = .vacant := by rw [hdesk]; rfl
  have hseat : w.table[key]? = none := by
    have := (h.stands key).placed
    rw [hplace] at this
    exact this
  exact ⟨hseat, (h.bare (.inr hplace) hseat).entry⟩

theorem Sound.shutdownEnds (h : w.Sound) {keys : List String} (hclosed : keys.all w.isClosed)
    (shutdowns : List (List String)) :
    Sound { w with work := keys.foldl (fun work key => work.erase key) w.work, shutdowns } := by
  set w' : Office := { w with
    work := keys.foldl (fun work key => work.erase key) w.work, shutdowns } with hw'
  have hwork : ∀ k : String, w'.work[k]? = if k ∈ keys then none else w.work[k]? := fun k =>
    KeyedMap.getElem?_foldl_erase keys w.work k
  have hdesk : ∀ k, w'.desk k =
      if k ∈ keys then { w.desk k with place := .free, entered := true } else w.desk k := by
    intro k
    unfold desk
    rw [hwork]
    split <;> rfl
  have hgone : ∀ k ∈ keys, w.table[k]? = none ∧ w.registry[k]? = none := fun k hk =>
    h.gone (List.all_eq_true.mp hclosed k hk)
  exact
    { stands := fun k => by
        rw [hdesk]
        split
        · rename_i hk
          exact stands_of_gone (.inl rfl) (hgone k hk).1 (hgone k hk).2
        · exact (h.stands k).mono (fun n t ht => ⟨t, ht, rfl, .refl _⟩) fun _ ha => ha
      live := fun n t ht htask => by
        have hlive := h.live n t ht htask
        rw [hdesk]
        split
        · rename_i hk
          have hplace := desk_of_work (work_of_isClosed (List.all_eq_true.mp hclosed _ hk))
          rw [hplace] at hlive
          exact hlive
        · exact hlive
      honest :=
        { work := fun k s hs => by
            rw [hwork] at hs
            split at hs
            · exact nomatch hs
            · exact h.honest.work k s hs
          answers := h.honest.answers } }

end Office

end ClusterFeed.Control
