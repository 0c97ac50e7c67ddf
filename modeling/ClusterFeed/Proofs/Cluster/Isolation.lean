import ClusterFeed.Proofs.Cluster.Merging

/-!
# A failure stays in its group

What there is to watch depends on the cluster only through what the groups answer and which types
the definitions give. A group that fails takes its own types away, just as if it had none, and a
definition that gives no type might as well not be there. Only when no group answers, or when the
definitions cannot be listed, is there no outcome at all.

This is `discover` with `gather_groups`.
-/

namespace ClusterFeed.Cluster

variable {σ τ : Type}

/-- How one asks for everything there is to watch, and what a cluster may answer. -/
structure Directory (σ : Type) where
  /-- The names of the groups. -/
  groups : σ → Except Failure (List String) × σ
  /-- What the groups answer, or how they fail. -/
  answers : List String → σ → List (String × Except Failure (List WatchedType)) × σ
  /-- The definitions of custom types. -/
  definitions : σ → Except Failure (List Definition) × σ
  /-- There is one answer from each group. -/
  answered : ∀ names s, (answers names s).1.map Prod.fst = names

/-- What a cluster tells when it is asked for everything there is to watch. -/
structure Survey where
  /-- What each group answers, or how it fails. -/
  answers : List (String × Except Failure (List WatchedType))
  /-- The definitions of custom types. -/
  definitions : Except Failure (List Definition)
  deriving DecidableEq

namespace Survey

/-- What comes of all that has been told. -/
def outcome (v : Survey) : Except DiscoveryError (List WatchedType) :=
  let (builtin, failed) := gatherGroups v.answers
  if failed.length = v.answers.length then .error (.everyGroup failed)
  else match v.definitions with
    | .error e => .error (.definitions e)
    | .ok ds => .ok (mergeDiscovered builtin (customTypes ds))

/-- The types that the definitions give. -/
def custom (v : Survey) : List WatchedType := customTypes (v.definitions.toOption.getD [])

/-- The types that are told, those of definitions first. -/
def told (v : Survey) : List WatchedType := v.custom ++ (gatherGroups v.answers).1

/-- No group has answered. -/
def EveryGroupFailed (v : Survey) : Prop := ∀ a ∈ v.answers, ∃ e, a.2 = .error e

/-- The answer of a group, or that it has no types where it failed. -/
def mendAnswer (a : String × Except Failure (List WatchedType)) :
    String × Except Failure (List WatchedType) :=
  (a.1, .ok (a.2.toOption.getD []))

/-- The definitions that give a type. -/
def accepted (ds : List Definition) : List Definition :=
  ds.filter fun d => d.watched.toOption.isSome

/-- The same, had each failed group answered with no types and were the definitions that give no
type not installed. -/
def mended (v : Survey) : Survey := ⟨v.answers.map mendAnswer, v.definitions.map accepted⟩

/-- Each group tells only of types of its own. -/
def Honest (v : Survey) : Prop :=
  ∀ a ∈ v.answers, ∀ found, a.2 = .ok found → ∀ w ∈ found, w.gvr.group = a.1

/-- The same is told of some groups and of their custom types. -/
structure AgreesOn (kept : String → Bool) (v v' : Survey) : Prop where
  answers : v.answers.filter (kept ·.1) = v'.answers.filter (kept ·.1)
  custom : v.custom.filter (kept ·.gvr.group) = v'.custom.filter (kept ·.gvr.group)

end Survey

/-! ## The groups are asked one by one -/

namespace Inquiry

variable (c : Access σ)

theorem length_round (qs : List Inquiry) (s : σ) : (round c qs s).1.length = qs.length := by
  induction qs generalizing s with
  | nil => rfl
  | cons q qs ih =>
    rw [round, List.length_cons, List.length_cons, ih]

theorem length_rounds (n : Nat) (qs : List Inquiry) (s : σ) :
    (rounds c n qs s).1.length = qs.length := by
  induction n generalizing qs s with
  | zero => rfl
  | succ n ih => rw [rounds, ih, length_round]

end Inquiry

/-- There is one answer from each group. -/
theorem names_fetchGroups (c : Access σ) (names : List String) (s : σ) :
    (fetchGroups c names s).1.map Prod.fst = names := by
  unfold fetchGroups
  dsimp only
  refine List.map_fst_zip (Nat.le_of_eq ?_)
  rw [List.length_map, Inquiry.length_rounds, Inquiry.length_round, List.length_map]

namespace Directory

/-- How one asks a cluster. -/
def of (c : Access σ) : Directory σ where
  groups s :=
    let (groups, s) := c.fetch "/apis" decodeGroups s
    (groups.map fun groups => groups.map (·.name), s)
  answers := fetchGroups c
  definitions s :=
    let (page, s) := c.fetch (definitionsPath ++ "?") (Page.decode Definition.decode) s
    (page.map (·.items), s)
  answered := names_fetchGroups c

/-- All types to watch. -/
def discover (d : Directory σ) (s : σ) : Except DiscoveryError (List WatchedType) × σ :=
  match d.groups s with
  | (.error e, s) => (.error (.groups e), s)
  | (.ok names, s) =>
    let (answers, s) := d.answers (coreGroup :: names) s
    let (builtin, failed) := gatherGroups answers
    if failed.length = (coreGroup :: names).length then (.error (.everyGroup failed), s)
    else match d.definitions s with
      | (.error e, s) => (.error (.definitions e), s)
      | (.ok ds, s) => (.ok (mergeDiscovered builtin (customTypes ds)), s)

/-- What the cluster tells, once it has told its groups. -/
def survey (d : Directory σ) (s : σ) : Except Failure Survey :=
  match d.groups s with
  | (.error e, _) => .error e
  | (.ok names, s) =>
    let (answers, s) := d.answers (coreGroup :: names) s
    .ok ⟨answers, (d.definitions s).1⟩

/-- The same cluster, if its failed groups had no types and the definitions that give no type were
not installed. -/
def mended (d : Directory σ) : Directory σ where
  groups := d.groups
  answers names s :=
    let (answers, s) := d.answers names s
    (answers.map Survey.mendAnswer, s)
  definitions s :=
    let (ds, s) := d.definitions s
    (ds.map Survey.accepted, s)
  answered names s := by
    rw [List.map_map]
    exact d.answered names s

/-- A cluster is asked for all types just so. -/
theorem discover_of (c : Access σ) (s : σ) : (of c).discover s = Cluster.discover c s := by
  unfold discover Cluster.discover of
  dsimp only
  cases c.fetch "/apis" decodeGroups s with
  | mk told s₁ =>
    cases told with
    | error e => rfl
    | ok groups =>
      dsimp only [Except.map]
      split
      · rfl
      · cases c.fetch (definitionsPath ++ "?") (Page.decode Definition.decode)
          (fetchGroups c (coreGroup :: groups.map (·.name)) s₁).2 with
        | mk page s₂ => cases page <;> rfl

variable {d : Directory σ} {s s₁ : σ} {names : List String} {v : Survey}

theorem survey_of_groups (h : d.groups s = (.ok names, s₁)) :
    d.survey s = .ok ⟨(d.answers (coreGroup :: names) s₁).1,
      (d.definitions (d.answers (coreGroup :: names) s₁).2).1⟩ := by
  unfold survey
  rw [h]

/-- What there is to watch depends on what is told alone. -/
theorem discover_eq_outcome (h : d.survey s = .ok v) : (d.discover s).1 = v.outcome := by
  cases hgroups : d.groups s with
  | mk told s₁ =>
    cases told with
    | error e =>
      unfold survey at h
      rw [hgroups] at h
      exact nomatch h
    | ok names =>
      have hv := Except.ok.inj ((survey_of_groups hgroups).symm.trans h)
      have hlength := congrArg List.length (d.answered (coreGroup :: names) s₁)
      rw [List.length_map] at hlength
      rw [discover, hgroups, ← hv, Survey.outcome]
      dsimp only
      rw [hlength]
      split
      · rfl
      · cases hds : d.definitions (d.answers (coreGroup :: names) s₁).2 with
        | mk ds s₂ => cases ds <;> rfl

theorem survey_mended (h : d.survey s = .ok v) : d.mended.survey s = .ok v.mended := by
  cases hgroups : d.groups s with
  | mk told s₁ =>
    cases told with
    | error e =>
      unfold survey at h
      rw [hgroups] at h
      exact nomatch h
    | ok names =>
      have hv := Except.ok.inj ((survey_of_groups hgroups).symm.trans h)
      have hmended : d.mended.groups s = (.ok names, s₁) := hgroups
      rw [survey_of_groups hmended, ← hv]
      rfl

end Directory

/-! ## What the groups tell -/

theorem failed_gatherGroups_eq_length_iff
    {answers : List (String × Except Failure (List WatchedType))} :
    (gatherGroups answers).2.length = answers.length ↔ ∀ a ∈ answers, ∃ e, a.2 = .error e := by
  unfold gatherGroups
  rw [List.filterMap_length_eq_length]
  refine forall₂_congr fun a _ => ?_
  cases a.2 <;> simp

theorem found_gatherGroups_mended (answers : List (String × Except Failure (List WatchedType))) :
    (gatherGroups (answers.map Survey.mendAnswer)).1 = (gatherGroups answers).1 := by
  unfold gatherGroups
  rw [List.flatMap_map]
  refine congrArg (answers.flatMap ·) (funext fun a => ?_)
  obtain ⟨name, answer⟩ := a
  cases answer <;> rfl

/-- Of groups that tell of their own types only, the types of some groups are told by these. -/
theorem filter_found (kept : String → Bool)
    {answers : List (String × Except Failure (List WatchedType))}
    (h : ∀ a ∈ answers, ∀ found, a.2 = .ok found → ∀ w ∈ found, w.gvr.group = a.1) :
    (gatherGroups answers).1.filter (kept ·.gvr.group) =
      (gatherGroups (answers.filter (kept ·.1))).1 := by
  unfold gatherGroups
  dsimp only
  induction answers with
  | nil => rfl
  | cons a answers ih =>
    have hrest := ih fun a ha => h a (List.mem_cons_of_mem _ ha)
    rw [List.flatMap_cons, List.filter_append, hrest]
    cases hanswer : a.2 with
    | error e => cases hkept : kept a.1 <;> simp [hkept, hanswer]
    | ok found =>
      have hown := h a List.mem_cons_self found hanswer
      cases hkept : kept a.1 with
      | true =>
        have hall : found.filter (kept ·.gvr.group) = found :=
          List.filter_eq_self.mpr fun w hw => by rw [hown w hw, hkept]
        simp [hkept, hanswer, hall]
      | false =>
        have hnone : found.filter (kept ·.gvr.group) = [] :=
          List.filter_eq_nil_iff.mpr fun w hw => by simp [hown w hw, hkept]
        simp [hkept, hnone]

theorem customTypes_accepted (ds : List Definition) :
    customTypes (Survey.accepted ds) = customTypes ds := by
  unfold customTypes Survey.accepted
  rw [List.filterMap_filter]
  refine List.filterMap_congr fun d _ => ?_
  cases d.watched <;> rfl

namespace Survey

variable {v v' : Survey}

theorem outcome_eq_error_iff :
    (∃ e, v.outcome = .error e) ↔ v.EveryGroupFailed ∨ ∃ e, v.definitions = .error e := by
  unfold outcome EveryGroupFailed
  rw [← failed_gatherGroups_eq_length_iff]
  dsimp only
  split
  · rename_i hall
    exact ⟨fun _ => .inl hall, fun _ => ⟨_, rfl⟩⟩
  · rename_i hsome
    cases v.definitions with
    | error e => exact ⟨fun _ => .inr ⟨e, rfl⟩, fun _ => ⟨_, rfl⟩⟩
    | ok ds =>
      constructor
      · rintro ⟨e, he⟩
        cases he
      · rintro (hall | ⟨e, he⟩)
        · exact absurd hall hsome
        · cases he

/-- When there is an outcome, some group has answered and the definitions were listed. -/
theorem of_outcome_ok {ws : List WatchedType} (h : v.outcome = .ok ws) :
    (∃ a ∈ v.answers, ∃ found, a.2 = .ok found) ∧ (∃ ds, v.definitions = .ok ds) ∧
      ws = mergeDiscovered (gatherGroups v.answers).1 v.custom := by
  have hno : ¬ ∃ e, v.outcome = .error e := by
    rintro ⟨e, he⟩
    rw [h] at he
    cases he
  rw [outcome_eq_error_iff, not_or] at hno
  obtain ⟨hgroup, hdefinitions⟩ := hno
  unfold outcome at h
  dsimp only at h
  unfold custom
  cases hds : v.definitions with
  | error e => exact absurd ⟨e, hds⟩ hdefinitions
  | ok ds =>
    rw [hds] at h
    refine ⟨?_, ⟨ds, rfl⟩, ?_⟩
    · by_contra hnone
      refine hgroup fun a ha => ?_
      cases ha2 : a.2 with
      | error e => exact ⟨e, rfl⟩
      | ok found => exact absurd ⟨a, ha, found, ha2⟩ hnone
    · split at h
      · cases h
      · exact (Except.ok.inj h).symm

theorem custom_mended (v : Survey) : v.mended.custom = v.custom := by
  unfold custom mended
  cases v.definitions with
  | error e => rfl
  | ok ds => exact customTypes_accepted ds

/-- What failed might as well have told nothing. -/
theorem outcome_mended {ws : List WatchedType} (h : v.outcome = .ok ws) :
    v.mended.outcome = .ok ws := by
  obtain ⟨⟨a, ha, -⟩, ⟨ds, hds⟩, hws⟩ := of_outcome_ok h
  cases hmended : v.mended.outcome with
  | ok ws' =>
    obtain ⟨-, -, hws'⟩ := of_outcome_ok hmended
    rw [hws', hws, custom_mended, mended, found_gatherGroups_mended]
  | error e =>
    rcases outcome_eq_error_iff.mp ⟨e, hmended⟩ with hall | ⟨e', he'⟩
    · obtain ⟨e', he'⟩ := hall _ (List.mem_map_of_mem ha)
      cases he'
    · rw [mended, hds] at he'
      cases he'

/-- What is told of other groups changes nothing about the types of some. -/
theorem filter_outcome_eq {kept : String → Bool} (h : v.Honest) (h' : v'.Honest)
    (hagree : v.AgreesOn kept v') {ws ws' : List WatchedType} (hws : v.outcome = .ok ws)
    (hws' : v'.outcome = .ok ws') :
    ws.filter (kept ·.gvr.group) = ws'.filter (kept ·.gvr.group) := by
  obtain ⟨-, -, rfl⟩ := of_outcome_ok hws
  obtain ⟨-, -, rfl⟩ := of_outcome_ok hws'
  have htold : v.told.filter (kept ·.gvr.group) = v'.told.filter (kept ·.gvr.group) := by
    rw [told, told, List.filter_append, List.filter_append, hagree.custom, filter_found kept h,
      filter_found kept h', hagree.answers]
  refine filter_mergeDiscovered_eq kept fun k hk => ?_
  -- a type under a key of the groups is not lost when only their types are looked at
  have hlook : ∀ ws : List WatchedType,
      (ws.filter (kept ·.gvr.group)).find? (hasKey k) = ws.find? (hasKey k) := by
    intro ws
    have hsame : ∀ w, hasKey k w = true → kept w.gvr.group = true := by
      intro w hw
      rw [← hasKey_iff.mp hw] at hk
      exact hk
    rw [Itemwise.find?_filter_eq fun w w' hw hw' => (hsame w hw).trans (hsame w' hw').symm]
    cases hfind : ws.find? (hasKey k) with
    | none => rfl
    | some w => exact Option.filter_some_pos (hsame w (List.find?_some hfind))
  show v.told.find? (hasKey k) = v'.told.find? (hasKey k)
  rw [← hlook, htold, hlook]

end Survey

/-- Discovery fails only as a whole. Otherwise it finds, of all types that may be watched, under
each group and plural name the first one that is told. It comes to the same as where each failed
group has no types and each definition without a type is gone; and whatever becomes of some groups
and their definitions, the types of the others stay as they are. -/
theorem discovery_isolates :
    (∀ (c : Access σ) (s : σ), discover c s = (Directory.of c).discover s) ∧
      ∀ (d : Directory σ) (s : σ) (v : Survey), d.survey s = .ok v →
        ((∃ e, (d.discover s).1 = .error e) ↔
          v.EveryGroupFailed ∨ ∃ e, v.definitions = .error e) ∧
        ∀ ws, (d.discover s).1 = .ok ws →
          (∀ w, w ∈ ws ↔ v.told.find? (hasKey (mergeKey w)) = some w ∧ isEligible w = true) ∧
          (d.mended.discover s).1 = .ok ws ∧
          ∀ (d' : Directory τ) (s' : τ) (v' : Survey) (ws' : List WatchedType)
            (kept : String → Bool), d'.survey s' = .ok v' → (d'.discover s').1 = .ok ws' →
            v.Honest → v'.Honest → v.AgreesOn kept v' →
            ws.filter (kept ·.gvr.group) = ws'.filter (kept ·.gvr.group) := by
  refine ⟨fun c s => (Directory.discover_of c s).symm, fun d s v h => ?_⟩
  rw [Directory.discover_eq_outcome h]
  refine ⟨Survey.outcome_eq_error_iff, fun ws hws => ⟨?_, ?_, ?_⟩⟩
  · intro w
    obtain ⟨-, -, rfl⟩ := Survey.of_outcome_ok hws
    exact mem_mergeDiscovered
  · rw [Directory.discover_eq_outcome (Directory.survey_mended h)]
    exact Survey.outcome_mended hws
  · intro d' s' v' ws' kept h' hws' hhonest hhonest' hagree
    rw [Directory.discover_eq_outcome h'] at hws'
    exact Survey.filter_outcome_eq hhonest hhonest' hagree hws hws'

/-- What a cluster tells that serves pods, metrics and widgets. One definition is of widgets, the
other has no version. What comes of the question about metrics is open. -/
def townSurvey (metrics : Except Failure (List WatchedType)) : Survey where
  answers := [(coreGroup, .ok [⟨⟨"", "v1", "pods"⟩, "Pod", true⟩]), ("metrics.k8s.io", metrics)]
  definitions := .ok [⟨"", "example.com", "widgets", "Widget", "", [⟨"v1", true, true⟩]⟩,
    ⟨"", "metrics.k8s.io", "gauges", "Gauge", "", []⟩]

/-- The cluster that tells this. -/
def town (metrics : Except Failure (List WatchedType)) : Directory Unit where
  groups s := (.ok ["metrics.k8s.io"], s)
  answers names s :=
    (names.map fun name => (name, ((townSurvey metrics).answers.lookup name).getD (.ok [])), s)
  definitions s := ((townSurvey metrics).definitions, s)
  answered names s := by
    rw [List.map_map]
    exact List.map_id names

theorem honest_townSurvey {metrics : Except Failure (List WatchedType)}
    (h : ∀ found, metrics = .ok found → ∀ w ∈ found, w.gvr.group = "metrics.k8s.io") :
    (townSurvey metrics).Honest := by
  intro a ha found hfound w hw
  rcases List.mem_cons.mp ha with rfl | ha
  · cases hfound
    rw [List.mem_singleton.mp hw]
    rfl
  · cases List.mem_singleton.mp ha
    exact h found hfound w hw

/-- What is found while metrics fail. -/
def townTypes : List WatchedType :=
  [⟨⟨"", "v1", "pods"⟩, "Pod", true⟩, ⟨⟨"example.com", "v1", "widgets"⟩, "Widget", false⟩]

/-- What metrics tell of when they are back. -/
def nodeMetrics : WatchedType := ⟨⟨"metrics.k8s.io", "v1", "nodes"⟩, "NodeMetrics", true⟩

/-- While metrics fail, pods and widgets are found. When metrics are back, these stay. -/
theorem discovery_isolates_town :
    (town (.error .unreadable)).survey () = .ok (townSurvey (.error .unreadable)) ∧
      (town (.ok [nodeMetrics])).survey () = .ok (townSurvey (.ok [nodeMetrics])) ∧
      (townSurvey (.error .unreadable)).Honest ∧ (townSurvey (.ok [nodeMetrics])).Honest ∧
      (townSurvey (.error .unreadable)).AgreesOn (· != "metrics.k8s.io")
        (townSurvey (.ok [nodeMetrics])) ∧
      (townSurvey (.error .unreadable)).told.find? (hasKey ("", "pods")) =
        some ⟨⟨"", "v1", "pods"⟩, "Pod", true⟩ ∧
      ((town (.error .unreadable)).mended.discover ()).1 = .ok townTypes ∧
      ((town (.ok [nodeMetrics])).discover ()).1 = .ok (townTypes ++ [nodeMetrics]) ∧
      townTypes.filter (·.gvr.group != "metrics.k8s.io") =
        (townTypes ++ [nodeMetrics]).filter (·.gvr.group != "metrics.k8s.io") := by
  have htold : (town (.error .unreadable)).survey () = .ok (townSurvey (.error .unreadable)) := by
    decide +kernel
  have htold' : (town (.ok [nodeMetrics])).survey () = .ok (townSurvey (.ok [nodeMetrics])) := by
    decide +kernel
  have hhonest : (townSurvey (.error .unreadable)).Honest :=
    honest_townSurvey fun found h => nomatch h
  have hhonest' : (townSurvey (.ok [nodeMetrics])).Honest := by
    refine honest_townSurvey fun found h w hw => ?_
    cases h
    rw [List.mem_singleton.mp hw]
    rfl
  have hagree : (townSurvey (.error .unreadable)).AgreesOn (· != "metrics.k8s.io")
      (townSurvey (.ok [nodeMetrics])) := ⟨by decide +kernel, by decide +kernel⟩
  have hfound : ((town (.error .unreadable)).discover ()).1 = .ok townTypes := by decide +kernel
  have hfound' : ((town (.ok [nodeMetrics])).discover ()).1 = .ok (townTypes ++ [nodeMetrics]) := by
    decide +kernel
  obtain ⟨-, hisolates⟩ := discovery_isolates (σ := Unit) (τ := Unit)
  obtain ⟨-, hfine⟩ := hisolates _ () _ htold
  obtain ⟨hmember, hmended, hapart⟩ := hfine _ hfound
  obtain ⟨hpods, -⟩ := (hmember _).mp List.mem_cons_self
  exact ⟨htold, htold', hhonest, hhonest', hagree, hpods, hmended, hfound',
    hapart _ () _ _ _ htold' hfound' hhonest hhonest' hagree⟩

end ClusterFeed.Cluster
