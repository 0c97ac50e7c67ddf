import ClusterFeed.Proofs.Text.Trimming
import ClusterFeed.Sync.Endpoint

/-!
# The address of an endpoint

An endpoint may be written with blanks around it, with slashes at its end and with or without the
path of the sync interface: requests go to the same address. Addresses are just the texts that end
with the path and begin with no blank, and these are left as they are.

Slashes are taken off once, after the blanks. So a blank in front of them stays, and behind an
endpoint that ends in a blank a slash does make a difference.

This is `normalize_endpoint`.
-/

namespace ClusterFeed.Sync

open Text (isBlank Trims Strips)

/-- What is left of an endpoint without the blanks around it and then the slashes at its end. -/
def Bares (endpoint bare : String) : Prop :=
  ∃ trimmed, Trims endpoint trimmed ∧ Strips '/' trimmed bare

/-- The text ends with the path of the sync interface. -/
def HasPath (s : String) : Prop := ∃ server, s = server ++ syncPath

/-- An address in the form in which it is kept. -/
structure IsCanonical (address : String) : Prop where
  path : HasPath address
  first : ∀ c ∈ address.toList.head?, isBlank c = false
  last : ∀ c ∈ address.toList.getLast?, isBlank c = false ∧ c ≠ '/'

variable {endpoint bare address : String}

/-! ## The path at the end -/

theorem hasPath_iff {s : String} : HasPath s ↔ syncPath.toList <:+ s.toList := by
  constructor
  · rintro ⟨server, rfl⟩
    rw [String.toList_append]
    exact List.suffix_append server.toList syncPath.toList
  · rintro ⟨server, h⟩
    exact ⟨String.ofList server, String.toList_injective (by simp [h])⟩

instance (s : String) : Decidable (HasPath s) := decidable_of_iff _ hasPath_iff.symm

theorem HasPath.getLast? {s : String} (h : HasPath s) : s.toList.getLast? = some 'c' := by
  obtain ⟨server, rfl⟩ := h
  have hpath : syncPath.toList.getLast? = some 'c' := by decide +kernel
  rw [String.toList_append, List.getLast?_append, hpath, Option.some_or]

/-- Behind the path there is neither a blank nor a slash. -/
theorem isCanonical_iff :
    IsCanonical address ↔
      HasPath address ∧ ∀ c ∈ address.toList.head?, isBlank c = false := by
  refine ⟨fun h => ⟨h.path, h.first⟩, fun ⟨hpath, hfirst⟩ => ⟨hpath, hfirst, fun c hc => ?_⟩⟩
  rw [hpath.getLast?] at hc
  cases hc
  decide

/-! ## The bare endpoint -/

theorem bares_iff : Bares endpoint bare ↔ String.ofList (strippedEndpoint endpoint) = bare := by
  have hstripped : strippedEndpoint endpoint =
      Text.dropEnd (· == '/') (Text.trim endpoint).toList := by
    rw [Text.trim, String.toList_ofList]
    rfl
  simp only [Bares, Text.trims_iff, Text.strips_iff, exists_eq_left', hstripped]

theorem exists_bares (endpoint : String) : ∃ bare, Bares endpoint bare :=
  ⟨_, bares_iff.mpr rfl⟩

/-- A bare endpoint begins with no blank. -/
theorem Bares.first (h : Bares endpoint bare) : ∀ c ∈ bare.toList.head?, isBlank c = false := by
  obtain ⟨trimmed, htrims, hstrips⟩ := h
  obtain ⟨n, rfl⟩ := hstrips.behind
  intro c hc
  refine htrims.first c ?_
  rw [String.toList_append, List.head?_append, Option.mem_def.mp hc]
  rfl

/-- Blanks around an endpoint that does not end in one, and slashes at its end, do not count. -/
theorem Bares.padded {before after : String} (h : Bares endpoint bare)
    (hend : ∀ c ∈ endpoint.toList.getLast?, isBlank c = false)
    (hbefore : ∀ c ∈ before.toList, isBlank c = true)
    (hafter : ∀ c ∈ after.toList, isBlank c = true) (n : Nat) :
    Bares (before ++ endpoint ++ String.ofList (List.replicate n '/') ++ after) bare := by
  obtain ⟨trimmed, htrims, hstrips⟩ := h
  exact ⟨_, htrims.padded (by decide) hend hbefore hafter, hstrips.append n⟩

/-! ## The address -/

theorem normalizeEndpoint_of_bares (h : Bares endpoint bare) :
    normalizeEndpoint endpoint = if HasPath bare then bare else bare ++ syncPath := by
  have hbare : strippedEndpoint endpoint = bare.toList := by
    rw [← bares_iff.mp h, String.toList_ofList]
  simp only [normalizeEndpoint, hbare, Text.endsWith, List.isSuffixOf_iff_suffix, ← hasPath_iff,
    String.ofList_append, String.ofList_toList]

theorem isCanonical_normalizeEndpoint (endpoint : String) :
    IsCanonical (normalizeEndpoint endpoint) := by
  obtain ⟨bare, h⟩ := exists_bares endpoint
  rw [normalizeEndpoint_of_bares h, isCanonical_iff]
  split
  · rename_i hpath
    exact ⟨hpath, h.first⟩
  · refine ⟨⟨bare, rfl⟩, fun c hc => ?_⟩
    rw [String.toList_append, List.head?_append, Option.mem_def, Option.or_eq_some_iff] at hc
    rcases hc with hfirst | ⟨-, hfirst⟩
    · exact h.first c hfirst
    · have hslash : syncPath.toList.head? = some '/' := by decide +kernel
      rw [hslash] at hfirst
      cases hfirst
      decide

/-- What is in the form is its own bare endpoint. -/
theorem IsCanonical.bares (h : IsCanonical address) : Bares address address := by
  refine ⟨address, .self h.first fun c hc => (h.last c hc).1, .self fun hlast => ?_⟩
  exact (h.last '/' hlast).2 rfl

/-- Just the addresses in the form are left as they are. -/
theorem normalizeEndpoint_eq_self_iff :
    normalizeEndpoint address = address ↔ IsCanonical address := by
  constructor
  · intro h
    rw [← h]
    exact isCanonical_normalizeEndpoint address
  · intro h
    rw [normalizeEndpoint_of_bares h.bares, if_pos h.path]

/-- The path is not nothing. -/
theorem append_syncPath_ne (s : String) : s ++ syncPath ≠ s := by
  intro h
  have hsize := congrArg String.utf8ByteSize h
  rw [String.utf8ByteSize_append] at hsize
  have hpath : 0 < syncPath.utf8ByteSize := by decide +kernel
  omega

/-- An address is the one form of an endpoint. -/
structure IsFormOf (endpoint address : String) : Prop where
  canonical : IsCanonical address
  /-- Bringing it into its form again leaves it as it is. -/
  again : normalizeEndpoint address = address
  /-- Unless the endpoint ends in a blank, it may be written with blanks around it and, between it
  and those behind it, with slashes. -/
  spelling : (∀ c ∈ endpoint.toList.getLast?, isBlank c = false) →
    ∀ (before after : String) (n : Nat), (∀ c ∈ before.toList, isBlank c = true) →
      (∀ c ∈ after.toList, isBlank c = true) →
      normalizeEndpoint (before ++ endpoint ++ String.ofList (List.replicate n '/') ++ after) =
        address
  /-- The path is appended to the bare endpoint exactly if that does not end with it, and otherwise
  nothing is. -/
  appended : ∃ bare, Bares endpoint bare ∧
    (address = bare ++ syncPath ↔ ¬ HasPath bare) ∧ (address = bare ↔ HasPath bare)

/-- Every endpoint is brought into its one form. -/
theorem addresses_are_canonical (endpoint : String) :
    IsFormOf endpoint (normalizeEndpoint endpoint) where
  canonical := isCanonical_normalizeEndpoint endpoint
  again := normalizeEndpoint_eq_self_iff.mpr (isCanonical_normalizeEndpoint endpoint)
  spelling hend before after n hbefore hafter := by
    obtain ⟨bare, h⟩ := exists_bares endpoint
    rw [normalizeEndpoint_of_bares h,
      normalizeEndpoint_of_bares (h.padded hend hbefore hafter n)]
  appended := by
    obtain ⟨bare, h⟩ := exists_bares endpoint
    refine ⟨bare, h, ?_⟩
    rw [normalizeEndpoint_of_bares h]
    by_cases hpath : HasPath bare
    · rw [if_pos hpath]
      exact ⟨iff_of_false (append_syncPath_ne bare).symm (not_not_intro hpath),
        iff_of_true rfl hpath⟩
    · rw [if_neg hpath]
      exact ⟨iff_of_true rfl hpath, iff_of_false (append_syncPath_ne bare) hpath⟩

theorem addresses_are_canonical_ideographic :
    normalizeEndpoint ("\u3000\t" ++ "http://index:8080/" ++ String.ofList (List.replicate 2 '/') ++
      "\u2028") = "http://index:8080/api/v1/resources/sync" := by
  have haddress : normalizeEndpoint "http://index:8080/" =
      "http://index:8080/api/v1/resources/sync" := by decide +kernel
  have hend : ∀ c ∈ "http://index:8080/".toList.getLast?, isBlank c = false := by
    have hslash : "http://index:8080/".toList.getLast? = some '/' := by decide +kernel
    intro c hc
    rw [hslash] at hc
    cases hc
    rfl
  rw [← haddress]
  exact (addresses_are_canonical "http://index:8080/").spelling hend "\u3000\t" "\u2028" 2
    (List.all_eq_true.mp (by decide +kernel)) (List.all_eq_true.mp (by decide +kernel))

-- a blank that the slash behind it keeps
example : normalizeEndpoint "index /" = "index /api/v1/resources/sync" ∧
    normalizeEndpoint "index " = "index/api/v1/resources/sync" := by decide +kernel

end ClusterFeed.Sync
