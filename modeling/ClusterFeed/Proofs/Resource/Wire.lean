import ClusterFeed.Proofs.Json.Carrying
import ClusterFeed.Proofs.Time.Instants
import ClusterFeed.Resource.Change
import ClusterFeed.Resource.Gvr

/-!
# Resources on the wire

Identifiers, snapshots, changes and types are read back from what is written of them. A snapshot is
read back with the very instant at which its resource was looked at.
-/

namespace ClusterFeed

open Json

namespace Identifier

/-- The record of an identifier. -/
def layout : Layout :=
  .record [("namespace", .plain), ("apiVersion", .plain), ("kind", .plain), ("name", .plain)]

theorem carries : Carries 1 layout toJson decode fun _ => True where
  spellable i _ := by simp [toJson]
  reads i _ p hp depth hdepth := by
    obtain ⟨slot, hroom, hrecord, hslot⟩ := record?_of_varied (by simp) hp hdepth
    have hscope :=
      carries_text.required (a := i.scope) trivial (by omega) (hslot "namespace" (by simp))
    have hversion :=
      carries_text.required (a := i.apiVersion) trivial (by omega) (hslot "apiVersion" (by simp))
    have hkind := carries_text.required (a := i.kind) trivial (by omega) (hslot "kind" (by simp))
    have hname := carries_text.required (a := i.name) trivial (by omega) (hslot "name" (by simp))
    refine Option.bind_eq_some_iff.mpr ⟨_, hrecord, ?_⟩
    simp only [List.map, hscope, hversion, hkind, hname]
    rfl

end Identifier

namespace Snapshot

/-- The record of a snapshot; the labels and annotations have any names. -/
def layout : Layout :=
  .record [("name", .plain), ("namespace", .plain), ("kind", .plain), ("apiVersion", .plain),
    ("labels", .plain), ("annotations", .plain), ("timestamp", .plain)]

/-- The instant of the snapshot has a text of its own. -/
def InRange (s : Snapshot) : Prop := s.timestamp.IsPlain

theorem carries : Carries 2 layout toJson decode InRange where
  spellable s _ := by
    have hlabels := carries_map.spellable s.labels trivial
    have hannotations := carries_map.spellable s.annotations trivial
    simp [toJson, timelessFields, hlabels, hannotations]
  reads s hs p hp depth hdepth := by
    obtain ⟨slot, hroom, hrecord, hslot⟩ :=
      record?_of_varied (by simp [timelessFields]) hp hdepth
    have hname := carries_text.required (a := s.name) trivial (by omega) (hslot "name" (by simp))
    have hscope :=
      carries_text.required (a := s.scope) trivial (by omega) (hslot "namespace" (by simp))
    have hkind := carries_text.required (a := s.kind) trivial (by omega) (hslot "kind" (by simp))
    have hversion :=
      carries_text.required (a := s.apiVersion) trivial (by omega) (hslot "apiVersion" (by simp))
    have hlabels :=
      carries_map.orElse (a := s.labels) trivial (by omega) (hslot "labels" (by simp)) ∅
    have hannotations :=
      carries_map.orElse (a := s.annotations) trivial (by omega) (hslot "annotations" (by simp)) ∅
    have htime := carries_text.required (a := s.timestamp.render) trivial (by omega)
      (hslot "timestamp" (by simp))
    have hinstant := Time.Instant.parse?_render hs
    refine Option.bind_eq_some_iff.mpr ⟨_, hrecord, ?_⟩
    simp only [List.map, hname, hscope, hkind, hversion, hlabels, hannotations, htime,
      Option.bind_eq_bind, Option.bind_some, hinstant]
    rfl

end Snapshot

namespace Change

/-- The record of a change. -/
def layout : Layout :=
  .record [("action", .plain), ("id", .plain), ("data", Snapshot.layout),
    ("delete_identifier", Identifier.layout)]

/-- The snapshot of the change, if it has one, can be told. -/
def InRange (c : Change) : Prop := ∀ s ∈ c.data, s.InRange

theorem carries_action : Carries 0 .plain (fun a => .str (actionName a))
    (Decode.oneOf [("Upsert", .upsert), ("Delete", .delete)]) fun _ => True :=
  carries_plain (fun a _ => spellable_str _) fun a _ depth _ => by
    rw [phrase, Phrase.tree]
    cases a <;> rfl

theorem carries : Carries 3 layout toJson decode InRange where
  spellable c hc := by
    have hdata := Snapshot.carries.spellable_orNull hc
    have hdeleted := Identifier.carries.spellable_orNull (o := c.deleted) fun _ _ => trivial
    simp [toJson, hdata, hdeleted]
  reads c hc p hp depth hdepth := by
    obtain ⟨slot, hroom, hrecord, hslot⟩ := record?_of_varied (by simp) hp hdepth
    have haction := carries_action.required (a := c.action) trivial (by omega)
      (hslot "action" (by simp))
    have hid := carries_text.required (a := c.id) trivial (by omega) (hslot "id" (by simp))
    have hdata := Snapshot.carries.nullable rfl hc (by omega) (hslot "data" (by simp))
    have hdeleted := Identifier.carries.nullable (o := c.deleted) rfl (fun _ _ => trivial)
      (by omega) (hslot "delete_identifier" (by simp))
    refine Option.bind_eq_some_iff.mpr ⟨_, hrecord, ?_⟩
    simp only [List.map, haction, hid, hdata, hdeleted]
    rfl

end Change

namespace Gvr

/-- The record of a type. -/
def layout : Layout :=
  .record [("group", .plain), ("version", .plain), ("resource", .plain)]

theorem carries : Carries 1 layout toJson decode fun _ => True where
  spellable g _ := by simp [toJson]
  reads g _ p hp depth hdepth := by
    obtain ⟨slot, hroom, hrecord, hslot⟩ := record?_of_varied (by simp) hp hdepth
    have hgroup := carries_text.required (a := g.group) trivial (by omega) (hslot "group" (by simp))
    have hversion :=
      carries_text.required (a := g.version) trivial (by omega) (hslot "version" (by simp))
    have hresource :=
      carries_text.required (a := g.resource) trivial (by omega) (hslot "resource" (by simp))
    refine Option.bind_eq_some_iff.mpr ⟨_, hrecord, ?_⟩
    simp only [List.map, hgroup, hversion, hresource]
    rfl

-- Blanks, escapes, the order of the fields and what nobody knows do not count.
example : decode.read? (Text.unitsOf ("\x7b\"version\":\"v1\", \"more\":[1e9, \"\\ud800\"],\n" ++
    "\"group\":\"\", \"resource\":\"p\\u006fds\"\x7d ")) = some ⟨"", "v1", "pods"⟩ := by
  decide +kernel

end Gvr

namespace WatchedType

/-- The record of a watched type. -/
def layout : Layout :=
  .record [("gvr", Gvr.layout), ("kind", .plain), ("namespaced", .plain)]

theorem carries : Carries 2 layout toJson decode fun _ => True where
  spellable w _ := by simp [toJson, Gvr.carries.spellable w.gvr trivial]
  reads w _ p hp depth hdepth := by
    obtain ⟨slot, hroom, hrecord, hslot⟩ := record?_of_varied (by simp) hp hdepth
    have hgvr := Gvr.carries.required (a := w.gvr) trivial (by omega) (hslot "gvr" (by simp))
    have hkind := carries_text.required (a := w.kind) trivial (by omega) (hslot "kind" (by simp))
    have hnamespaced :=
      carries_bool.required (a := w.namespaced) trivial (by omega) (hslot "namespaced" (by simp))
    refine Option.bind_eq_some_iff.mpr ⟨_, hrecord, ?_⟩
    simp only [List.map, hgvr, hkind, hnamespaced]
    rfl

end WatchedType

end ClusterFeed
