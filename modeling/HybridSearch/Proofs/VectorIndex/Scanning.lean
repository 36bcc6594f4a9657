import HybridSearch.Proofs.VectorIndex.Draft

/-!
# Scans

A scan begins at the bytes that are asked for and ends at the first key that does not start with them. The keys
that do stand together, so that none is missed. A draft lays its pending changes over what the store lists, and
lists what a scan of the store gives once they are written.
-/
namespace HybridSearch

namespace ByteMap

variable {α : Type} {m : ByteMap α} {lead : Bytes} {entries : List (Bytes × α)}

/-- The entries whose keys start with `lead`, all of them and no others, in ascending order of the keys. -/
structure Lists (m : ByteMap α) (lead : Bytes) (entries : List (Bytes × α)) : Prop where
  ascending : Ascending entries
  mem_iff : ∀ key value, (key, value) ∈ entries ↔ lead <+: key ∧ m.find? key = some value

theorem lists_scan (m : ByteMap α) (lead : Bytes) : m.Lists lead (m.scan lead) where
  ascending := ascending_scan m lead
  mem_iff key value := by rw [mem_scan_iff, Bytes.startsWith_iff]

theorem Lists.eq_scan (h : m.Lists lead entries) : entries = m.scan lead := by
  refine entries_ext h.ascending (ascending_scan m lead) fun e => ?_
  exact (h.mem_iff e.1 e.2).trans ((lists_scan m lead).mem_iff e.1 e.2).symm

end ByteMap

namespace Draft

theorem scan_eq_scan_write {d : Draft} (hscan : d.store.faults.scan = none) (lead : Bytes) :
    d.scan lead = .ok ((d.store.content.write d.batch).scan lead) := by
  obtain ⟨entries, hshown, hascending, hmem⟩ := d.scan_spec hscan lead
  have hlists : (d.store.content.write d.batch).Lists lead entries := by
    refine ⟨hascending, fun key value => ?_⟩
    rw [hmem, Bytes.startsWith_iff, find?_write_batch]
  rw [hshown, hlists.eq_scan]

/-- A store lists the entries whose keys start with the bytes that are asked for, and a draft over it those that
the store has once the pending changes are written. -/
theorem scans_exact {d : Draft} (hscan : d.store.faults.scan = none) (lead : Bytes) :
    (∃ stored, d.store.scan lead = .ok stored ∧ d.store.content.Lists lead stored) ∧
      ∃ shown, d.scan lead = .ok shown ∧ (d.store.content.write d.batch).Lists lead shown := by
  constructor
  · refine ⟨d.store.content.scan lead, ?_, ByteMap.lists_scan _ lead⟩
    rw [StoreHandle.scan, hscan]
  · exact ⟨_, scan_eq_scan_write hscan lead, ByteMap.lists_scan _ lead⟩

/-- Keys that start with the highest byte, one of them to be deleted and another to be put. -/
def highBytes : Draft :=
  let keys : List Bytes := [[255, 255, 7], [97], [255, 255], [255]]
  let stored : Store := keys.foldl (fun s key => s.insert key [1]) ByteMap.empty
  let d : Draft := { Draft.start { dimension := 1 } default with store := { content := stored } }
  (d.put [255, 255, 0] [2]).delete [255, 255, 7]

theorem scans_exact_highBytes : highBytes.store.faults.scan = none ∧
    highBytes.store.content.Lists [255, 255] [([255, 255], [1]), ([255, 255, 7], [1])] ∧
    (highBytes.store.content.write highBytes.batch).Lists [255, 255] [([255, 255], [1]), ([255, 255, 0], [2])] := by
  obtain ⟨⟨stored, hstored, hbefore⟩, shown, hshown, hafter⟩ := scans_exact (d := highBytes) rfl [255, 255]
  obtain rfl := Except.ok.inj hstored
  obtain rfl := Except.ok.inj hshown
  exact ⟨rfl, hbefore, hafter⟩

end Draft

end HybridSearch
