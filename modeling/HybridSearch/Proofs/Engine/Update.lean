import HybridSearch.Proofs.Engine.Agreement
import HybridSearch.Proofs.Engine.HybridPaging
import HybridSearch.Proofs.Engine.Turns
import HybridSearch.Proofs.VectorIndex.Replace

/-!
# Updating and indexing

An update takes a document out of both indexes before it indexes the new one, and indexing replaces what is
there. Both end with the same store and with indexes that cannot be told apart, whether there was a document
before or not, and whether the old and the new one have an embedding or not.
-/
namespace HybridSearch

namespace VectorChange

variable {c : VectorChange} {ix : VectorIndex} {store : StoreHandle} {g : Graph}

theorem run_delete_of_ok {id : String} {found : Bool} {removed : VectorIndex} {after : StoreHandle}
    (h : ix.delete store id = ⟨.ok found, removed, after⟩) :
    (delete id).run ix store = ⟨.ok (), removed, after⟩ := by
  rw [run_delete, h]
  rfl

/-- A change succeeds and leaves the same store whether or not the embedding has been taken out before. -/
theorem run_after_delete (h : ix.Ready store g) (hc : c.Allowed ix.config)
    (hfault : store.faults.write = none) : ∃ removed anew direct between after,
      (delete c.id).run ix store = ⟨.ok (), removed, between⟩ ∧
      c.run removed between = ⟨.ok (), anew, after⟩ ∧ c.run ix store = ⟨.ok (), direct, after⟩ ∧
      removed.config = ix.config ∧ anew.Agrees direct := by
  cases c with
  | insert id v =>
    obtain ⟨hcheck, hv⟩ := hc
    have hvalid : ix.validate id v = .ok () := by
      rw [VectorIndex.validate, hcheck]
      exact hv
    by_cases hid : id ∈ g.ids
    · obtain ⟨between, after, -, -, hinsert, hdelete, hanew⟩ := h.replace hid hvalid hfault
      rw [← run_insert] at hinsert hanew
      exact ⟨_, _, _, _, _, run_delete_of_ok hdelete, hanew, hinsert, rfl, rfl, rfl⟩
    · obtain ⟨after, hinsert, -, -, -⟩ := h.insert_of_valid hvalid hfault
      rw [← run_insert] at hinsert
      exact ⟨_, _, _, _, _, run_delete_of_ok (h.delete_of_not_mem hcheck hid), hinsert, hinsert, rfl, rfl, rfl⟩
  | delete id =>
    by_cases hid : id ∈ g.ids
    · obtain ⟨after, hdelete, -, hafter⟩ := h.delete_of_mem hc hid hfault
      have hgone : id ∉ (g.delete ix.config id).ids := fun hmem =>
        ((Graph.mem_ids_delete h.holds.sound).mp hmem).2 rfl
      have hready : (ix.afterDelete (g.delete ix.config id)).Ready after (g.delete ix.config id) :=
        hafter.of_config rfl
      have hdirect := run_delete_of_ok hdelete
      exact ⟨_, _, _, _, _, hdirect, run_delete_of_ok (hready.delete_of_not_mem hc hgone), hdirect, rfl, rfl, rfl⟩
    · have hdirect := run_delete_of_ok (h.delete_of_not_mem hc hid)
      exact ⟨_, _, _, _, _, hdirect, hdirect, hdirect, rfl, rfl, rfl⟩

end VectorChange

theorem Document.id_vectorChange (d : Document) : d.vectorChange.id = d.id := by
  rw [vectorChange]
  cases d.embedding <;> rfl

namespace Indexes

variable {ixs : Indexes} {d : Document} {g : Graph}

theorem indexDocument_of_run (hopen : ixs.text.isOpen = true) (hd : d.Allowed ixs.vector.config)
    {vector : VectorIndex} {store : StoreHandle}
    (hrun : d.vectorChange.run ixs.vector ixs.store = ⟨.ok (), vector, store⟩) :
    ixs.indexDocument d =
      (⟨{ ixs.text with
          tables := ixs.text.tables.put d.toEntry (ixs.text.clock + 1 : Nat)
          clock := ixs.text.clock + 1 }, vector, store⟩, .ok (.indexed d.embedding.isSome)) := by
  rw [indexDocument, writeEntry_of_allowed hopen hd]
  dsimp only [change]
  rw [hrun]
  rfl

theorem deleteDocument_of_run (hopen : ixs.text.isOpen = true) {id : String} (hid : checkId id = .ok ())
    {vector : VectorIndex} {store : StoreHandle}
    (hrun : (VectorChange.delete id).run ixs.vector ixs.store = ⟨.ok (), vector, store⟩) :
    ixs.deleteDocument id =
      (⟨{ ixs.text with tables := ixs.text.tables.remove id }, vector, store⟩, .ok .deleted) := by
  rw [deleteDocument, removeEntry_of_isOpen hopen hid]
  dsimp only [change]
  rw [hrun]

theorem update_agrees (h : ixs.vector.Ready ixs.store g) (hopen : ixs.text.isOpen = true)
    (hdistinct : (ixs.text.tables.listing.map fun l => l.id).Nodup)
    (hfault : ixs.store.faults.write = none) (hd : d.Allowed ixs.vector.config) :
    ∃ updated indexed, ixs.execute (.update d) = (updated, .ok (.indexed d.embedding.isSome)) ∧
      ixs.execute (.index d) = (indexed, .ok (.indexed d.embedding.isSome)) ∧ updated.Agrees indexed := by
  obtain ⟨removed, anew, direct, between, after, hremoved, hanew, hdirect, hconfig, hagrees⟩ :=
    VectorChange.run_after_delete h hd.vectorChange hfault
  rw [d.id_vectorChange] at hremoved
  have hdelete := deleteDocument_of_run hopen hd.id hremoved
  have hupdate : ixs.updateDocument d = (⟨{ ixs.text with
      tables := (ixs.text.tables.remove d.id).put d.toEntry (ixs.text.clock + 1 : Nat)
      clock := ixs.text.clock + 1 }, anew, after⟩, .ok (.indexed d.embedding.isSome)) := by
    rw [updateDocument, checkDocument_ok hd, hdelete]
    have hkept : d.Allowed removed.config := hconfig ▸ hd
    exact indexDocument_of_run (show (Indexes.mk { ixs.text with tables := ixs.text.tables.remove d.id } removed
      between).text.isOpen = true from hopen) hkept hanew
  exact ⟨_, _, hupdate, indexDocument_of_run hopen hd hdirect,
    ⟨rfl, rfl, rfl, TextTables.agrees_put_remove hdistinct d.toEntry _⟩, hagrees, rfl⟩

end Indexes

namespace Engine

variable {e : Engine} {d : Document}

/-- Whatever an engine holds, updating a document and indexing it both succeed, with the same store and with the
same documents but for the times of first writes; nothing that is done afterwards can tell them apart. -/
theorem Arises.update_agrees_index (h : e.Arises) (hopen : e.indexes.text.isOpen = true)
    (hfault : e.indexes.store.faults.write = none) (hvalid : e.indexes.checkDocument d = .ok ()) :
    (e.indexes.execute (.update d)).2 = .ok (.indexed d.embedding.isSome) ∧
    (e.indexes.execute (.index d)).2 = .ok (.indexed d.embedding.isSome) ∧
    (e.indexes.execute (.update d)).1.Agrees (e.indexes.execute (.index d)).1 ∧
    (∀ calls, (({ e with indexes := (e.indexes.execute (.update d)).1 } : Engine).run calls).AnswersAlike
      (({ e with indexes := (e.indexes.execute (.index d)).1 } : Engine).run calls)) ∧
    (e.Idle → (e.perform (.update d)).2 = .ok () ∧ (e.perform (.index d)).2 = .ok () ∧
      ∀ calls, ((e.perform (.update d)).1.run calls).AnswersAlike ((e.perform (.index d)).1.run calls)) := by
  obtain ⟨g, hready, -⟩ := h.backs
  have hd := Indexes.allowed_of_checkDocument hvalid
  obtain ⟨updated, indexed, hupdate, hindex, hagrees⟩ :=
    Indexes.update_agrees hready hopen h.reached.tables_reached.tenanted.distinct hfault hd
  have hengines : ({ e with indexes := updated } : Engine).Agrees { e with indexes := indexed } := .intro hagrees
  refine ⟨congrArg Prod.snd hupdate, congrArg Prod.snd hindex, ?_, fun calls => ?_, fun hidle => ?_⟩
  · rw [hupdate, hindex]
    exact hagrees
  · rw [hupdate, hindex]
    exact hengines.run calls
  · rw [hidle.perform_eq, hidle.perform_eq, hupdate, hindex]
    exact ⟨rfl, rfl, fun calls => Engine.Agrees.run (.intro hagrees) calls⟩

/-- Another version of a document that is there, as near to zero as can be. -/
def nearerDocument : Document := { smallDocument with id := "a", content := "blue", embedding := some [Binary64.zero] }

/-- Only an update forgets when the document was first written, and no answer shows it. -/
theorem update_tiedEngine : tiedEngine.Arises ∧ tiedEngine.indexes.text.isOpen = true ∧
    tiedEngine.indexes.store.faults.write = none ∧
    tiedEngine.indexes.checkDocument nearerDocument = .ok () ∧ tiedEngine.Idle ∧
    ((tiedEngine.indexes.execute (.update nearerDocument)).1.text.tables.listing.map fun l => (l.id, l.createdAt)) =
      [("b", 2), ("c", 3), ("a", 4)] ∧
    ((tiedEngine.indexes.execute (.index nearerDocument)).1.text.tables.listing.map fun l => (l.id, l.createdAt)) =
      [("a", 1), ("b", 2), ("c", 3)] ∧
    (tiedEngine.perform (.update nearerDocument)).2 = .ok () ∧
    (tiedEngine.perform (.index nearerDocument)).2 = .ok () ∧
    ∀ calls, ((tiedEngine.perform (.update nearerDocument)).1.run calls).AnswersAlike
      ((tiedEngine.perform (.index nearerDocument)).1.run calls) := by
  obtain ⟨hidle, -, hindexes⟩ := run_tiedEngine
  have hopen : tiedEngine.indexes.text.isOpen = true := by
    rw [hindexes]
    decide +kernel
  have hfault : tiedEngine.indexes.store.faults.write = none := by
    rw [hindexes]
    decide +kernel
  have hvalid : tiedEngine.indexes.checkDocument nearerDocument = .ok () := by
    obtain ⟨u, hu⟩ := exists_of_isOk
      (show (tiedEngine.indexes.checkDocument nearerDocument).isOk = true by rw [hindexes]; decide +kernel)
    exact hu
  obtain ⟨-, -, -, -, hperform⟩ := arises_tiedEngine.update_agrees_index hopen hfault hvalid
  refine ⟨arises_tiedEngine, hopen, hfault, hvalid, hidle, ?_, ?_, hperform hidle⟩
  · rw [hindexes]
    decide +kernel
  · rw [hindexes]
    decide +kernel

end Engine

end HybridSearch
