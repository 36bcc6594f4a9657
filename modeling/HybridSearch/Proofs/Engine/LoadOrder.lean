import HybridSearch.Proofs.Engine.Calls
import HybridSearch.Proofs.VectorIndex.Exact

/-!
# Loading in any order

When a loading has finished, each document of the corpus has been indexed beside the others. If the ids of those
that the checks let through differ, and there was always room in the queue in time, what the indexes hold then
does not depend on the order of events.
-/
namespace HybridSearch

namespace VectorIndex

theorem Holds.mem_storedEmbeddings_iff {config : VectorConfig} {content : Store} {g : Graph}
    (h : Holds config content g) {entry : Bytes × Bytes} : entry ∈ storedEmbeddings config content ↔
      ∃ id, entry.1 = (KeySpace.ofPrefix config.keyPrefix).vector id ∧ content.find? entry.1 = some entry.2 := by
  obtain ⟨key, value⟩ := entry
  rw [h.storedEmbeddings_eq, List.mem_map]
  constructor
  · rintro ⟨id, hid, heq⟩
    obtain ⟨rfl, rfl⟩ := Prod.mk.inj heq
    exact ⟨id, rfl, (h.found (.vector id)).trans (if_pos hid)⟩
  · rintro ⟨id, rfl, hfind⟩
    have hstored := (h.found (.vector id)).symm.trans hfind
    rw [Graph.stored] at hstored
    split at hstored
    · next hid => exact ⟨id, hid, congrArg (Prod.mk _) (Option.some_inj.mp hstored)⟩
    · cases hstored

end VectorIndex

/-- The same documents and embeddings, whenever they were written. -/
structure Indexes.SameContents (ixs ixs' : Indexes) : Prop where
  rows : ixs'.text.tables.rows.Perm ixs.text.tables.rows
  listing : (ixs'.text.tables.listing.map ListingRow.untimed).Perm
    (ixs.text.tables.listing.map ListingRow.untimed)
  embeddings : VectorIndex.storedEmbeddings ixs'.vector.config ixs'.store.content =
    VectorIndex.storedEmbeddings ixs.vector.config ixs.store.content

theorem perm_of_forall_filter {α : Type} [BEq α] [LawfulBEq α] {idOf : α → String} {rows rows' : List α}
    (h : ∀ id, rows'.filter (fun r => idOf r == id) = rows.filter fun r => idOf r == id) : rows'.Perm rows := by
  refine List.perm_iff_count.mpr fun r => ?_
  have hcount : ∀ xs : List α, (xs.filter fun x => idOf x == idOf r).count r = xs.count r :=
    fun xs => List.count_filter (beq_self_eq_true (idOf r))
  rw [← hcount, h, hcount]

theorem Indexes.filter_listing (ixs : Indexes) (id : String) :
    (ixs.text.tables.listing.map ListingRow.untimed).filter (fun l => l.id == id) = (ixs.kept id).listing :=
  List.filter_map

theorem Indexes.sameContents_of_kept {ixs ixs' : Indexes} (hconfig : ixs'.vector.config = ixs.vector.config)
    {g g' : Graph} (h : VectorIndex.Holds ixs.vector.config ixs.store.content g)
    (h' : VectorIndex.Holds ixs'.vector.config ixs'.store.content g') (hkept : ∀ id, ixs'.kept id = ixs.kept id) :
    ixs.SameContents ixs' where
  rows := perm_of_forall_filter fun id => congrArg Kept.rows (hkept id)
  listing := perm_of_forall_filter fun id => by
    rw [filter_listing, filter_listing, hkept]
  embeddings := by
    refine ByteMap.entries_ext (ByteMap.ascending_scan _ _) (ByteMap.ascending_scan _ _) fun entry => ?_
    refine h'.mem_storedEmbeddings_iff.trans (Iff.trans (exists_congr fun id => ?_) h.mem_storedEmbeddings_iff.symm)
    rw [hconfig]
    refine and_congr_right fun hkey => ?_
    have hsame := congrArg Kept.embedding (hkept id)
    rw [Indexes.kept, Indexes.kept, hconfig] at hsame
    exact Iff.of_eq (congrArg (· = some entry.2) (hkey ▸ hsame))

namespace Loading

variable {before : Service} {l l' : Loading} {lines : List (List Char)}

/-- No call has waited for room in the queue in vain, as far as the loader knows. -/
def NoTimeout (l : Loading) : Prop :=
  ∀ outcome ∈ l.joined, ∀ milliseconds, outcome.2 ≠ .error (.enqueueTimeout milliseconds)

theorem Tracked.brings_iff (h : l.Tracked before) {d : Document} {number : ℕ} :
    before.Brings l.service number d ↔ .waiting d number ∈ l.calls := by
  constructor
  · rintro ⟨hnew, htask⟩
    have hrange := List.mem_range.mpr (List.getElem?_eq_some_iff.mp htask).1
    rcases List.mem_append.mp (h.numbers.mem_iff.mpr hrange) with hold | hcall
    · exact absurd hnew (Nat.not_le_of_lt (List.mem_range.mp hold))
    · obtain ⟨f, hf, hnumber⟩ := List.mem_filterMap.mp hcall
      cases f with
      | calling d' => cases hnumber
      | refused d' cause => cases hnumber
      | waiting d' number' =>
        obtain rfl := Option.some_inj.mp hnumber
        obtain rfl := Task.index.inj (Option.some_inj.mp ((h.tasks d' _ hf).symm.trans htask))
        exact hf
  · intro hcall
    refine ⟨Nat.le_of_not_lt fun hold => ?_, h.tasks d number hcall⟩
    have hnodup := h.numbers.nodup_iff.mpr List.nodup_range
    exact (List.nodup_append.mp hnodup).2.2 number (List.mem_range.mpr hold) number
      (List.mem_filterMap.mpr ⟨_, hcall, rfl⟩) rfl

/-- The documents of the calls whose entries are written. -/
def entering (before : Service) (l : Loading) : List Document :=
  (l.calls.map Flight.document).filter before.engine.indexes.admits

theorem Tracked.distinct (h : l.Tracked before) (hids : ((l.entering before).map Document.id).Nodup) :
    before.Distinct l.service := by
  intro number number' d d' hd hd' hid
  rw [entering, List.filter_map, List.map_map] at hids
  have hmem : ∀ {number d}, before.Enters l.service number d → .waiting d number ∈
      l.calls.filter (before.engine.indexes.admits ∘ Flight.document) := fun hd =>
    List.mem_filter.mpr ⟨h.brings_iff.mp hd.1, hd.2⟩
  exact (Flight.waiting.inj (List.inj_on_of_nodup_map hids (hmem hd) (hmem hd') hid)).2

theorem Tracked.answered_of_finished (h : l.Tracked before) (hfinished : l.Finished) (hnever : l.NoTimeout) {f : Flight}
    (hf : f ∈ l.calls) :
    ∃ number, f = .waiting f.document number ∧ number ∈ l.service.engine.answers.map Prod.fst := by
  have hcall := hf
  rw [calls, hfinished.2, List.append_nil] at hf
  obtain ⟨⟨f, answer⟩, houtcome, rfl⟩ := List.mem_map.mp hf
  have hanswer := h.joined _ houtcome
  cases f with
  | calling d => cases hanswer
  | refused d cause =>
    obtain rfl := Option.some_inj.mp hanswer
    exact absurd (congrArg Except.error (h.refused d cause hcall)) (hnever _ houtcome _)
  | waiting d number => exact ⟨number, rfl, List.mem_map_of_mem (Engine.mem_answers_of_answer? hanswer)⟩

/-- Each document whose entry is written has left behind what indexing it alone would have left, and nothing else
has changed. -/
theorem Running.kept_of_finished (h : l.Running before) (hbacks : ∃ g, before.engine.Backs g)
    (hfinished : l.Finished) (hnever : l.NoTimeout) (hids : ((l.entering before).map Document.id).Nodup) :
    (∀ d ∈ l.entering before, l.service.engine.indexes.kept d.id = before.engine.indexes.keptAfter d) ∧
    ∀ id, (∀ d ∈ l.entering before, d.id ≠ id) →
      l.service.engine.indexes.kept id = before.engine.indexes.kept id := by
  have hindexing := h.indexing hbacks (h.distinct hids)
  constructor
  · intro d hd
    obtain ⟨hcall, hadmitted⟩ := List.mem_filter.mp hd
    obtain ⟨f, hf, rfl⟩ := List.mem_map.mp hcall
    obtain ⟨number, hwaiting, hanswer⟩ := h.answered_of_finished hfinished hnever hf
    exact hindexing.answered number f.document ⟨h.brings_iff.mpr (hwaiting ▸ hf), hadmitted⟩ hanswer
  · intro id hothers
    refine hindexing.untouched id fun number d hd _ => hothers d (List.mem_filter.mpr ⟨?_, hd.2⟩)
    exact List.mem_map.mpr ⟨_, h.brings_iff.mp hd.1, rfl⟩

theorem Accounts.documents_of_finished (h : l.Accounts lines) (hfinished : l.Finished) :
    (l.calls.map Flight.document).Perm (lines.filterMap documentOn?) := by
  have hdocuments := h.documents
  rw [hfinished.1, hfinished.2, List.map_nil, List.filterMap_nil, List.append_nil, List.append_nil] at hdocuments
  rw [calls, hfinished.2, List.append_nil, List.map_map]
  exact hdocuments

theorem Accounts.total_of_finished (h : l.Accounts lines) (hfinished : l.Finished) :
    l.report.indexed + l.report.failed = lines.countP fun line => !Text.isBlank line := by
  have hlength := (h.documents_of_finished hfinished).length_eq
  rw [calls, hfinished.2, List.append_nil, List.length_map, List.length_map,
    List.length_eq_countP_add_countP fun outcome => outcome.2.isOk] at hlength
  have hfailed := h.failed
  rw [hfinished.1, List.countP_nil] at hfailed
  have hindexed := h.indexed
  simp only [Bool.not_eq_true, Bool.decide_eq_false] at hlength
  rw [length_nonblank]
  omega

theorem Running.sameContents (h : l.Running before) (h' : l'.Running before) (hbacks : ∃ g, before.engine.Backs g)
    (ha : l.Accounts lines) (ha' : l'.Accounts lines) (hfinished : l.Finished) (hfinished' : l'.Finished)
    (hnever : l.NoTimeout) (hnever' : l'.NoTimeout)
    (hids : (((lines.filterMap documentOn?).filter before.engine.indexes.admits).map Document.id).Nodup) :
    l.service.engine.indexes.SameContents l'.service.engine.indexes := by
  have hentering := (ha.documents_of_finished hfinished).filter before.engine.indexes.admits
  have hentering' := (ha'.documents_of_finished hfinished').filter before.engine.indexes.admits
  have hnodup := (hentering.map Document.id).nodup_iff.mpr hids
  have hnodup' := (hentering'.map Document.id).nodup_iff.mpr hids
  obtain ⟨hdone, huntouched⟩ := h.kept_of_finished hbacks hfinished hnever hnodup
  obtain ⟨hdone', huntouched'⟩ := h'.kept_of_finished hbacks hfinished' hnever' hnodup'
  have hindexing := h.indexing hbacks (h.distinct hnodup)
  have hindexing' := h'.indexing hbacks (h'.distinct hnodup')
  obtain ⟨g, hgraph⟩ := hindexing.backs
  obtain ⟨g', hgraph'⟩ := hindexing'.backs
  have hsame : ∀ d, d ∈ l'.entering before ↔ d ∈ l.entering before := fun d =>
    (hentering'.trans hentering.symm).mem_iff
  refine Indexes.sameContents_of_kept (hindexing'.rules.config.trans hindexing.rules.config.symm)
    hgraph.ready.holds hgraph'.ready.holds fun id => ?_
  -- an id is that of a document whose entry is written in both loadings, or in neither
  by_cases hid : ∃ d ∈ l.entering before, d.id = id
  · obtain ⟨d, hd, rfl⟩ := hid
    rw [hdone d hd, hdone' d ((hsame d).mpr hd)]
  · have hothers : ∀ d ∈ l.entering before, d.id ≠ id := fun d hd heq => hid ⟨d, hd, heq⟩
    rw [huntouched id hothers]
    exact huntouched' id fun d hd => hothers d ((hsame d).mp hd)

end Loading

end HybridSearch
