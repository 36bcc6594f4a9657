import HybridSearch.Proofs.Ranking
import HybridSearch.Proofs.TextIndex.Listing

/-!
# Indexes that differ in the times of first writes

An entry that is written anew keeps its place in the listing and the time of its first write. One that was
removed in between is listed at the end, with a new time. The text index never answers with either of the two,
so that what it answers is the same, and stays the same whatever is done later.
-/
namespace HybridSearch

def ListingRow.undated (l : ListingRow) : ListingRow := { l with createdAt := 0 }

namespace TextTables

/-- The rows of the listing, without the times of first writes. -/
def undated (t : TextTables) : List ListingRow := t.listing.map ListingRow.undated

/-- Tables with the same rows, but for the times of first writes and the order of the listing. -/
structure Agrees (t t' : TextTables) : Prop where
  specification : t'.specification = t.specification
  tokenizer : t'.tokenizer = t.tokenizer
  rows : t'.rows = t.rows
  listing : t'.undated.Perm t.undated
  distinct : (t.listing.map fun l => l.id).Nodup

variable {t t' : TextTables} {id : String}

theorem map_id_undated (t : TextTables) :
    (t.undated.map fun l => l.id) = t.listing.map fun l => l.id := List.map_map

theorem undated_remove (t : TextTables) (id : String) :
    (t.remove id).undated = t.undated.filter fun l => decide (l.id ≠ id) := by
  rw [undated, undated, List.filter_map]
  rfl

theorem Agrees.refl (h : (t.listing.map fun l => l.id).Nodup) : t.Agrees t :=
  ⟨rfl, rfl, rfl, .refl _, h⟩

theorem undated_put (h : (t.listing.map fun l => l.id).Nodup) (e : TextEntry) (now : Int) :
    (t.put e now).undated.Perm
      ((t.undated.filter fun l => decide (l.id ≠ e.id)) ++ [ListingRow.ofEntry e 0 now]) := by
  rw [← undated_remove, undated, undated, put, remove]
  dsimp only
  generalize t.listing = listing at h
  induction listing with
  | nil => exact .refl _
  | cons row rest ih =>
    obtain ⟨hrow, hrest⟩ := List.nodup_cons.mp h
    rw [upsert]
    by_cases hid : row.id = e.id
    · have hothers : (rest.filter fun l => decide (l.id ≠ e.id)) = rest := by
        refine List.filter_eq_self.mpr fun l hl => decide_eq_true fun hsame => hrow ?_
        exact List.mem_map.mpr ⟨l, hl, hsame.trans hid.symm⟩
      rw [if_pos hid, List.filter_cons_of_neg (by simpa using hid), hothers, List.map_cons]
      exact (List.perm_append_singleton _ _).symm
    · rw [if_neg hid, List.filter_cons_of_pos (by simpa using hid), List.map_cons, List.map_cons]
      exact (ih hrest).cons _

theorem agrees_put_remove (h : (t.listing.map fun l => l.id).Nodup) (e : TextEntry) (now : Int) :
    ((t.remove e.id).put e now).Agrees (t.put e now) where
  specification := rfl
  tokenizer := rfl
  rows := by
    rw [put, put, remove]
    dsimp only
    rw [List.filter_filter]
    simp
  listing := by
    have hremoved : ((t.remove e.id).listing.map fun l => l.id).Nodup :=
      h.sublist (List.filter_sublist.map _)
    refine (undated_put h e now).trans ((undated_put hremoved e now).trans ?_).symm
    rw [undated_remove, List.filter_filter]
    simp
  distinct := nodup_upsert e now (h.sublist (List.filter_sublist.map _))

namespace Agrees

theorem distinct_right (h : t.Agrees t') : (t'.listing.map fun l => l.id).Nodup := by
  have hids := h.distinct
  rw [← map_id_undated] at hids ⊢
  exact (h.listing.map _).nodup_iff.mpr hids

theorem put (h : t.Agrees t') (e : TextEntry) (now : Int) : (t.put e now).Agrees (t'.put e now) where
  specification := h.specification
  tokenizer := h.tokenizer
  rows := by rw [TextTables.put, TextTables.put, h.rows]
  listing := by
    refine (undated_put h.distinct_right e now).trans (.trans ?_ (undated_put h.distinct e now).symm)
    exact (h.listing.filter _).append_right _
  distinct := nodup_upsert e now h.distinct

theorem remove (h : t.Agrees t') (id : String) : (t.remove id).Agrees (t'.remove id) where
  specification := h.specification
  tokenizer := h.tokenizer
  rows := by rw [TextTables.remove, TextTables.remove, h.rows]
  listing := by
    rw [undated_remove, undated_remove]
    exact h.listing.filter _
  distinct := h.distinct.sublist (List.filter_sublist.map _)

end Agrees

/-- An id has one row at most, so that it does not matter where the row stands. -/
theorem find?_undated_iff (h : (t.listing.map fun l => l.id).Nodup) {l : ListingRow} :
    (t.undated.find? fun l => l.id == id) = some l ↔ l ∈ t.undated ∧ l.id = id := by
  constructor
  · intro hfind
    have hid := List.find?_some hfind
    exact ⟨List.mem_of_find?_eq_some hfind, eq_of_beq hid⟩
  · rintro ⟨hl, rfl⟩
    have hsome : (t.undated.find? fun l' => l'.id == l.id).isSome = true :=
      List.find?_isSome.mpr ⟨l, hl, beq_self_eq_true l.id⟩
    obtain ⟨found, hfind⟩ := Option.isSome_iff_exists.mp hsome
    have hid := List.find?_some hfind
    rw [← map_id_undated] at h
    rw [hfind, List.inj_on_of_nodup_map h (List.mem_of_find?_eq_some hfind) hl (eq_of_beq hid)]

namespace Agrees

theorem find?_undated (h : t.Agrees t') (id : String) :
    (t'.undated.find? fun l => l.id == id) = t.undated.find? fun l => l.id == id := by
  refine Option.ext fun l => ?_
  rw [find?_undated_iff h.distinct_right, find?_undated_iff h.distinct, h.listing.mem_iff]

theorem updatedAt (h : t.Agrees t') (id : String) : t'.updatedAt id = t.updatedAt id := by
  have hundated : ∀ t : TextTables, t.updatedAt id =
      ((t.undated.find? fun l => l.id == id).map (·.updatedAt)).getD 0 := by
    intro t
    rw [undated, List.find?_map, Option.map_map]
    rfl
  rw [hundated, hundated, h.find?_undated]

theorem entryOf (h : t.Agrees t') (action : String) (r : TextRow) :
    t'.entryOf action r = t.entryOf action r := by
  rw [TextTables.entryOf, TextTables.entryOf, h.updatedAt]

end Agrees

end TextTables

namespace TextIndex

variable {ix ix' : TextIndex}

/-- The rows of a tenant are put in order by what a listing row has without the time of its first write. -/
theorem tenantRows_eq (t : TextTables) (tenant : String) : tenantRows t tenant =
    ((t.undated.filter fun l => l.tenant == tenant).mergeSort listedBefore).flatMap fun l =>
      t.rows.filter fun r => r.id == l.id := by
  have hsorted : (t.undated.filter fun l => l.tenant == tenant).mergeSort listedBefore =
      ((t.listing.filter fun l => l.tenant == tenant).mergeSort listedBefore).map ListingRow.undated := by
    have hbefore : ∀ l l' : ListingRow, listedBefore l l' = listedBefore l.undated l'.undated := fun _ _ => rfl
    rw [TextTables.undated, List.filter_map]
    exact (List.map_mergeSort fun l _ l' _ => hbefore l l').symm
  rw [tenantRows, hsorted, List.flatMap_map]
  rfl

/-- Open or closed indexes with the same settings, whose tables agree and whose next writes are at the same
time. -/
structure Agrees (ix ix' : TextIndex) : Prop where
  config : ix'.config = ix.config
  clock : ix'.clock = ix.clock
  isOpen : ix'.isOpen = ix.isOpen
  tables : ix.tables.Agrees ix'.tables

namespace Agrees

theorem ensureOpen (h : ix.Agrees ix') : ix'.ensureOpen = ix.ensureOpen := by
  rw [TextIndex.ensureOpen, TextIndex.ensureOpen, h.isOpen]

theorem search (h : ix.Agrees ix') (cancelled : Bool) (query tenant : String) (limit : Nat) :
    ix'.search cancelled query tenant limit = ix.search cancelled query tenant limit := by
  have hrows : ∀ e, rankedRows ix'.tables e tenant = rankedRows ix.tables e tenant := by
    intro e
    rw [rankedRows, rankedRows, h.tables.tokenizer, h.tables.rows]
  rw [TextIndex.search, TextIndex.search, h.ensureOpen]
  simp only [hrows, h.tables.entryOf]

theorem document (h : ix.Agrees ix') (id tenant : String) :
    ix'.document id tenant = ix.document id tenant := by
  rw [TextIndex.document, TextIndex.document, h.ensureOpen, h.tables.rows]
  simp only [h.tables.entryOf]

theorem tenantDocuments (h : ix.Agrees ix') (tenant : String) (limit offset : Nat) :
    ix'.tenantDocuments tenant limit offset = ix.tenantDocuments tenant limit offset := by
  have hids : ((ix.tables.undated.filter fun l => l.tenant == tenant).map fun l => l.id).Nodup := by
    have hdistinct := h.tables.distinct
    rw [← TextTables.map_id_undated] at hdistinct
    exact hdistinct.sublist (List.filter_sublist.map _)
  have hrows : tenantRows ix'.tables tenant = tenantRows ix.tables tenant := by
    rw [tenantRows_eq, tenantRows_eq, h.tables.rows,
      listedBefore_sortsBy.mergeSort_eq_of_perm (h.tables.listing.filter _) hids]
  have hentry : ix'.tables.entryOf "read tenant document" = ix.tables.entryOf "read tenant document" :=
    funext (h.tables.entryOf _)
  rw [TextIndex.tenantDocuments, TextIndex.tenantDocuments, h.ensureOpen, hrows, hentry]

theorem ranked (h : ix.Agrees ix') (query tenant : String) (limit : Nat) :
    ix'.ranked query tenant limit = ix.ranked query tenant limit := by
  rw [TextIndex.ranked, TextIndex.ranked, h.search]

theorem hydrate (h : ix.Agrees ix') (tenant : String) (metric : Metric) (neighbors : List Neighbor) :
    ix'.hydrate tenant metric neighbors = ix.hydrate tenant metric neighbors := by
  induction neighbors with
  | nil => rfl
  | cons n rest ih => rw [TextIndex.hydrate, TextIndex.hydrate, h.document, ih]

theorem index (h : ix.Agrees ix') (e : TextEntry) : Paired Agrees (ix.index e) (ix'.index e) := by
  rw [TextIndex.index, TextIndex.index, h.ensureOpen, h.clock]
  refine .bind_same fun _ => .bind_same fun _ => .ok ⟨h.config, rfl, h.isOpen, h.tables.put e _⟩

theorem delete (h : ix.Agrees ix') (id : String) :
    Paired (fun a b => a.1.Agrees b.1) (ix.delete id) (ix'.delete id) := by
  rw [TextIndex.delete, TextIndex.delete, h.ensureOpen]
  exact .bind_same fun _ => .ok ⟨h.config, h.clock, h.isOpen, h.tables.remove id⟩

theorem optimize (h : ix.Agrees ix') : Paired Agrees ix.optimize ix'.optimize := by
  rw [TextIndex.optimize, TextIndex.optimize, h.ensureOpen]
  exact .bind_same fun _ => .ok h

theorem rebuild (h : ix.Agrees ix') : Paired Agrees ix.rebuild ix'.rebuild := by
  rw [TextIndex.rebuild, TextIndex.rebuild, h.ensureOpen, h.config]
  refine .bind_same fun _ => ?_
  cases htables : createTables ix.config with
  | error e => exact .error e
  | ok tables => exact .ok ⟨rfl, h.clock, h.isOpen, .refl (lists_createTables htables).distinct⟩

end Agrees

end TextIndex

end HybridSearch
