import HybridSearch.Proofs.Except
import HybridSearch.TextIndex.Index
import Mathlib.Logic.Function.Basic

/-!
# What the tables of a text index list

Both tables have the rows of one document for each id that they list, and no others. Every write of the
text index changes what is listed under one id, or starts over.
-/
namespace HybridSearch

@[simp] theorem Document.id_toEntry (d : Document) : d.toEntry.id = d.id := rfl

namespace TextTables

/-- The tables list a document under its id, and nothing else. -/
structure Lists (t : TextTables) (documents : String → Option Document) : Prop where
  named : ∀ {id d}, documents id = some d → d.id = id
  mem_rows : ∀ {r}, r ∈ t.rows ↔ ∃ d, documents r.id = some d ∧ r = TextRow.ofEntry d.toEntry
  listing_row : ∀ {l}, l ∈ t.listing → ∃ d created, documents l.id = some d ∧
    l = ListingRow.ofEntry d.toEntry created l.updatedAt
  listed : ∀ {id d}, documents id = some d → ∃ l ∈ t.listing, l.id = id
  distinct : (t.listing.map fun l => l.id).Nodup

variable {t : TextTables} {documents : String → Option Document}

theorem Lists.empty {t : TextTables} (hrows : t.rows = []) (hlisting : t.listing = []) :
    t.Lists fun _ => none where
  named h := by cases h
  mem_rows := by simp [hrows]
  listing_row := by simp [hlisting]
  listed h := by cases h
  distinct := by simp [hlisting]

theorem ids_upsert (e : TextEntry) (now : Int) (listing : List ListingRow) :
    (upsert e now listing).map (fun l => l.id) =
      if e.id ∈ listing.map (fun l => l.id) then listing.map fun l => l.id
      else (listing.map fun l => l.id) ++ [e.id] := by
  induction listing with
  | nil => rfl
  | cons row rest ih =>
    rw [upsert]
    by_cases hrow : row.id = e.id
    · simp [hrow, ListingRow.ofEntry]
    · have hne : e.id ≠ row.id := fun h => hrow h.symm
      rw [if_neg hrow, List.map_cons, ih, List.map_cons]
      by_cases hrest : e.id ∈ rest.map fun l => l.id
      · rw [if_pos hrest, if_pos (List.mem_cons_of_mem _ hrest)]
      · rw [if_neg hrest, if_neg (by simpa [hne] using hrest)]
        rfl

theorem nodup_upsert (e : TextEntry) (now : Int) {listing : List ListingRow}
    (h : (listing.map fun l => l.id).Nodup) : ((upsert e now listing).map fun l => l.id).Nodup := by
  rw [ids_upsert]
  split
  · exact h
  · next hnew =>
    refine List.nodup_append.mpr ⟨h, by simp, fun id hid other hother heq => hnew ?_⟩
    rw [← List.mem_singleton.mp hother, ← heq]
    exact hid

theorem mem_upsert (e : TextEntry) (now : Int) {listing : List ListingRow}
    (h : (listing.map fun l => l.id).Nodup) {l : ListingRow} (hl : l ∈ upsert e now listing) :
    (l.id ≠ e.id ∧ l ∈ listing) ∨ ∃ created, l = ListingRow.ofEntry e created now := by
  induction listing with
  | nil => exact .inr ⟨now, List.mem_singleton.mp hl⟩
  | cons row rest ih =>
    obtain ⟨hrow, hrest⟩ := List.nodup_cons.mp h
    rw [upsert] at hl
    split at hl
    · next heq =>
      rcases List.mem_cons.mp hl with rfl | hmem
      · exact .inr ⟨row.createdAt, rfl⟩
      · refine .inl ⟨fun hid => hrow ?_, List.mem_cons_of_mem _ hmem⟩
        exact List.mem_map.mpr ⟨l, hmem, hid.trans heq.symm⟩
    · next hne =>
      rcases List.mem_cons.mp hl with rfl | hmem
      · exact .inl ⟨hne, List.mem_cons_self⟩
      · rcases ih hrest hmem with ⟨hid, hold⟩ | hnew
        · exact .inl ⟨hid, List.mem_cons_of_mem _ hold⟩
        · exact .inr hnew

theorem exists_upsert {e : TextEntry} {now : Int} {listing : List ListingRow} {id : String}
    (h : id = e.id ∨ ∃ l ∈ listing, l.id = id) : ∃ l ∈ upsert e now listing, l.id = id := by
  have hid : id ∈ (upsert e now listing).map fun l => l.id := by
    rw [ids_upsert]
    split
    · next hmem =>
      rcases h with rfl | ⟨l, hl, rfl⟩
      · exact hmem
      · exact List.mem_map_of_mem hl
    · rcases h with rfl | ⟨l, hl, rfl⟩
      · exact List.mem_append_right _ List.mem_cons_self
      · exact List.mem_append_left _ (List.mem_map_of_mem hl)
  exact List.mem_map.mp hid

theorem Lists.put (h : t.Lists documents) (d : Document) (now : Int) :
    (t.put d.toEntry now).Lists (Function.update documents d.id (some d)) where
  named := by
    intro id other hother
    by_cases hid : id = d.id
    · subst hid
      rw [Function.update_self] at hother
      rw [Option.some_inj.mp hother]
    · rw [Function.update_of_ne hid] at hother
      exact h.named hother
  mem_rows := by
    intro r
    rw [TextTables.put, List.mem_append, List.mem_filter, List.mem_singleton]
    by_cases hid : r.id = d.id
    · rw [hid, Function.update_self]
      simp
    · have hother : decide (r.id ≠ d.toEntry.id) = true := decide_eq_true hid
      have hrow : r ≠ TextRow.ofEntry d.toEntry := fun heq => hid (by rw [heq]; rfl)
      rw [Function.update_of_ne hid]
      simp only [hother, hrow, and_true, or_false, h.mem_rows]
  listing_row := by
    intro l hl
    rcases mem_upsert d.toEntry now h.distinct hl with ⟨hid, hold⟩ | ⟨created, rfl⟩
    · have hother : Function.update documents d.id (some d) l.id = documents l.id :=
        Function.update_of_ne hid _ _
      rw [hother]
      exact h.listing_row hold
    · exact ⟨d, created, Function.update_self _ _ _, rfl⟩
  listed := by
    intro id other hother
    refine exists_upsert ?_
    by_cases hid : id = d.id
    · exact .inl hid
    · rw [Function.update_of_ne hid] at hother
      exact .inr (h.listed hother)
  distinct := nodup_upsert _ _ h.distinct

theorem Lists.remove (h : t.Lists documents) (id : String) :
    (t.remove id).Lists (Function.update documents id none) where
  named := by
    intro other d hd
    by_cases hid : other = id
    · rw [hid, Function.update_self] at hd
      cases hd
    · rw [Function.update_of_ne hid] at hd
      exact h.named hd
  mem_rows := by
    intro r
    rw [TextTables.remove, List.mem_filter]
    by_cases hid : r.id = id
    · rw [hid, Function.update_self]
      simp
    · rw [Function.update_of_ne hid]
      simp [hid, h.mem_rows]
  listing_row := by
    intro l hl
    obtain ⟨hold, hid⟩ := List.mem_filter.mp hl
    rw [Function.update_of_ne (of_decide_eq_true hid)]
    exact h.listing_row hold
  listed := by
    intro other d hd
    by_cases hid : other = id
    · rw [hid, Function.update_self] at hd
      cases hd
    · rw [Function.update_of_ne hid] at hd
      obtain ⟨l, hl, rfl⟩ := h.listed hd
      exact ⟨l, List.mem_filter.mpr ⟨hl, decide_eq_true hid⟩, rfl⟩
  distinct := List.Nodup.sublist (List.filter_sublist.map _) h.distinct

theorem Lists.holds_iff (h : t.Lists documents) {id : String} :
    t.holds id = true ↔ (documents id).isSome = true := by
  rw [holds, Bool.or_eq_true, List.any_eq_true, List.any_eq_true, Option.isSome_iff_exists]
  constructor
  · rintro (⟨r, hr, hid⟩ | ⟨l, hl, hid⟩)
    · obtain ⟨d, hd, -⟩ := h.mem_rows.mp hr
      exact ⟨d, eq_of_beq hid ▸ hd⟩
    · obtain ⟨d, -, hd, -⟩ := h.listing_row hl
      exact ⟨d, eq_of_beq hid ▸ hd⟩
  · rintro ⟨d, hd⟩
    obtain ⟨l, hl, rfl⟩ := h.listed hd
    exact .inr ⟨l, hl, beq_self_eq_true _⟩

/-- The rows of an id are those of a document. -/
structure Keeps (t : TextTables) (d : Document) : Prop where
  row : ∀ r, r ∈ t.rows ∧ r.id = d.id ↔ r = TextRow.ofEntry d.toEntry
  listing : ∃ l ∈ t.listing, l.id = d.id
  listing_row : ∀ l ∈ t.listing, l.id = d.id →
    ∃ created, l = ListingRow.ofEntry d.toEntry created l.updatedAt

theorem Lists.keeps (h : t.Lists documents) {id : String} {d : Document} (hd : documents id = some d) :
    t.Keeps d where
  row := by
    intro r
    have hname : d.id = id := h.named hd
    rw [h.mem_rows]
    constructor
    · rintro ⟨⟨d', hd', hr⟩, hid⟩
      rw [hid, hname, hd] at hd'
      rw [hr, Option.some_inj.mp hd']
    · rintro rfl
      exact ⟨⟨d, (congrArg documents hname).trans hd, rfl⟩, rfl⟩
  listing := by
    obtain ⟨l, hl, hid⟩ := h.listed hd
    exact ⟨l, hl, hid.trans (h.named hd).symm⟩
  listing_row := by
    intro l hl hid
    obtain ⟨d', created, hd', hrow⟩ := h.listing_row hl
    rw [hid, h.named hd, hd] at hd'
    rw [Option.some_inj.mp hd']
    exact ⟨created, hrow⟩

end TextTables

namespace TextIndex

theorem lists_createTables {config : TextConfig} {tables : TextTables}
    (h : createTables config = .ok tables) : tables.Lists fun _ => none := by
  rw [createTables] at h
  split at h
  · cases h
  · split at h
    · cases h
    · obtain rfl := Except.ok.inj h
      exact .empty rfl rfl

theorem open_ok {config : TextConfig} {clock : Nat} {ix : TextIndex}
    (h : TextIndex.open config none clock = .ok ix) :
    ix.isOpen = true ∧ ix.tables.Lists fun _ => none := by
  rw [TextIndex.open] at h
  split at h
  · cases h
  · obtain ⟨tables, htables, h⟩ := exists_of_bind_ok h
    obtain rfl := Except.ok.inj h
    exact ⟨rfl, lists_createTables htables⟩

theorem rebuild_ok {ix rebuilt : TextIndex} (h : ix.rebuild = .ok rebuilt) :
    rebuilt.isOpen = ix.isOpen ∧ rebuilt.tables.Lists fun _ => none := by
  rw [rebuild] at h
  obtain ⟨-, -, h⟩ := exists_of_bind_ok h
  obtain ⟨tables, htables, h⟩ := exists_of_bind_ok h
  obtain rfl := Except.ok.inj h
  exact ⟨rfl, lists_createTables htables⟩

theorem delete_of_isOpen {ix : TextIndex} (h : ix.isOpen = true) (id : String) :
    ix.delete id = .ok ({ ix with tables := ix.tables.remove id }, ix.tables.holds id) := by
  rw [delete, ensureOpen, if_pos h]
  rfl

theorem optimize_ok {ix optimized : TextIndex} (h : ix.optimize = .ok optimized) : optimized = ix := by
  rw [optimize] at h
  obtain ⟨-, -, h⟩ := exists_of_bind_ok h
  exact (Except.ok.inj h).symm

end TextIndex

end HybridSearch
