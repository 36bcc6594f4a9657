import HybridSearch.Engine.Engine
import HybridSearch.Proofs.Ranking
import HybridSearch.Proofs.TextIndex.Catalogue
import HybridSearch.Proofs.TextIndex.Scoping

/-!
# The listing of a tenant

The entries of a tenant have one order: the last written comes first, and ties are in the order of the ids.
A listing answers a page of them, although its rows come from two tables that are written separately. An
offset that is no signed word is taken for none, so that a listing far beyond the end starts over.
-/
namespace HybridSearch

namespace TextTables

/-- The entries that are left of what has been written, with the time of the last write of each. -/
inductive Records : TextTables → Catalogue → Prop
  | empty {t : TextTables} (h : t.Lists fun _ => none) : Records t ∅
  | put {t : TextTables} {c : Catalogue} {e : TextEntry} (h : Records t c)
      (he : TextIndex.checkEntry e = .ok ()) (now : Int) :
      Records (t.put e now) (c.insert e.id { e with updatedAt := now })
  | remove {t : TextTables} {c : Catalogue} (h : Records t c) (id : String) :
      Records (t.remove id) (c.erase id)

variable {t : TextTables} {c : Catalogue} {e : TextEntry} {id tenant : String}

theorem reached_iff : t.Reached ↔ ∃ c, t.Records c := by
  constructor
  · intro h
    induction h with
    | empty h => exact ⟨∅, .empty h⟩
    | put _ he now ih =>
      obtain ⟨c, hc⟩ := ih
      exact ⟨_, hc.put he now⟩
    | remove _ id ih =>
      obtain ⟨c, hc⟩ := ih
      exact ⟨_, hc.remove id⟩
  · rintro ⟨c, h⟩
    induction h with
    | empty h => exact .empty h
    | put _ he now ih => exact ih.put he now
    | remove _ id ih => exact ih.remove id

theorem Records.index {ix written : TextIndex} (h : ix.tables.Records c)
    (hindex : ix.index e = .ok written) :
    written.tables.Records (c.insert e.id { e with updatedAt := (ix.clock + 1 : Nat) }) := by
  rw [TextIndex.index] at hindex
  obtain ⟨u, hcheck, hindex⟩ := exists_of_bind_ok hindex
  obtain ⟨-, -, hindex⟩ := exists_of_bind_ok hindex
  obtain rfl := Except.ok.inj hindex
  exact h.put hcheck _

theorem Records.exists_indexAll {ix written : TextIndex} {entries : List TextEntry} (h : ix.tables.Records c)
    (hindex : entries.foldlM TextIndex.index ix = .ok written) : ∃ c', written.tables.Records c' := by
  induction entries generalizing ix c with
  | nil => exact ⟨c, Except.ok.inj hindex ▸ h⟩
  | cons e entries ih =>
    obtain ⟨next, hfirst, hrest⟩ := exists_of_bind_ok hindex
    exact ih (h.index hfirst) hrest

theorem Records.id_eq (h : t.Records c) (hentry : c.lookup id = some e) : e.id = id := by
  induction h with
  | empty => cases hentry
  | @put t c written _ _ now ih =>
    by_cases hid : id = written.id
    · rw [hid, Finmap.lookup_insert] at hentry
      rw [← Option.some_inj.mp hentry, hid]
    · rw [Finmap.lookup_insert_of_ne _ hid] at hentry
      exact ih hentry
  | remove _ other ih =>
    by_cases hid : id = other
    · rw [hid, Finmap.lookup_erase] at hentry
      cases hentry
    · rw [Finmap.lookup_erase_ne hid] at hentry
      exact ih hentry

theorem Records.rowsOf (h : t.Records c) (id : String) :
    t.rowsOf id = ((c.lookup id).map TextRow.ofEntry).toList := by
  induction h with
  | @empty t h =>
    refine List.filter_eq_nil_iff.mpr fun r hr _ => ?_
    obtain ⟨d, hd, -⟩ := h.mem_rows.mp hr
    cases hd
  | @put t c written _ _ now ih =>
    rw [rowsOf_put]
    by_cases hid : id = written.id
    · rw [if_pos hid, hid, Finmap.lookup_insert]
      rfl
    · rw [if_neg hid, Finmap.lookup_insert_of_ne _ hid, ih]
  | remove _ other ih =>
    rw [rowsOf_remove]
    by_cases hid : id = other
    · rw [if_pos hid, hid, Finmap.lookup_erase]
      rfl
    · rw [if_neg hid, Finmap.lookup_erase_ne hid, ih]

theorem Records.listingOf (h : t.Records c) (id : String) : ∃ created,
    t.listingOf id = ((c.lookup id).map fun e => ListingRow.ofEntry e created e.updatedAt).toList := by
  induction h with
  | @empty t h =>
    refine ⟨0, List.filter_eq_nil_iff.mpr fun l hl _ => ?_⟩
    obtain ⟨d, created, hd, -⟩ := h.listing_row hl
    cases hd
  | @put t c written _ _ now ih =>
    by_cases hid : id = written.id
    · obtain ⟨created, hput⟩ := t.listingOf_put_self written now
      obtain ⟨_, hold⟩ := ih
      refine ⟨created, ?_⟩
      rw [hid] at hold
      rw [hid, hput, hold, Finmap.lookup_insert]
      cases c.lookup written.id <;> rfl
    · rw [listingOf_put_of_ne _ _ hid, Finmap.lookup_insert_of_ne _ hid]
      exact ih
  | remove _ other ih =>
    rw [listingOf_remove]
    by_cases hid : id = other
    · rw [if_pos hid, hid, Finmap.lookup_erase]
      exact ⟨0, rfl⟩
    · rw [if_neg hid, Finmap.lookup_erase_ne hid]
      exact ih

theorem Records.listed (h : t.Records c) {l : ListingRow} (hl : l ∈ t.listing) :
    ∃ e created, c.lookup l.id = some e ∧ l = ListingRow.ofEntry e created e.updatedAt := by
  obtain ⟨created, hlisting⟩ := h.listingOf l.id
  have hrow : l ∈ t.listingOf l.id := List.mem_filter.mpr ⟨hl, beq_self_eq_true _⟩
  rw [hlisting, Option.mem_toList, Option.map_eq_some_iff] at hrow
  obtain ⟨e, hentry, hrow⟩ := hrow
  exact ⟨e, created, hentry, hrow.symm⟩

theorem Records.exists_listed (h : t.Records c) (hentry : c.lookup id = some e) :
    ∃ l ∈ t.listing, l.id = id ∧ l.tenant = e.tenant := by
  obtain ⟨created, hlisting⟩ := h.listingOf id
  rw [hentry] at hlisting
  have hrow : ListingRow.ofEntry e created e.updatedAt ∈ t.listingOf id :=
    hlisting ▸ List.mem_singleton_self _
  exact ⟨_, (List.mem_filter.mp hrow).1, h.id_eq hentry, rfl⟩

theorem Records.updatedAt (h : t.Records c) (hentry : c.lookup id = some e) :
    t.updatedAt id = e.updatedAt := by
  obtain ⟨created, hlisting⟩ := h.listingOf id
  rw [updatedAt_eq, hlisting, hentry]
  rfl

end TextTables

namespace Catalogue

/-- All entries of a tenant, the last written first, in the order of their ids where the times agree. -/
structure ListingOf (c : Catalogue) (tenant : String) (entries : List TextEntry) : Prop where
  mem_iff : ∀ e, e ∈ entries ↔ c.lookup e.id = some e ∧ e.tenant = tenant
  ordered : entries.Pairwise (Ahead (fun e => e.updatedAt) fun e => e.id)

theorem ListingOf.unique {c : Catalogue} {tenant : String} {entries others : List TextEntry}
    (h : c.ListingOf tenant entries) (h' : c.ListingOf tenant others) : entries = others := by
  have hdistinct {es : List TextEntry} (hes : c.ListingOf tenant es) : es.Nodup := by
    refine hes.ordered.imp ?_
    rintro e _ hahead rfl
    exact Ahead.irrefl e hahead
  refine eq_of_pairwise_ahead h.ordered h'.ordered ?_
  exact (List.perm_ext_iff_of_nodup (hdistinct h) (hdistinct h')).mpr fun e =>
    (h.mem_iff e).trans (h'.mem_iff e).symm

end Catalogue

namespace TextIndex

variable {ix : TextIndex} {t : TextTables} {c : Catalogue} {tenant : String}

theorem listedBefore_sortsBy :
    SortsBy (fun l : ListingRow => l.updatedAt) (fun l => l.id) listedBefore := by
  intro a b
  rw [listedBefore]
  rcases Int.lt_trichotomy b.updatedAt a.updatedAt with h | h | h
  · simp [h]
  · simp [h]
  · simp [h, Int.not_lt.mpr (Int.le_of_lt h), Int.ne_of_lt h]

theorem tenantRows_eq_insertionSort (h : (t.listing.map fun l => l.id).Nodup) (tenant : String) :
    tenantRows t tenant = ((t.listing.filter fun l => l.tenant == tenant).insertionSort fun a b =>
      listedBefore a b = true).flatMap fun l => t.rows.filter fun r => r.id == l.id := by
  rw [tenantRows, listedBefore_sortsBy.mergeSort_eq_insertionSort (h.sublist (List.filter_sublist.map _))]

theorem exists_listingOf (h : t.Records c) (tenant : String) : ∃ entries,
    c.ListingOf tenant entries ∧ tenantRows t tenant = entries.map TextRow.ofEntry := by
  have hlisted : ∀ l ∈ (t.listing.filter fun r => r.tenant == tenant).mergeSort listedBefore,
      l ∈ t.listing ∧ l.tenant = tenant := by
    intro l hl
    obtain ⟨hmem, htenant⟩ := List.mem_filter.mp (List.mem_mergeSort.mp hl)
    exact ⟨hmem, eq_of_beq htenant⟩
  have hids : ((t.listing.filter fun r => r.tenant == tenant).map fun l => l.id).Nodup :=
    (TextTables.reached_iff.mpr ⟨c, h⟩).tenanted.distinct.sublist (List.filter_sublist.map _)
  have hsorted := listedBefore_sortsBy.pairwise_mergeSort hids
  refine ⟨((t.listing.filter fun r => r.tenant == tenant).mergeSort listedBefore).filterMap
    fun l => c.lookup l.id, ⟨fun e => ?_, ?_⟩, ?_⟩
  · rw [List.mem_filterMap]
    constructor
    · rintro ⟨l, hl, hentry⟩
      obtain ⟨hmem, htenant⟩ := hlisted l hl
      obtain ⟨e', created, hentry', hrow⟩ := h.listed hmem
      obtain rfl := Option.some_inj.mp (hentry'.symm.trans hentry)
      rw [h.id_eq hentry]
      rw [hrow] at htenant
      exact ⟨hentry, htenant⟩
    · rintro ⟨hentry, htenant⟩
      obtain ⟨l, hl, hid, howner⟩ := h.exists_listed hentry
      refine ⟨l, List.mem_mergeSort.mpr (List.mem_filter.mpr ⟨hl, ?_⟩), hid ▸ hentry⟩
      rw [howner, htenant]
      exact beq_self_eq_true _
  · rw [List.pairwise_filterMap]
    refine hsorted.imp_of_mem fun {l l'} hl hl' hahead e he e' he' => ?_
    -- the keys of a listing row are those of the entry
    obtain ⟨_, _, hentry, hrow⟩ := h.listed (hlisted l hl).1
    obtain rfl := Option.some_inj.mp (hentry.symm.trans he)
    obtain ⟨_, _, hentry', hrow'⟩ := h.listed (hlisted l' hl').1
    obtain rfl := Option.some_inj.mp (hentry'.symm.trans he')
    rw [hrow, hrow'] at hahead
    exact hahead
  · rw [List.map_filterMap, List.filterMap_eq_flatMap_toList, tenantRows]
    exact List.flatMap_congr fun l _ => h.rowsOf l.id

/-- What an entry is read as; only its metadata may come back changed, or not at all. -/
def reread (e : TextEntry) : Except TextError TextEntry :=
  match (TextRow.ofEntry e).metadata? with
  | some metadata => .ok { e with metadata }
  | none => .error (.database (.unreadableMetadata "read tenant document"))

def present (ix : TextIndex) (page : List TextEntry) : Except TextError (List TextEntry) := do
  ix.ensureOpen
  page.mapM reread

theorem present_of_readsBack {page : List TextEntry} (hopen : ix.isOpen = true)
    (h : ∀ e ∈ page, e.ReadsBack) : ix.present page = .ok page := by
  have hread : page.mapM reread = .ok page := by
    refine mapM_ok_iff.mpr (List.forall₂_same.mpr fun e he => ?_)
    rw [reread, h e he]
  rw [present, ensureOpen, if_pos hopen, hread]
  rfl

theorem entryOf_listed (h : t.Records c) {entries : List TextEntry} (hlisting : c.ListingOf tenant entries)
    {e : TextEntry} (he : e ∈ entries) :
    t.entryOf "read tenant document" (TextRow.ofEntry e) = reread e := by
  rw [TextTables.entryOf, reread]
  cases (TextRow.ofEntry e).metadata? with
  | none => rfl
  | some metadata =>
    have htime := h.updatedAt ((hlisting.mem_iff e).mp he).1
    exact congrArg (fun time => Except.ok { e with metadata, updatedAt := time }) htime

theorem tenantDocuments_eq (h : ix.tables.Records c) (htenant : Tenant.isValid tenant = true)
    {limit : Nat} (hlimit : 1 ≤ limit ∧ limit ≤ maxSearchLimit) : ∃ entries,
    c.ListingOf tenant entries ∧ ∀ offset, ix.tenantDocuments tenant limit offset =
      ix.present ((entries.drop (skipped offset)).take limit) := by
  obtain ⟨entries, hlisting, hrows⟩ := exists_listingOf h tenant
  refine ⟨entries, hlisting, fun offset => ?_⟩
  have hpage : (((tenantRows ix.tables tenant).drop (skipped offset)).take limit).mapM
      (ix.tables.entryOf "read tenant document") =
        ((entries.drop (skipped offset)).take limit).mapM reread := by
    rw [hrows, ← List.map_drop, ← List.map_take, List.mapM_map]
    refine mapM_congr fun e he => entryOf_listed h hlisting ?_
    exact List.mem_of_mem_drop (List.mem_of_mem_take he)
  rw [tenantDocuments, htenant, checkLimit, if_pos hlimit, hpage]
  rfl

/-- How listings answer a tenant's pages of a size when the tenant has these entries: an offset within the
range of a signed word leaves out as many of them, and any other leaves out none. -/
structure Pages (ix : TextIndex) (tenant : String) (limit : Nat) (entries : List TextEntry) : Prop where
  page : ∀ offset < 2 ^ 63,
    ix.tenantDocuments tenant limit offset = ix.present ((entries.drop offset).take limit)
  answered : ix.isOpen = true → ∀ offset < 2 ^ 63,
    (∀ e ∈ (entries.drop offset).take limit, e.ReadsBack) →
      ix.tenantDocuments tenant limit offset = .ok ((entries.drop offset).take limit)
  past : ix.isOpen = true → ∀ offset < 2 ^ 63, entries.length ≤ offset →
    ix.tenantDocuments tenant limit offset = .ok []
  wrapped : ∀ offset ≥ 2 ^ 63,
    ix.tenantDocuments tenant limit offset = ix.tenantDocuments tenant limit 0

theorem skipped_of_lt {offset : Nat} (h : offset < 2 ^ 63) : skipped offset = offset := if_pos h

theorem skipped_of_ge {offset : Nat} (h : offset ≥ 2 ^ 63) : skipped offset = skipped 0 :=
  if_neg (Nat.not_lt.mpr h)

theorem exists_pages (h : ix.tables.Records c) (htenant : Tenant.isValid tenant = true) {limit : Nat}
    (hlimit : 1 ≤ limit ∧ limit ≤ maxSearchLimit) :
    ∃ entries, c.ListingOf tenant entries ∧ ix.Pages tenant limit entries := by
  obtain ⟨entries, hlisting, heq⟩ := tenantDocuments_eq h htenant hlimit
  have hpage : ∀ offset < 2 ^ 63,
      ix.tenantDocuments tenant limit offset = ix.present ((entries.drop offset).take limit) := by
    intro offset hoffset
    rw [heq, skipped_of_lt hoffset]
  have hanswered : ix.isOpen = true → ∀ offset < 2 ^ 63,
      (∀ e ∈ (entries.drop offset).take limit, e.ReadsBack) →
        ix.tenantDocuments tenant limit offset = .ok ((entries.drop offset).take limit) := by
    intro hopen offset hoffset hreads
    rw [hpage offset hoffset, present_of_readsBack hopen hreads]
  refine ⟨entries, hlisting, hpage, hanswered, fun hopen offset hoffset hlength => ?_,
    fun offset hoffset => ?_⟩
  · have hnone : (entries.drop offset).take limit = [] := by
      rw [List.drop_eq_nil_of_le hlength, List.take_nil]
    have hall := hanswered hopen offset hoffset
    rw [hnone] at hall
    exact hall fun e he => nomatch he
  · rw [heq, heq, skipped_of_ge hoffset]

end TextIndex

theorem Engine.tenantDocuments_eq (e : Engine) (tenant : String) {limit : Nat}
    (hlimit : 1 ≤ limit ∧ limit ≤ maxSearchLimit) (offset : Nat) :
    e.tenantDocuments tenant limit offset =
      (e.indexes.text.tenantDocuments tenant limit offset).mapError .text >>= fun entries =>
        entries.mapM (·.document) := by
  have hsize : e.config.pageSize limit = .ok limit := by
    rw [EngineConfig.pageSize, if_neg (Nat.one_le_iff_ne_zero.mp hlimit.1),
      if_neg (Nat.not_lt.mpr hlimit.2)]
  rw [Engine.tenantDocuments, Indexes.tenantDocuments, hsize]
  rfl

/-- A listing of a tenant is a page of all its entries, the last written first, as long as the offset is a
signed word. -/
theorem TextIndex.tenantDocuments_pages {ix : TextIndex} {c : Catalogue} (h : ix.tables.Records c)
    {tenant : String} (htenant : Tenant.isValid tenant = true) {limit : Nat}
    (hlimit : 1 ≤ limit ∧ limit ≤ maxSearchLimit) :
    ∃ entries, c.ListingOf tenant entries ∧ ix.Pages tenant limit entries ∧
      ∀ e : Engine, e.indexes.text = ix → ∀ offset, e.tenantDocuments tenant limit offset =
        (ix.tenantDocuments tenant limit offset).mapError .text >>= fun page =>
          page.mapM (·.document) := by
  obtain ⟨entries, hlisting, hpages⟩ := exists_pages h htenant hlimit
  refine ⟨entries, hlisting, hpages, fun e he offset => ?_⟩
  rw [← he]
  exact e.tenantDocuments_eq tenant hlimit offset

namespace TextIndex

theorem records_refundIndex {ix : TextIndex} (h : refundIndex {} = .ok ix) :
    ix.tables.Records (Finmap.insert "a" { refundEntry with updatedAt := 1 } ∅) := by
  obtain ⟨opened, hopen, hindex⟩ := exists_of_bind_ok h
  have hclock : opened.clock = 0 := by
    rw [TextIndex.open] at hopen
    split at hopen
    · cases hopen
    · obtain ⟨_, -, hopen⟩ := exists_of_bind_ok hopen
      obtain rfl := Except.ok.inj hopen
      rfl
  have hwritten := TextTables.Records.index (.empty (open_ok hopen).2) hindex
  rw [hclock] at hwritten
  exact hwritten

/-- Of the two entries of a tenant the last written comes first; the entry of another is left out. -/
theorem tenantDocuments_pages_refund : ∃ ix c, sharedIndex = .ok ix ∧ ix.tables.Records c ∧
    Tenant.isValid "t1" = true ∧ (1 ≤ 10 ∧ 10 ≤ maxSearchLimit) ∧
    ∃ entries, entries.map (·.id) = ["c", "a"] ∧ c.ListingOf "t1" entries ∧ ix.Pages "t1" 10 entries ∧
      ∀ e : Engine, e.indexes.text = ix → ∀ offset, e.tenantDocuments "t1" 10 offset =
        (ix.tenantDocuments "t1" 10 offset).mapError .text >>= fun page =>
          page.mapM (·.document) := by
  have hrows : (sharedIndex.toOption.map fun ix => (ix.tables.listing.map (·.id),
      (((ix.tables.listing.filter fun l => l.tenant == "t1").insertionSort fun a b =>
        listedBefore a b = true).flatMap fun l => ix.tables.rows.filter fun r => r.id == l.id).map (·.id))) =
          some (["a", "b", "c"], ["c", "a"]) := by decide +kernel
  obtain ⟨ix, hix, hrows⟩ := Option.map_eq_some_iff.mp hrows
  obtain ⟨hlisting, hids⟩ := Prod.mk.inj hrows
  have hindex := ok_of_toOption hix
  obtain ⟨opened, hopen, hwritten⟩ := exists_of_bind_ok hindex
  obtain ⟨c, hrecords⟩ := TextTables.Records.exists_indexAll (.empty (open_ok hopen).2) hwritten
  have hvalid : Tenant.isValid "t1" = true := by decide
  have hlimit : 1 ≤ 10 ∧ 10 ≤ maxSearchLimit := by decide
  obtain ⟨entries, hentries, hpages⟩ := tenantDocuments_pages hrecords hvalid hlimit
  refine ⟨ix, c, hindex, hrecords, hvalid, hlimit, entries, ?_, hentries, hpages⟩
  obtain ⟨others, hothers, hshown⟩ := exists_listingOf hrecords "t1"
  have hdistinct : (ix.tables.listing.map fun l => l.id).Nodup := by
    rw [hlisting]
    decide
  rw [← tenantRows_eq_insertionSort hdistinct, hshown, List.map_map] at hids
  rw [hentries.unique hothers]
  exact hids

/-- A tenant has one document; a listing that leaves out many more answers it all the same. -/
theorem tenantDocuments_starts_over : ∃ ix c entries page, refundIndex {} = .ok ix ∧
    ix.tables.Records c ∧ Tenant.isValid "t1" = true ∧ c.ListingOf "t1" entries ∧
      entries.length ≤ 2 ^ 63 ∧ 2 ^ 63 < 2 ^ 64 ∧ ix.tenantDocuments "t1" 10 (2 ^ 63) = .ok page ∧
      page.map (·.id) = ["a"] ∧ page ≠ (entries.drop (2 ^ 63)).take 10 := by
  have hlisting : ((refundIndex {}).toOption.bind fun ix =>
      (ix.tenantDocuments "t1" 10 (2 ^ 63)).toOption.map fun page =>
        ((tenantRows ix.tables "t1").length, page.map (·.id))) = some (1, ["a"]) := by decide +kernel
  obtain ⟨ix, hix, hpage⟩ := Option.bind_eq_some_iff.mp hlisting
  obtain ⟨page, hpage, hboth⟩ := Option.map_eq_some_iff.mp hpage
  obtain ⟨hlength, hids⟩ := Prod.mk.inj hboth
  have hrecords := records_refundIndex (ok_of_toOption hix)
  obtain ⟨entries, hentries, hrows⟩ := exists_listingOf hrecords "t1"
  rw [hrows, List.length_map] at hlength
  have hend : entries.length ≤ 2 ^ 63 := by omega
  refine ⟨ix, _, entries, page, ok_of_toOption hix, hrecords, by decide, hentries, hend, by decide,
    ok_of_toOption hpage, hids, fun heq => ?_⟩
  rw [heq, List.drop_eq_nil_of_le hend] at hids
  cases hids

end TextIndex

end HybridSearch
