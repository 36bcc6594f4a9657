import HybridSearch.Engine.Search
import HybridSearch.Proofs.TextIndex.Tables

/-!
# What reading the text index gives

Searches, look-ups and listings of an index give entries of documents that its tables list. An entry tells
everything about its document but the embedding, and the time of its last write.
-/
namespace HybridSearch

/-- The metadata of a document comes back from the text that is kept of it. -/
def Document.ReadsBack (d : Document) : Prop :=
  (TextRow.ofEntry d.toEntry).metadata? = some d.metadata

def TextEntry.IsOf (e : TextEntry) (documents : String → Option Document) : Prop :=
  ∃ d, documents e.id = some d ∧ e = { d.toEntry with updatedAt := e.updatedAt }

/-- All of a document that is kept under its id but the embedding, with some time. -/
def Document.IsOf (shown : Document) (documents : String → Option Document) : Prop :=
  ∃ d, documents shown.id = some d ∧
    shown = { d with embedding := none, timestamp := shown.timestamp }

theorem TextEntry.IsOf.document {documents : String → Option Document} {e : TextEntry}
    (h : e.IsOf documents) {shown : Document} (hshown : e.document = .ok shown) :
    shown.IsOf documents ∧ shown.id = e.id := by
  obtain ⟨d, hd, he⟩ := h
  rw [he, TextEntry.document, TextEntry.toDocument?] at hshown
  simp only [Document.toEntry, DocumentKind.ofName?_name, Option.map_some] at hshown
  obtain rfl := Except.ok.inj hshown
  have hid : d.id = e.id := by rw [he]; rfl
  exact ⟨⟨d, hid ▸ hd, rfl⟩, hid⟩

namespace TextIndex

variable {ix : TextIndex} {documents : String → Option Document}

theorem entryOf_ofEntry (t : TextTables) (action : String) {d : Document} (h : d.ReadsBack) :
    t.entryOf action (TextRow.ofEntry d.toEntry) =
      .ok { d.toEntry with updatedAt := t.updatedAt d.id } := by
  rw [TextTables.entryOf, h]
  rfl

theorem entryOf_row (h : ix.tables.Lists documents)
    (hreads : ∀ {id d}, documents id = some d → d.ReadsBack) {action : String} {r : TextRow}
    (hr : r ∈ ix.tables.rows) {e : TextEntry} (he : ix.tables.entryOf action r = .ok e) :
    e.IsOf documents ∧ e.id = r.id := by
  obtain ⟨d, hd, hrow⟩ := h.mem_rows.mp hr
  rw [hrow, entryOf_ofEntry _ _ (hreads hd)] at he
  obtain rfl := Except.ok.inj he
  have hid : d.id = r.id := h.named hd
  exact ⟨⟨d, (congrArg documents hid).trans hd, rfl⟩, hid⟩

theorem mem_rankedRows {t : TextTables} {e : Query.Expression} {tenant : String}
    {r : TextRow × Binary64} (h : r ∈ rankedRows t e tenant) :
    r.1 ∈ t.rows ∧ belongsTo tenant r.1 = true := by
  rw [rankedRows, List.mem_mergeSort, List.mem_map] at h
  obtain ⟨found, hfound, rfl⟩ := h
  obtain ⟨hmem, hwanted⟩ := List.mem_filter.mp hfound
  obtain ⟨row, hrow, rfl⟩ := List.mem_map.mp hmem
  exact ⟨hrow, (Bool.and_eq_true_iff.mp hwanted).2⟩

theorem search_row {cancelled : Bool} {query tenant : String} {limit : Nat} {hits : List TextHit}
    (h : ix.search cancelled query tenant limit = .ok hits) {hit : TextHit} (hhit : hit ∈ hits) :
    ∃ r ∈ ix.tables.rows, belongsTo tenant r = true ∧
      ix.tables.entryOf "read search row" r = .ok hit.entry := by
  rw [search] at h
  split at h
  · cases h
  · obtain ⟨-, -, h⟩ := exists_of_bind_ok h
    dsimp only at h
    split at h
    · cases h
    · split at h
      · obtain rfl := Except.ok.inj h
        cases hhit
      · split at h
        · cases h
        · obtain ⟨-, -, h⟩ := exists_of_bind_ok h
          obtain ⟨r, hr, hentry⟩ := exists_of_mapM_ok h hhit
          obtain ⟨entry, hread, hpair⟩ := exists_of_bind_ok hentry
          obtain rfl := Except.ok.inj hpair
          obtain ⟨hrow, htenant⟩ := mem_rankedRows (List.mem_of_mem_take hr)
          exact ⟨r.1, hrow, htenant, hread⟩

theorem ranked_hit {query tenant : String} {limit : Nat} {ranking : List Scored}
    (h : ix.ranked query tenant limit = .ok ranking) {s : Scored} (hs : s ∈ ranking) :
    ∃ hits hit, ix.search false query tenant limit = .ok hits ∧ hit ∈ hits ∧
      hit.entry.document = .ok s.document := by
  rw [ranked] at h
  obtain ⟨hits, hsearch, h⟩ := exists_of_bind_ok h
  obtain ⟨hit, hhit, hscored⟩ := exists_of_mapM_ok h hs
  obtain ⟨d, hd, hpair⟩ := exists_of_bind_ok hscored
  obtain rfl := Except.ok.inj hpair
  exact ⟨hits, hit, ok_of_mapError hsearch, hhit, hd⟩

theorem search_isOf (h : ix.tables.Lists documents)
    (hreads : ∀ {id d}, documents id = some d → d.ReadsBack) {cancelled : Bool}
    {query tenant : String} {limit : Nat} {hits : List TextHit}
    (hsearch : ix.search cancelled query tenant limit = .ok hits) {hit : TextHit} (hhit : hit ∈ hits) :
    hit.entry.IsOf documents := by
  obtain ⟨r, hr, -, hentry⟩ := search_row hsearch hhit
  exact (entryOf_row h hreads hr hentry).1

theorem ranked_isOf (h : ix.tables.Lists documents)
    (hreads : ∀ {id d}, documents id = some d → d.ReadsBack) {query tenant : String} {limit : Nat}
    {ranking : List Scored} (hranked : ix.ranked query tenant limit = .ok ranking) {s : Scored}
    (hs : s ∈ ranking) : s.document.IsOf documents := by
  obtain ⟨hits, hit, hsearch, hhit, hd⟩ := ranked_hit hranked hs
  exact ((search_isOf h hreads hsearch hhit).document hd).1

theorem document_of_none (h : ix.tables.Lists documents) (hopen : ix.isOpen = true) {id : String}
    (hid : documents id = none) (tenant : String) : ix.document id tenant = .error (.notFound id) := by
  have hfind : (ix.tables.rows.find? fun r => r.id == id && belongsTo tenant r) = none := by
    rw [List.find?_eq_none]
    intro r hr hfound
    obtain ⟨d, hd, -⟩ := h.mem_rows.mp hr
    obtain ⟨heq, -⟩ := Bool.and_eq_true_iff.mp hfound
    rw [eq_of_beq heq, hid] at hd
    cases hd
  rw [document, ensureOpen, if_pos hopen, hfind]
  rfl

theorem find?_row (h : ix.tables.Lists documents) {id : String} {d : Document}
    (hid : documents id = some d) {tenant : String} (htenant : tenant = "" ∨ tenant = d.tenant) :
    (ix.tables.rows.find? fun r => r.id == id && belongsTo tenant r) =
      some (TextRow.ofEntry d.toEntry) := by
  have hname : d.id = id := h.named hid
  have hbelongs : belongsTo tenant (TextRow.ofEntry d.toEntry) = true := by
    rw [belongsTo, Bool.or_eq_true]
    rcases htenant with rfl | rfl
    · exact .inl rfl
    · exact .inr (beq_self_eq_true _)
  have hmem : TextRow.ofEntry d.toEntry ∈ ix.tables.rows :=
    h.mem_rows.mpr ⟨d, (congrArg documents hname).trans hid, rfl⟩
  have hmatch : ((TextRow.ofEntry d.toEntry).id == id &&
      belongsTo tenant (TextRow.ofEntry d.toEntry)) = true :=
    Bool.and_eq_true_iff.mpr ⟨beq_iff_eq.mpr hname, hbelongs⟩
  obtain ⟨r, hfind⟩ := Option.isSome_iff_exists.mp
    (List.find?_isSome.mpr ⟨_, hmem, hmatch⟩ :
      (ix.tables.rows.find? fun r => r.id == id && belongsTo tenant r).isSome = true)
  have hfound := List.find?_some hfind
  obtain ⟨heq, -⟩ := Bool.and_eq_true_iff.mp hfound
  obtain ⟨d', hd', hrow⟩ := h.mem_rows.mp (List.mem_of_find?_eq_some hfind)
  rw [eq_of_beq heq, hid] at hd'
  rw [hfind, hrow, Option.some_inj.mp hd']

theorem document_of_some (h : ix.tables.Lists documents) (hopen : ix.isOpen = true) {id : String}
    {d : Document} (hid : documents id = some d) (hreads : d.ReadsBack) {tenant : String}
    (htenant : tenant = "" ∨ tenant = d.tenant) :
    ix.document id tenant = .ok { d.toEntry with updatedAt := ix.tables.updatedAt id } := by
  rw [document, ensureOpen, if_pos hopen, find?_row h hid htenant]
  show ix.tables.entryOf "get document" (TextRow.ofEntry d.toEntry) = _
  rw [entryOf_ofEntry _ _ hreads, h.named hid]

theorem document_row {id tenant : String} {e : TextEntry} (h : ix.document id tenant = .ok e) :
    ∃ r ∈ ix.tables.rows, r.id = id ∧ belongsTo tenant r = true ∧
      ix.tables.entryOf "get document" r = .ok e := by
  rw [document] at h
  obtain ⟨-, -, h⟩ := exists_of_bind_ok h
  split at h
  · cases h
  · next r hfind =>
    have hfound := List.find?_some hfind
    obtain ⟨hid, htenant⟩ := Bool.and_eq_true_iff.mp hfound
    exact ⟨r, List.mem_of_find?_eq_some hfind, eq_of_beq hid, htenant, h⟩

theorem document_isOf (h : ix.tables.Lists documents)
    (hreads : ∀ {id d}, documents id = some d → d.ReadsBack) {id tenant : String} {e : TextEntry}
    (hdocument : ix.document id tenant = .ok e) : e.IsOf documents ∧ e.id = id := by
  obtain ⟨r, hr, hid, -, hentry⟩ := document_row hdocument
  obtain ⟨hof, hname⟩ := entryOf_row h hreads hr hentry
  exact ⟨hof, hname.trans hid⟩

theorem hydrate_entry {tenant : String} {metric : Metric} {neighbors : List Neighbor}
    {ranking : List Scored} (h : ix.hydrate tenant metric neighbors = .ok ranking) {s : Scored}
    (hs : s ∈ ranking) :
    ∃ id entry, ix.document id tenant = .ok entry ∧ entry.document = .ok s.document := by
  induction neighbors generalizing ranking with
  | nil =>
    obtain rfl := Except.ok.inj h
    cases hs
  | cons n rest ih =>
    rw [hydrate] at h
    split at h
    · exact ih h hs
    · cases h
    · next entry hentry =>
      obtain ⟨d, hd, h⟩ := exists_of_bind_ok h
      obtain ⟨others, hothers, h⟩ := exists_of_bind_ok h
      obtain rfl := Except.ok.inj h
      rcases List.mem_cons.mp hs with rfl | hother
      · exact ⟨n.id, entry, hentry, hd⟩
      · exact ih hothers hother

theorem hydrate_isOf (h : ix.tables.Lists documents)
    (hreads : ∀ {id d}, documents id = some d → d.ReadsBack) {tenant : String} {metric : Metric}
    {neighbors : List Neighbor} {ranking : List Scored}
    (hranking : ix.hydrate tenant metric neighbors = .ok ranking) {s : Scored} (hs : s ∈ ranking) :
    s.document.IsOf documents := by
  obtain ⟨id, entry, hentry, hd⟩ := hydrate_entry hranking hs
  exact ((document_isOf h hreads hentry).1.document hd).1

theorem mem_tenantRows {t : TextTables} {tenant : String} {r : TextRow} (h : r ∈ tenantRows t tenant) :
    r ∈ t.rows ∧ ∃ l ∈ t.listing, l.tenant = tenant ∧ r.id = l.id := by
  obtain ⟨l, hl, hr⟩ := List.mem_flatMap.mp h
  obtain ⟨hlisted, htenant⟩ := List.mem_filter.mp (List.mem_mergeSort.mp hl)
  obtain ⟨hrow, hid⟩ := List.mem_filter.mp hr
  exact ⟨hrow, l, hlisted, eq_of_beq htenant, eq_of_beq hid⟩

theorem tenantDocuments_row {tenant : String} {limit offset : Nat} {entries : List TextEntry}
    (h : ix.tenantDocuments tenant limit offset = .ok entries) {e : TextEntry} (he : e ∈ entries) :
    ∃ r ∈ tenantRows ix.tables tenant, ix.tables.entryOf "read tenant document" r = .ok e := by
  rw [tenantDocuments] at h
  split at h
  · cases h
  · obtain ⟨-, -, h⟩ := exists_of_bind_ok h
    obtain ⟨-, -, h⟩ := exists_of_bind_ok h
    obtain ⟨r, hr, hentry⟩ := exists_of_mapM_ok h he
    exact ⟨r, List.mem_of_mem_drop (List.mem_of_mem_take hr), hentry⟩

theorem tenantDocuments_isOf (h : ix.tables.Lists documents)
    (hreads : ∀ {id d}, documents id = some d → d.ReadsBack) {tenant : String} {limit offset : Nat}
    {entries : List TextEntry} (hentries : ix.tenantDocuments tenant limit offset = .ok entries)
    {e : TextEntry} (he : e ∈ entries) : e.IsOf documents := by
  obtain ⟨r, hr, hentry⟩ := tenantDocuments_row hentries he
  exact (entryOf_row h hreads (mem_tenantRows hr).1 hentry).1

end TextIndex

end HybridSearch
