import HybridSearch.Proofs.Except
import HybridSearch.Proofs.Json.ReadBack
import HybridSearch.Proofs.TextIndex.Figures
import Mathlib.Algebra.BigOperators.Group.Finset.Basic
import Mathlib.Data.Finmap

/-!
# The text index is a map

Whatever calls change it, the text index stands for a map from ids to entries. Both tables have exactly one
row for each id of the map and no others, and everything that the index tells can be read off the map. An
index is opened again with the settings that it was created with.
-/
namespace HybridSearch

abbrev Catalogue := Finmap fun _ : String => TextEntry

/-- A call that may change a text index. -/
inductive TextCall where
  | index (entry : TextEntry)
  | delete (id : String)
  | optimize
  | rebuild
  | close
  | reopen

/-- The metadata of an entry come back from the text that is kept of them. -/
def TextEntry.ReadsBack (e : TextEntry) : Prop :=
  (TextRow.ofEntry e).metadata? = some e.metadata

namespace TextIndex

/-- A call that fails leaves the index as it was: it fails before it writes, or its transaction does not
come through. A rebuild, which is no transaction, cannot fail with settings that the tables were created
with. -/
def answered (ix : TextIndex) : Except TextError (TextIndex × Bool) → TextIndex × Except TextError Bool
  | .ok (next, answer) => (next, .ok answer)
  | .error e => (ix, .error e)

/-- What a call makes of an index, with its answer. An index in a file finds its tables again when it is
opened once more; one in memory starts with new ones. -/
def call (isFile : Bool) (ix : TextIndex) : TextCall → TextIndex × Except TextError Bool
  | .index e => ix.answered ((ix.index e).map fun next => (next, true))
  | .delete id => ix.answered (ix.delete id)
  | .optimize => ix.answered (ix.optimize.map fun next => (next, true))
  | .rebuild => ix.answered (ix.rebuild.map fun next => (next, true))
  | .close => (ix.close, .ok true)
  | .reopen =>
    let stored := if isFile then some ix.tables else none
    ix.answered ((TextIndex.open ix.config stored ix.clock).map fun next => (next, true))

/-- An index after several calls, with their answers. -/
def calls (isFile : Bool) (ix : TextIndex) : List TextCall → TextIndex × List (Except TextError Bool)
  | [] => (ix, [])
  | c :: cs =>
    let (ix, answer) := ix.call isFile c
    let (ix, answers) := ix.calls isFile cs
    (ix, answer :: answers)

end TextIndex

/-- What a text index stands for. -/
structure Shelf where
  entries : Catalogue := ∅
  isOpen : Bool := true

namespace Shelf

/-- What a call makes of the map, with its answer. -/
def call (isFile : Bool) (s : Shelf) : TextCall → Shelf × Except TextError Bool
  | .index e =>
    if e.id = "" then (s, .error .emptyId)
    else if Tenant.isValid e.tenant = false then (s, .error (.invalidTenant e.tenant))
    else if s.isOpen then ({ s with entries := s.entries.insert e.id e }, .ok true)
    else (s, .error .closed)
  | .delete id =>
    if s.isOpen then ({ s with entries := s.entries.erase id }, .ok (decide (id ∈ s.entries)))
    else (s, .error .closed)
  | .optimize => (s, if s.isOpen then .ok true else .error .closed)
  | .rebuild => if s.isOpen then ({ s with entries := ∅ }, .ok true) else (s, .error .closed)
  | .close => ({ s with isOpen := false }, .ok true)
  | .reopen => ({ entries := if isFile then s.entries else ∅ }, .ok true)

def calls (isFile : Bool) (s : Shelf) : List TextCall → Shelf × List (Except TextError Bool)
  | [] => (s, [])
  | c :: cs =>
    let (s, answer) := s.call isFile c
    let (s, answers) := s.calls isFile cs
    (s, answer :: answers)

/-- The characters of the content that is kept under an id. -/
def contentLength (s : Shelf) (id : String) : Nat := ((s.entries.lookup id).map (·.content.length)).getD 0

def kind? (s : Shelf) (id : String) : Option String := (s.entries.lookup id).map (·.kind)

/-- What a look-up gives, without the time of the last write. -/
def document (s : Shelf) (id tenant : String) : Except TextError TextEntry :=
  match s.entries.lookup id with
  | some e => if tenant = "" ∨ tenant = e.tenant then .ok e else .error (.notFound id)
  | none => .error (.notFound id)

end Shelf

namespace TextTables

def rowsOf (t : TextTables) (id : String) : List TextRow := t.rows.filter fun r => r.id == id

def listingOf (t : TextTables) (id : String) : List ListingRow := t.listing.filter fun l => l.id == id

theorem updatedAt_eq (t : TextTables) (id : String) :
    t.updatedAt id = ((t.listingOf id).head?.map fun l => l.updatedAt).getD 0 := by
  rw [updatedAt, listingOf, List.head?_filter]

theorem filter_ne_filter {α : Type} (name : α → String) (rows : List α) (id other : String) :
    ((rows.filter fun r => decide (name r ≠ other)).filter fun r => name r == id) =
      if id = other then [] else rows.filter fun r => name r == id := by
  rw [List.filter_filter]
  split
  · next heq =>
    refine List.filter_eq_nil_iff.mpr fun r _ hboth => ?_
    obtain ⟨hsame, hne⟩ := Bool.and_eq_true_iff.mp hboth
    exact of_decide_eq_true hne ((eq_of_beq hsame).trans heq)
  · next hother =>
    refine List.filter_congr fun r _ => ?_
    by_cases hsame : name r = id
    · rw [beq_iff_eq.mpr hsame, decide_eq_true (hsame ▸ hother)]
      rfl
    · rw [beq_false_of_ne hsame]
      rfl

theorem rowsOf_put (t : TextTables) (e : TextEntry) (now : Int) (id : String) :
    (t.put e now).rowsOf id = if id = e.id then [TextRow.ofEntry e] else t.rowsOf id := by
  rw [rowsOf, put, List.filter_append, filter_ne_filter TextRow.id]
  by_cases hid : id = e.id
  · simp [hid, TextRow.ofEntry]
  · simp [hid, TextRow.ofEntry, rowsOf, Ne.symm hid]

theorem rowsOf_remove (t : TextTables) (id other : String) :
    (t.remove id).rowsOf other = if other = id then [] else t.rowsOf other :=
  filter_ne_filter TextRow.id t.rows other id

theorem listingOf_remove (t : TextTables) (id other : String) :
    (t.remove id).listingOf other = if other = id then [] else t.listingOf other :=
  filter_ne_filter ListingRow.id t.listing other id

theorem listingOf_put_self (t : TextTables) (e : TextEntry) (now : Int) : ∃ created,
    (t.put e now).listingOf e.id = ListingRow.ofEntry e created now :: (t.listingOf e.id).tail := by
  rw [listingOf, put, listingOf]
  dsimp only
  induction t.listing with
  | nil => exact ⟨now, by simp [upsert, ListingRow.ofEntry]⟩
  | cons row rest ih =>
    by_cases hrow : row.id = e.id
    · exact ⟨row.createdAt, by simp [upsert, hrow, ListingRow.ofEntry]⟩
    · obtain ⟨created, ih⟩ := ih
      exact ⟨created, by simpa [upsert, hrow] using ih⟩

theorem listingOf_put_of_ne (t : TextTables) {e : TextEntry} (now : Int) {id : String}
    (hid : id ≠ e.id) : (t.put e now).listingOf id = t.listingOf id := by
  rw [listingOf, put, listingOf]
  dsimp only
  induction t.listing with
  | nil => simp [upsert, ListingRow.ofEntry, Ne.symm hid]
  | cons row rest ih =>
    by_cases hrow : row.id = e.id
    · simp [upsert, hrow, ListingRow.ofEntry, Ne.symm hid]
    · simp [upsert, hrow, List.filter_cons, ih]

end TextTables

namespace TextIndex

/-- The tables have a row each for every id of the map; the index can start over. -/
structure Mirrors (ix : TextIndex) (s : Shelf) : Prop where
  isOpen : ix.isOpen = s.isOpen
  rows : ∀ id, ix.tables.rowsOf id = ((s.entries.lookup id).map TextRow.ofEntry).toList
  listing : ∀ id, ∃ created updated, ix.tables.listingOf id =
    ((s.entries.lookup id).map fun e => ListingRow.ofEntry e created updated).toList
  valid : ix.config.validate = .ok ()
  creatable : ∃ tables, createTables ix.config = .ok tables

variable {ix : TextIndex} {s : Shelf}

theorem mirrors_empty {config : TextConfig} {tables : TextTables} (hvalid : config.validate = .ok ())
    (htables : createTables config = .ok tables) (clock : Nat) :
    ({ config, tables, clock } : TextIndex).Mirrors {} := by
  have hempty : tables.rows = [] ∧ tables.listing = [] := by
    rw [createTables] at htables
    split at htables
    · cases htables
    · split at htables
      · cases htables
      · obtain rfl := Except.ok.inj htables
        exact ⟨rfl, rfl⟩
  refine ⟨rfl, fun id => ?_, fun id => ⟨0, 0, ?_⟩, hvalid, tables, htables⟩
  · rw [TextTables.rowsOf, hempty.1]
    rfl
  · rw [TextTables.listingOf, hempty.2]
    rfl

theorem mirrors_open {config : TextConfig} {clock : Nat} (hopen : TextIndex.open config none clock = .ok ix) :
    ix.Mirrors {} := by
  rw [TextIndex.open] at hopen
  split at hopen
  · cases hopen
  · next hvalid =>
    obtain ⟨tables, htables, hopen⟩ := exists_of_bind_ok hopen
    obtain rfl := Except.ok.inj hopen
    exact mirrors_empty hvalid htables clock

theorem checkEntry_eq (e : TextEntry) : checkEntry e =
    if e.id = "" then .error .emptyId
    else if Tenant.isValid e.tenant = false then .error (.invalidTenant e.tenant)
    else .ok () := by
  simp only [checkEntry, String.isEmpty_iff, Bool.not_eq_true']

theorem Mirrors.put (h : ix.Mirrors s) (e : TextEntry) (now : Int) (clock : Nat) :
    ({ ix with tables := ix.tables.put e now, clock } : TextIndex).Mirrors
      { s with entries := s.entries.insert e.id e } where
  isOpen := h.isOpen
  rows id := by
    rw [TextTables.rowsOf_put]
    by_cases hid : id = e.id
    · rw [if_pos hid, hid, Finmap.lookup_insert]
      rfl
    · rw [if_neg hid, Finmap.lookup_insert_of_ne _ hid]
      exact h.rows id
  listing id := by
    by_cases hid : id = e.id
    · obtain ⟨created, hput⟩ := ix.tables.listingOf_put_self e now
      obtain ⟨_, _, hold⟩ := h.listing e.id
      refine ⟨created, now, ?_⟩
      rw [hid, hput, hold, Finmap.lookup_insert]
      cases s.entries.lookup e.id <;> rfl
    · obtain ⟨created, updated, hold⟩ := h.listing id
      refine ⟨created, updated, ?_⟩
      rw [TextTables.listingOf_put_of_ne _ _ hid, Finmap.lookup_insert_of_ne _ hid]
      exact hold
  valid := h.valid
  creatable := h.creatable

theorem Mirrors.remove (h : ix.Mirrors s) (id : String) :
    ({ ix with tables := ix.tables.remove id } : TextIndex).Mirrors
      { s with entries := s.entries.erase id } where
  isOpen := h.isOpen
  rows other := by
    rw [TextTables.rowsOf_remove]
    by_cases hid : other = id
    · rw [if_pos hid, hid, Finmap.lookup_erase]
      rfl
    · rw [if_neg hid, Finmap.lookup_erase_ne hid]
      exact h.rows other
  listing other := by
    by_cases hid : other = id
    · refine ⟨0, 0, ?_⟩
      rw [TextTables.listingOf_remove, if_pos hid, hid, Finmap.lookup_erase]
      rfl
    · obtain ⟨created, updated, hold⟩ := h.listing other
      refine ⟨created, updated, ?_⟩
      rw [TextTables.listingOf_remove, if_neg hid, Finmap.lookup_erase_ne hid]
      exact hold
  valid := h.valid
  creatable := h.creatable

theorem Mirrors.rebuild (h : ix.Mirrors s) {tables : TextTables}
    (htables : createTables ix.config = .ok tables) :
    ({ ix with tables } : TextIndex).Mirrors { s with entries := ∅ } :=
  have hempty := mirrors_empty h.valid htables ix.clock
  ⟨h.isOpen, hempty.rows, hempty.listing, h.valid, h.creatable⟩

theorem any_eq_isSome {α : Type} {p : α → Bool} {rows : List α} {found : Option α}
    (h : rows.filter p = found.toList) : rows.any p = found.isSome := by
  cases found with
  | none => exact List.any_eq_false.mpr (List.filter_eq_nil_iff.mp h)
  | some r =>
    have hr : r ∈ rows.filter p := h ▸ List.mem_singleton_self r
    exact List.any_eq_true.mpr ⟨r, List.mem_filter.mp hr⟩

theorem Mirrors.holds_eq (h : ix.Mirrors s) (id : String) :
    ix.tables.holds id = decide (id ∈ s.entries) := by
  obtain ⟨created, updated, hlisting⟩ := h.listing id
  rw [TextTables.holds, any_eq_isSome (h.rows id), any_eq_isSome hlisting, Option.isSome_map,
    Option.isSome_map, Bool.or_self, Bool.eq_iff_iff, decide_eq_true_iff]
  exact Finmap.lookup_isSome

/-- One call: the index and the map answer alike, and the index still stands for the map. -/
theorem Mirrors.call (h : ix.Mirrors s) (isFile : Bool) (c : TextCall) :
    (ix.call isFile c).2 = (s.call isFile c).2 ∧
      (ix.call isFile c).1.Mirrors (s.call isFile c).1 := by
  have hopen : ix.ensureOpen = if s.isOpen then .ok () else .error .closed := by
    rw [ensureOpen, h.isOpen]
  cases c with
  | index e =>
    simp only [TextIndex.call, Shelf.call, TextIndex.index, checkEntry_eq, hopen]
    split
    · exact ⟨rfl, h⟩
    split
    · exact ⟨rfl, h⟩
    split
    · exact ⟨rfl, h.put e _ _⟩
    · exact ⟨rfl, h⟩
  | delete id =>
    simp only [TextIndex.call, Shelf.call, TextIndex.delete, hopen, ← h.holds_eq]
    split
    · exact ⟨rfl, h.remove id⟩
    · exact ⟨rfl, h⟩
  | optimize =>
    simp only [TextIndex.call, Shelf.call, TextIndex.optimize, hopen]
    split
    · exact ⟨rfl, h⟩
    · exact ⟨rfl, h⟩
  | rebuild =>
    obtain ⟨tables, htables⟩ := h.creatable
    simp only [TextIndex.call, Shelf.call, TextIndex.rebuild, hopen, htables]
    split
    · exact ⟨rfl, h.rebuild htables⟩
    · exact ⟨rfl, h⟩
  | close => exact ⟨rfl, rfl, h.rows, h.listing, h.valid, h.creatable⟩
  | reopen =>
    obtain ⟨tables, htables⟩ := h.creatable
    cases isFile with
    | false =>
      simp only [TextIndex.call, Shelf.call, TextIndex.open, h.valid, htables]
      exact ⟨rfl, mirrors_empty h.valid htables _⟩
    | true =>
      simp only [TextIndex.call, Shelf.call, TextIndex.open, h.valid]
      exact ⟨rfl, rfl, h.rows, h.listing, h.valid, h.creatable⟩

theorem Mirrors.calls (h : ix.Mirrors s) (isFile : Bool) (cs : List TextCall) :
    (ix.calls isFile cs).2 = (s.calls isFile cs).2 ∧
      (ix.calls isFile cs).1.Mirrors (s.calls isFile cs).1 := by
  induction cs generalizing ix s with
  | nil => exact ⟨rfl, h⟩
  | cons c cs ih =>
    obtain ⟨hanswer, hnext⟩ := h.call isFile c
    obtain ⟨hanswers, hlast⟩ := ih hnext
    exact ⟨congrArg₂ List.cons hanswer hanswers, hlast⟩

theorem Mirrors.id_eq (h : ix.Mirrors s) {id : String} {e : TextEntry}
    (hentry : s.entries.lookup id = some e) : e.id = id := by
  have hrows := h.rows id
  rw [hentry] at hrows
  have hrow : TextRow.ofEntry e ∈ ix.tables.rowsOf id := hrows ▸ List.mem_singleton_self _
  exact eq_of_beq (List.mem_filter.mp hrow).2

theorem belongsTo_ofEntry (tenant : String) (e : TextEntry) :
    belongsTo tenant (TextRow.ofEntry e) = decide (tenant = "" ∨ tenant = e.tenant) := by
  rw [belongsTo, Bool.eq_iff_iff, Bool.or_eq_true, String.isEmpty_iff, beq_iff_eq, decide_eq_true_iff,
    eq_comm (a := tenant) (b := e.tenant)]
  rfl

theorem Mirrors.document (h : ix.Mirrors s) (hopen : ix.isOpen = true) {id : String}
    (hreads : ∀ e, s.entries.lookup id = some e → e.ReadsBack) (tenant : String) :
    ix.document id tenant =
      (s.document id tenant).map fun e => { e with updatedAt := ix.tables.updatedAt id } := by
  have hfind : (ix.tables.rows.find? fun r => r.id == id && belongsTo tenant r) =
      ((s.entries.lookup id).map TextRow.ofEntry).toList.find? (belongsTo tenant) := by
    rw [← h.rows id, TextTables.rowsOf, List.find?_filter]
    simp only [Bool.decide_and, Bool.decide_eq_true]
  rw [TextIndex.document, ensureOpen, if_pos hopen, hfind, Shelf.document]
  cases hentry : s.entries.lookup id with
  | none => rfl
  | some e =>
    have hread : ix.tables.entryOf "get document" (TextRow.ofEntry e) =
        .ok { e with updatedAt := ix.tables.updatedAt id } := by
      rw [TextTables.entryOf, hreads e hentry, ← h.id_eq hentry]
      rfl
    rw [Option.map_some, Option.toList_some, List.find?_singleton, belongsTo_ofEntry]
    by_cases htenant : tenant = "" ∨ tenant = e.tenant
    · simp only [htenant, decide_true, if_true]
      exact hread
    · simp only [htenant, decide_false]
      rfl

theorem Mirrors.listed (h : ix.Mirrors s) {l : ListingRow} (hl : l ∈ ix.tables.listing) :
    ∃ e created updated, s.entries.lookup l.id = some e ∧
      l = ListingRow.ofEntry e created updated := by
  obtain ⟨created, updated, hlisting⟩ := h.listing l.id
  have hrow : l ∈ ix.tables.listingOf l.id := List.mem_filter.mpr ⟨hl, beq_self_eq_true _⟩
  rw [hlisting, Option.mem_toList, Option.map_eq_some_iff] at hrow
  obtain ⟨e, hentry, hrow⟩ := hrow
  exact ⟨e, created, updated, hentry, hrow.symm⟩

theorem Mirrors.nodup (h : ix.Mirrors s) : (ix.tables.listing.map (·.id)).Nodup := by
  refine List.nodup_iff_count_le_one.mpr fun id => ?_
  obtain ⟨created, updated, hlisting⟩ := h.listing id
  have hcount : (ix.tables.listing.map (·.id)).count id = (ix.tables.listingOf id).length := by
    rw [List.count, List.countP_map, List.countP_eq_length_filter]
    rfl
  rw [hcount, hlisting]
  cases s.entries.lookup id with
  | none => exact Nat.zero_le 1
  | some e => exact Nat.le_refl 1

theorem Mirrors.toFinset_ids (h : ix.Mirrors s) :
    (ix.tables.listing.map (·.id)).toFinset = s.entries.keys := by
  ext id
  obtain ⟨created, updated, hlisting⟩ := h.listing id
  rw [List.mem_toFinset, Finmap.mem_keys, ← Finmap.lookup_isSome, List.mem_map]
  constructor
  · rintro ⟨l, hl, rfl⟩
    obtain ⟨e, _, _, hentry, -⟩ := h.listed hl
    rw [hentry]
    rfl
  · intro hsome
    obtain ⟨e, hentry⟩ := Option.isSome_iff_exists.mp hsome
    have hrow : ListingRow.ofEntry e created updated ∈ ix.tables.listingOf id := by
      rw [hlisting, hentry]
      exact List.mem_singleton_self _
    exact ⟨_, (List.mem_filter.mp hrow).1, h.id_eq hentry⟩

theorem Mirrors.length_listing (h : ix.Mirrors s) :
    ix.tables.listing.length = s.entries.keys.card := by
  rw [← h.toFinset_ids, List.toFinset_card_of_nodup h.nodup, List.length_map]

theorem Mirrors.sum_contentLength (h : ix.Mirrors s) :
    (ix.tables.listing.map (·.contentLength)).sum = ∑ id ∈ s.entries.keys, s.contentLength id := by
  rw [← h.toFinset_ids, List.sum_toFinset _ h.nodup, List.map_map]
  refine congrArg List.sum (List.map_congr_left fun l hl => ?_)
  obtain ⟨e, created, updated, hentry, hrow⟩ := h.listed hl
  rw [Function.comp_apply, Shelf.contentLength, hentry, hrow]
  rfl

theorem Mirrors.count_kind (h : ix.Mirrors s) (kind : String) :
    (ix.tables.listing.map (·.kind)).count kind =
      (s.entries.keys.filter fun id => s.kind? id = some kind).card := by
  have hsame : ∀ l ∈ ix.tables.listing, (l.kind == kind) = decide (s.kind? l.id = some kind) := by
    intro l hl
    obtain ⟨e, created, updated, hentry, hrow⟩ := h.listed hl
    rw [Shelf.kind?, hentry, hrow, Bool.eq_iff_iff, beq_iff_eq, decide_eq_true_iff, Option.map_some,
      Option.some_inj]
    rfl
  have hids : (s.entries.keys.filter fun id => s.kind? id = some kind) =
      ((ix.tables.listing.map (·.id)).filter fun id => decide (s.kind? id = some kind)).toFinset := by
    rw [List.toFinset_filter, h.toFinset_ids]
    simp only [decide_eq_true_eq]
  rw [hids, List.toFinset_card_of_nodup (h.nodup.filter _), ← List.countP_eq_length_filter,
    List.countP_map, List.count, List.countP_map]
  refine List.countP_congr fun l hl => ?_
  rw [Function.comp_apply, Function.comp_apply, hsame l hl]

/-- The figures of an index are those of the map. -/
structure Measures (figures : TextStatistics) (s : Shelf) : Prop where
  documents : figures.documents = s.entries.keys.card
  contentLength : figures.contentLength = ∑ id ∈ s.entries.keys, s.contentLength id
  byKind : ∀ kind, (figures.byKind.lookup kind).getD 0 =
    (s.entries.keys.filter fun id => s.kind? id = some kind).card
  total : (figures.byKind.map Prod.snd).sum = figures.documents

theorem Mirrors.statistics (h : ix.Mirrors s) (hopen : ix.isOpen = true) :
    ∃ figures, ix.statistics = .ok figures ∧ Measures figures s := by
  obtain ⟨hkinds, htotal⟩ :=
    foldl_countKind (List.Pairwise.nil : Ascending []) (ix.tables.listing.map (·.kind))
  refine ⟨_, by rw [TextIndex.statistics, ensureOpen, if_pos hopen]; rfl, ?_⟩
  exact {
    documents := h.length_listing
    contentLength := h.sum_contentLength
    byKind := fun kind => by
      rw [hkinds, h.count_kind]
      exact Nat.zero_add _
    total := by
      rw [htotal, List.length_map]
      exact Nat.zero_add _ }

/-- What an index that stands for a map has in its tables, tells and answers next. -/
structure Refines (isFile : Bool) (ix : TextIndex) (s : Shelf) : Prop extends ix.Mirrors s where
  agree : ∀ r ∈ ix.tables.rows, ∀ l ∈ ix.tables.listing, r.id = l.id →
    l.tenant = r.tenant ∧ l.kind = r.kind ∧ l.title = r.title ∧ l.contentLength = r.content.length
  document : ix.isOpen = true → ∀ id, (∀ e, s.entries.lookup id = some e → e.ReadsBack) → ∀ tenant,
    ix.document id tenant =
      (s.document id tenant).map fun e => { e with updatedAt := ix.tables.updatedAt id }
  delete : ix.isOpen = true → ∀ id, ∃ next, ix.delete id = .ok (next, decide (id ∈ s.entries))
  statistics : ix.isOpen = true → ∃ figures, ix.statistics = .ok figures ∧ Measures figures s
  unchanged : ∀ c e, (ix.call isFile c).2 = .error e →
    (ix.call isFile c).1 = ix ∧ (s.call isFile c).1 = s

theorem Mirrors.agree (h : ix.Mirrors s) {r : TextRow} (hr : r ∈ ix.tables.rows) {l : ListingRow}
    (hl : l ∈ ix.tables.listing) (hid : r.id = l.id) :
    l.tenant = r.tenant ∧ l.kind = r.kind ∧ l.title = r.title ∧
      l.contentLength = r.content.length := by
  obtain ⟨e, created, updated, hentry, hlisting⟩ := h.listed hl
  have hrow : r ∈ ix.tables.rowsOf l.id := List.mem_filter.mpr ⟨hr, beq_iff_eq.mpr hid⟩
  rw [h.rows, hentry] at hrow
  rw [List.mem_singleton.mp hrow, hlisting]
  exact ⟨rfl, rfl, rfl, rfl⟩

theorem answered_error {result : Except TextError (TextIndex × Bool)} {e : TextError}
    (h : (ix.answered result).2 = .error e) : (ix.answered result).1 = ix := by
  cases result with
  | ok _ => cases h
  | error _ => rfl

theorem call_error {isFile : Bool} {c : TextCall} {e : TextError}
    (h : (ix.call isFile c).2 = .error e) : (ix.call isFile c).1 = ix := by
  cases c with
  | close => cases h
  | index _ => exact answered_error h
  | delete _ => exact answered_error h
  | optimize => exact answered_error h
  | rebuild => exact answered_error h
  | reopen => exact answered_error h

end TextIndex

theorem Shelf.call_error {s : Shelf} {isFile : Bool} {c : TextCall} {e : TextError}
    (h : (s.call isFile c).2 = .error e) : (s.call isFile c).1 = s := by
  cases c with
  | close => cases h
  | reopen => cases h
  | optimize => rfl
  | index entry =>
    rw [Shelf.call] at h ⊢
    split_ifs at h ⊢ <;> rfl
  | delete id =>
    rw [Shelf.call] at h ⊢
    split_ifs at h ⊢
    rfl
  | rebuild =>
    rw [Shelf.call] at h ⊢
    split_ifs at h ⊢
    rfl

namespace TextIndex

variable {ix : TextIndex} {s : Shelf}

theorem Mirrors.refines (h : ix.Mirrors s) (isFile : Bool) : ix.Refines isFile s where
  toMirrors := h
  agree r hr l hl := h.agree hr hl
  document hopen id hreads := h.document hopen hreads
  delete hopen id := by
    refine ⟨{ ix with tables := ix.tables.remove id }, ?_⟩
    rw [TextIndex.delete, ensureOpen, if_pos hopen, ← h.holds_eq]
    rfl
  statistics := h.statistics
  unchanged c e herror := ⟨call_error herror, Shelf.call_error ((h.call isFile c).1 ▸ herror)⟩

/-- A new index answers every sequence of calls as the empty map does, and stands for the map that they
make. -/
theorem refines_calls {config : TextConfig} {clock : Nat}
    (hopen : TextIndex.open config none clock = .ok ix) (isFile : Bool) (cs : List TextCall) :
    (ix.calls isFile cs).2 = (({} : Shelf).calls isFile cs).2 ∧
      (ix.calls isFile cs).1.Refines isFile (({} : Shelf).calls isFile cs).1 := by
  obtain ⟨hanswers, hlast⟩ := (mirrors_open hopen).calls isFile cs
  exact ⟨hanswers, hlast.refines isFile⟩

def noteEntry : TextEntry where
  id := "a"
  tenant := "t"
  kind := "note"
  title := ""
  content := "naïve"
  metadata := [("k", .text "v")]

/-- An entry is written twice, one is refused, and one is written after closing. -/
def noteCalls : List TextCall :=
  [.index { noteEntry with content := "" }, .index noteEntry, .index { noteEntry with id := "" },
    .delete "b", .close, .index { noteEntry with id := "b" }, .reopen]

theorem refines_noteCalls : noteEntry.ReadsBack ∧
    (({} : Shelf).calls true noteCalls).1.entries.lookup "a" = some noteEntry ∧
    ∃ ix, TextIndex.open {} none 0 = .ok ix ∧
      (ix.calls true noteCalls).2 = [.ok true, .ok true, .error .emptyId, .ok false, .ok true,
        .error .closed, .ok true] ∧
      (ix.calls true noteCalls).1.Refines true (({} : Shelf).calls true noteCalls).1 := by
  have hreads : noteEntry.ReadsBack := by
    show (Json.read? (Json.object noteEntry.metadata).compact).bind _ = _
    rw [Json.read?_compact (by decide)]
    rfl
  obtain ⟨ix, hopen⟩ := exists_of_isOk (show (TextIndex.open {} none 0).isOk = true by decide +kernel)
  obtain ⟨hanswers, hrefines⟩ := refines_calls hopen true noteCalls
  exact ⟨hreads, rfl, ix, hopen, hanswers.trans rfl, hrefines⟩

end TextIndex

end HybridSearch
