import HybridSearch.Proofs.Ranking
import HybridSearch.Proofs.TextIndex.Scoping

/-!
# The ranking of a text search

The rows that a query finds have one ranking, strictly ordered by score and id. A limit cuts it short, and
the documents that are shown stand for its first rows, in their order.
-/
namespace HybridSearch

namespace TextTables

variable {t : TextTables}

theorem Reached.nodup_rows (h : t.Reached) : (t.rows.map fun r => r.id).Nodup := by
  induction h with
  | @empty t h =>
    have hrows : t.rows = [] := List.eq_nil_iff_forall_not_mem.mpr fun r hr => by
      obtain ⟨d, hd, -⟩ := h.mem_rows.mp hr
      cases hd
    rw [hrows]
    exact List.nodup_nil
  | @put t e _ he now ih =>
    have hkept : ((t.rows.filter fun r => decide (r.id ≠ e.id)).map fun r => r.id).Nodup :=
      ih.sublist (List.filter_sublist.map _)
    rw [TextTables.put, List.map_append, List.map_singleton]
    refine List.nodup_append.mpr ⟨hkept, by simp, fun id hid other hother => ?_⟩
    obtain ⟨r, hr, rfl⟩ := List.mem_map.mp hid
    rw [List.mem_singleton.mp hother]
    exact of_decide_eq_true (List.mem_filter.mp hr).2
  | remove _ id ih => exact ih.sublist (List.filter_sublist.map _)

/-- All text rows are of documents that can be read back. -/
def Readable (t : TextTables) : Prop :=
  ∀ r ∈ t.rows, ∃ d : Document, d.ReadsBack ∧ r = TextRow.ofEntry d.toEntry

end TextTables

/-- The document of a hit, with its score. -/
def TextHit.shown (h : TextHit) : Except EngineError Scored := do
  return ⟨← h.entry.document, h.score⟩

namespace TextIndex

variable {ix : TextIndex} {t : TextTables} {query tenant : String} {limit : Nat}

theorem rowPrecedes_sortsBy : SortsBy (fun r : TextRow × Binary64 => r.2.rank) (fun r => r.1.id)
    rowPrecedes :=
  .of_score fun _ _ => rfl

/-- The rows that a query finds, best first; a query without a term finds none. -/
def foundRows (ix : TextIndex) (query tenant : String) : List (TextRow × Binary64) :=
  match Query.Expression.ofText? query with
  | none => []
  | some e => rankedRows ix.tables e tenant

/-- The rows that an expression finds with their scores, as they stand in the table. -/
def matchingRows (t : TextTables) (e : Query.Expression) (tenant : String) :
    List (TextRow × Binary64) :=
  let wanted := RowFilter.ofExpression t.tokenizer e tenant
  let rows := t.rows.map fun r => (r, RowTokens.ofRow t.tokenizer r)
  let corpus := Rank.Corpus.ofRows wanted.rankedPhrases (rows.map (·.2))
  let found := rows.filter fun r => wanted.accepts r.2 && belongsTo tenant r.1
  found.map fun r => (r.1, Rank.score corpus wanted.rankedPhrases r.2)

theorem rankedRows_eq (t : TextTables) (e : Query.Expression) (tenant : String) :
    rankedRows t e tenant = (matchingRows t e tenant).mergeSort rowPrecedes := rfl

theorem nodup_matchingRows (h : (t.rows.map fun r => r.id).Nodup) (e : Query.Expression)
    (tenant : String) : ((matchingRows t e tenant).map fun r => r.1.id).Nodup := by
  have hall : (t.rows.map fun r => (r, RowTokens.ofRow t.tokenizer r)).map (fun r => r.1.id) =
      t.rows.map fun r => r.id := List.map_map
  rw [← hall] at h
  rw [matchingRows, List.map_map]
  exact h.sublist (List.filter_sublist.map _)

theorem foundRows_ordered (h : ix.tables.Reached) (query tenant : String) :
    (ix.foundRows query tenant).Pairwise (Ahead (fun r => r.2.rank) fun r => r.1.id) ∧
      ((ix.foundRows query tenant).map fun r => r.1.id).Nodup := by
  rw [foundRows]
  split
  · exact ⟨List.Pairwise.nil, List.nodup_nil⟩
  · next e _ =>
    have hids := nodup_matchingRows h.nodup_rows e tenant
    rw [rankedRows_eq]
    exact ⟨rowPrecedes_sortsBy.pairwise_mergeSort hids,
      ((List.mergeSort_perm _ _).map _).nodup_iff.mpr hids⟩

theorem mem_of_foundRows {r : TextRow × Binary64} (h : r ∈ ix.foundRows query tenant) :
    r.1 ∈ ix.tables.rows := by
  rw [foundRows] at h
  split at h
  · cases h
  · exact (mem_rankedRows h).1

/-- A row with its score, and the document that it is shown as. -/
def ShownAs (ix : TextIndex) (r : TextRow × Binary64) (s : Scored) : Prop :=
  ∃ e, ix.tables.entryOf "read search row" r.1 = .ok e ∧ e.document = .ok s.document ∧ s.score = r.2

theorem rightUnique_shownAs : Relator.RightUnique ix.ShownAs := by
  intro r s s' h h'
  obtain ⟨e, he, hd, hscore⟩ := h
  obtain ⟨e', he', hd', hscore'⟩ := h'
  obtain rfl := Except.ok.inj (he.symm.trans he')
  cases s
  cases s'
  simp_all

theorem ShownAs.id_eq {r : TextRow × Binary64} {s : Scored} (h : ix.ShownAs r s) :
    s.document.id = r.1.id := by
  obtain ⟨e, he, hd, -⟩ := h
  rw [TextTables.entryOf] at he
  split at he
  · obtain rfl := Except.ok.inj he
    rw [TextEntry.document] at hd
    split at hd
    · next found hfound =>
      obtain ⟨kind, -, hkind⟩ := Option.map_eq_some_iff.mp hfound
      rw [← Except.ok.inj hd, ← hkind]
    · cases hd
  · cases he

theorem map_shown {rows : List (TextRow × Binary64)} {hits : List Scored}
    (h : List.Forall₂ ix.ShownAs rows hits) :
    (hits.map fun s => (s.score, s.document.id)) = rows.map fun r => (r.2, r.1.id) := by
  induction h with
  | nil => rfl
  | cons hshown _ ih =>
    rw [List.map_cons, List.map_cons, ih, hshown.id_eq]
    obtain ⟨-, -, -, hscore⟩ := hshown
    rw [hscore]

theorem map_id_shown {rows : List (TextRow × Binary64)} {hits : List Scored}
    (h : List.Forall₂ ix.ShownAs rows hits) :
    (hits.map fun s => s.document.id) = rows.map fun r => r.1.id := by
  have hpairs := congrArg (List.map Prod.snd) (map_shown h)
  rw [List.map_map, List.map_map] at hpairs
  exact hpairs

theorem pairwise_shown {rows : List (TextRow × Binary64)} {hits : List Scored}
    (h : List.Forall₂ ix.ShownAs rows hits)
    (hrows : rows.Pairwise (Ahead (fun r => r.2.rank) fun r => r.1.id)) :
    hits.Pairwise (Ahead (fun s => s.score.rank) fun s => s.document.id) := by
  have hpairs : (rows.map fun r => (r.2, r.1.id)).Pairwise
      (Ahead (fun x : Binary64 × String => x.1.rank) fun x => x.2) := List.pairwise_map.mpr hrows
  rw [← map_shown h] at hpairs
  exact (List.pairwise_map (f := fun s : Scored => (s.score, s.document.id))).mp hpairs

theorem exists_shownAs (ix : TextIndex) {d : Document} (hreads : d.ReadsBack) (score : Binary64) :
    ∃ s, ix.ShownAs (TextRow.ofEntry d.toEntry, score) s := by
  have hkind : ∃ shown, ({ d.toEntry with updatedAt := ix.tables.updatedAt d.id } : TextEntry).document =
      .ok shown := by
    rw [TextEntry.document, TextEntry.toDocument?]
    simp only [Document.toEntry, DocumentKind.ofName?_name, Option.map_some]
    exact ⟨_, rfl⟩
  obtain ⟨shown, hshown⟩ := hkind
  exact ⟨⟨shown, score⟩, _, entryOf_ofEntry _ _ hreads, hshown, rfl⟩

theorem exists_forall₂_shownAs (h : ix.tables.Readable) {rows : List (TextRow × Binary64)}
    (hrows : ∀ r ∈ rows, r.1 ∈ ix.tables.rows) : ∃ hits, List.Forall₂ ix.ShownAs rows hits := by
  induction rows with
  | nil => exact ⟨[], .nil⟩
  | cons r rows ih =>
    obtain ⟨hr, hrows⟩ := List.forall_mem_cons.mp hrows
    obtain ⟨hits, hhits⟩ := ih hrows
    obtain ⟨d, hreads, hrow⟩ := h r.1 hr
    obtain ⟨s, hs⟩ := ix.exists_shownAs hreads r.2
    rw [← hrow] at hs
    exact ⟨s :: hits, .cons hs hhits⟩

/-- What a search asks for before it looks at a row: a query with some text and a tenant that can exist,
and an open index if there is a term to look for. -/
structure Askable (ix : TextIndex) (query tenant : String) : Prop where
  hasText : Text.isBlank query.toList = false
  inTenant : tenant = "" ∨ Tenant.isValid tenant = true
  isOpen : Query.Expression.ofText? query ≠ none → ix.isOpen = true

theorem tenant_of_search {hits : List TextHit} (h : ix.search false query tenant limit = .ok hits) :
    tenant = "" ∨ Tenant.isValid tenant = true := by
  rw [search] at h
  split at h
  · cases h
  · obtain ⟨-, -, h⟩ := exists_of_bind_ok h
    dsimp only at h
    split at h
    · cases h
    · next hvalid =>
      by_cases hempty : tenant = ""
      · exact .inl hempty
      · simpa [String.isEmpty_iff, hempty] using hvalid

theorem search_ok_iff_foundRows {hits : List TextHit} :
    ix.search false query tenant limit = .ok hits ↔ ix.Askable query tenant ∧ checkLimit limit = .ok () ∧
      List.Forall₂ (fun r hit => ix.readHit r = .ok hit) ((ix.foundRows query tenant).take limit) hits := by
  constructor
  · intro h
    have htenant := tenant_of_search h
    obtain ⟨hquery, hlimit, ⟨he, rfl⟩ | ⟨e, he, -, hopen, hrows⟩⟩ := (search_ok_iff htenant).mp h
    · refine ⟨⟨hquery, htenant, fun hsome => absurd he hsome⟩, hlimit, ?_⟩
      rw [foundRows, he, List.take_nil]
      exact .nil
    · refine ⟨⟨hquery, htenant, fun _ => hopen⟩, hlimit, ?_⟩
      rw [foundRows, he]
      exact mapM_ok_iff.mp hrows
  · rintro ⟨hask, hlimit, hrows⟩
    refine (search_ok_iff hask.inTenant).mpr ⟨hask.hasText, hlimit, ?_⟩
    rw [foundRows] at hrows
    cases he : Query.Expression.ofText? query with
    | none =>
      rw [he, List.take_nil] at hrows
      exact .inl ⟨rfl, List.forall₂_nil_left_iff.mp hrows⟩
    | some e =>
      rw [he] at hrows
      exact .inr ⟨e, rfl, rfl, hask.isOpen (by rw [he]; exact Option.some_ne_none e),
        mapM_ok_iff.mpr hrows⟩

theorem shownAs_iff {r : TextRow × Binary64} {s : Scored} :
    ix.ShownAs r s ↔ ∃ hit : TextHit, ix.readHit r = .ok hit ∧ hit.shown = .ok s := by
  constructor
  · rintro ⟨e, he, hd, hscore⟩
    refine ⟨⟨e, r.2⟩, by rw [readHit, he]; rfl, ?_⟩
    rw [TextHit.shown, hd, ← hscore]
    rfl
  · rintro ⟨hit, hread, hs⟩
    obtain ⟨e, he, hpair⟩ := exists_of_bind_ok hread
    obtain rfl := Except.ok.inj hpair
    obtain ⟨d, hd, hpair⟩ := exists_of_bind_ok hs
    obtain rfl := Except.ok.inj hpair
    exact ⟨e, he, hd, rfl⟩

theorem ranked_ok_iff {ranking : List Scored} :
    ix.ranked query tenant limit = .ok ranking ↔ ix.Askable query tenant ∧ checkLimit limit = .ok () ∧
      List.Forall₂ ix.ShownAs ((ix.foundRows query tenant).take limit) ranking := by
  have hrows : List.Forall₂ ix.ShownAs ((ix.foundRows query tenant).take limit) ranking ↔
      ∃ hits : List TextHit, List.Forall₂ (fun r hit => ix.readHit r = .ok hit)
        ((ix.foundRows query tenant).take limit) hits ∧ hits.mapM TextHit.shown = .ok ranking := by
    simp only [mapM_ok_iff, forall₂_comp_iff, ← shownAs_iff]
  rw [hrows]
  constructor
  · intro h
    obtain ⟨hits, hsearch, hranking⟩ := exists_of_bind_ok h
    obtain ⟨hask, hlimit, hhits⟩ := search_ok_iff_foundRows.mp (ok_of_mapError hsearch)
    exact ⟨hask, hlimit, hits, hhits, hranking⟩
  · rintro ⟨hask, hlimit, hits, hhits, hranking⟩
    rw [ranked, search_ok_iff_foundRows.mpr ⟨hask, hlimit, hhits⟩]
    exact hranking

end TextIndex

end HybridSearch
