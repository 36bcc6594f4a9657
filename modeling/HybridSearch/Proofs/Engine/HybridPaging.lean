import HybridSearch.Proofs.Engine.Paging
import HybridSearch.Proofs.Engine.Turns
import HybridSearch.Proofs.VectorIndex.RoundTrip

/-!
# Pages of a hybrid search

Both sides of a hybrid search rank twice as many documents as the page reaches. A document that is cut off
on a side still counts with its score on the other side, so that a wider search may rank it higher, and two
pages may show a document twice and leave another one out. They follow on from each other when nothing is
cut off.
-/
namespace HybridSearch

namespace Fusion

theorem precedes_sortsBy :
    SortsBy (fun s : Scored => s.score.rank) (fun s => s.document.id) precedes :=
  .of_score fun _ _ => rfl

theorem ids_merge (merged : List Scored) (s : Scored) : ((merge merged s).map fun x => x.document.id) =
    if s.document.id ∈ merged.map fun x => x.document.id then merged.map fun x => x.document.id
    else (merged.map fun x => x.document.id) ++ [s.document.id] := by
  induction merged with
  | nil => rfl
  | cons first rest ih =>
    rw [merge]
    by_cases hfirst : first.document.id = s.document.id
    · simp [hfirst]
    · have hne : s.document.id ≠ first.document.id := fun h => hfirst h.symm
      rw [if_neg hfirst, List.map_cons, ih, List.map_cons]
      by_cases hrest : s.document.id ∈ rest.map fun x => x.document.id
      · rw [if_pos hrest, if_pos (List.mem_cons_of_mem _ hrest)]
      · rw [if_neg hrest, if_neg (by simpa [hne] using hrest)]
        rfl

theorem nodup_merge {merged : List Scored} (h : (merged.map fun x => x.document.id).Nodup) (s : Scored) :
    ((merge merged s).map fun x => x.document.id).Nodup := by
  rw [ids_merge]
  split
  · exact h
  · next hnew =>
    refine List.nodup_append.mpr ⟨h, by simp, fun id hid other hother heq => hnew ?_⟩
    rw [← List.mem_singleton.mp hother, ← heq]
    exact hid

theorem nodup_foldl_merge (ranking : List Scored) {merged : List Scored}
    (h : (merged.map fun x => x.document.id).Nodup) :
    ((ranking.foldl merge merged).map fun x => x.document.id).Nodup := by
  induction ranking generalizing merged with
  | nil => exact h
  | cons s ranking ih => exact ih (nodup_merge h s)

variable (text vector : List Scored) (textWeight vectorWeight : Binary64)

theorem nodup_fuse :
    ((fuse text vector textWeight vectorWeight).map fun x => x.document.id).Nodup :=
  ((List.mergeSort_perm _ _).map _).nodup_iff.mpr (nodup_foldl_merge _ List.nodup_nil)

theorem pairwise_fuse : (fuse text vector textWeight vectorWeight).Pairwise
    (Ahead (fun s => s.score.rank) fun s => s.document.id) :=
  precedes_sortsBy.pairwise_mergeSort (nodup_foldl_merge _ List.nodup_nil)

theorem fuse_eq_insertionSort : fuse text vector textWeight vectorWeight =
    ((scaled textWeight text ++ scaled vectorWeight vector).foldl merge []).insertionSort
      fun a b => precedes a b = true :=
  precedes_sortsBy.mergeSort_eq_insertionSort (nodup_foldl_merge _ List.nodup_nil)

theorem map_merge {f : Document → Document} (hf : ∀ d, (f d).id = d.id) (merged : List Scored) (s : Scored) :
    merge (merged.map fun x => { x with document := f x.document }) { s with document := f s.document } =
      (merge merged s).map fun x => { x with document := f x.document } := by
  induction merged with
  | nil => rfl
  | cons first rest ih =>
    rw [List.map_cons, merge, merge]
    simp only [hf]
    split
    · rfl
    · rw [ih, List.map_cons]

theorem map_foldl_merge {f : Document → Document} (hf : ∀ d, (f d).id = d.id) (ranking merged : List Scored) :
    (ranking.map fun x => { x with document := f x.document }).foldl merge
        (merged.map fun x => { x with document := f x.document }) =
      (ranking.foldl merge merged).map fun x => { x with document := f x.document } := by
  induction ranking generalizing merged with
  | nil => rfl
  | cons s ranking ih =>
    rw [List.map_cons, List.foldl_cons, List.foldl_cons, map_merge hf, ih]

theorem map_fuse {f : Document → Document} (hf : ∀ d, (f d).id = d.id) :
    fuse (text.map fun x => { x with document := f x.document })
        (vector.map fun x => { x with document := f x.document }) textWeight vectorWeight =
      (fuse text vector textWeight vectorWeight).map fun x => { x with document := f x.document } := by
  have hscaled : ∀ (weight : Binary64) (ranking : List Scored),
      scaled weight (ranking.map fun x => { x with document := f x.document }) =
        (scaled weight ranking).map fun x => { x with document := f x.document } := by
    intro weight ranking
    rw [scaled, scaled, List.map_map, List.map_map]
    rfl
  rw [fuse, hscaled, hscaled, ← List.map_append, ← List.map_nil, map_foldl_merge hf, fuse,
    List.map_mergeSort]
  intro a _ b _
  simp only [precedes, hf]

end Fusion

namespace TextIndex

variable {ix : TextIndex} {query tenant : String} {limit limit' : Nat}

theorem ranked_of_few (hlimit : checkLimit limit = .ok ()) (hlimit' : checkLimit limit' = .ok ())
    (hfew : (ix.foundRows query tenant).length ≤ limit)
    (hfew' : (ix.foundRows query tenant).length ≤ limit') :
    ix.ranked query tenant limit = ix.ranked query tenant limit' := by
  have hsearch : ix.search false query tenant limit = ix.search false query tenant limit' := by
    rw [search, search, hlimit, hlimit']
    rw [foundRows] at hfew hfew'
    cases he : Query.Expression.ofText? query with
    | none => rfl
    | some e =>
      rw [he] at hfew hfew'
      dsimp only at hfew hfew' ⊢
      rw [List.take_of_length_le hfew, List.take_of_length_le hfew']
  rw [ranked, ranked, hsearch]

end TextIndex

namespace Graph

variable {config : VectorConfig} {g : Graph} {query : Embedding} {entry : EntryPoint} {k k' : Nat}

theorem candidates_of_few (hs : g.Sound config) (hentry : g.entry = some entry) (hk : g.ids.length ≤ k)
    (hk' : g.ids.length ≤ k') : g.candidates config query k entry = g.candidates config query k' entry := by
  have hfound : ∀ k, Beam.Found (g.listsOf 0) (g.distancesTo query) (max config.searchBreadth (2 * k))
      ((g.landing query entry).map fun c => c.id) (g.candidates config query k entry) :=
    fun k => candidates_found hs hentry
  have hsub : ∀ k k', g.ids.length ≤ k' → ∀ c ∈ g.candidates config query k entry,
      c ∈ g.candidates config query k' entry := by
    intro k k' hroom c hc
    have hmem : c.id ∈ (g.candidates config query k' entry).map fun c => c.id :=
      (hfound k').mem_of_reachable (fun id hid => mem_ids_of_connected hs hentry hid) (by omega)
        ((hfound k).reached c hc)
    obtain ⟨c', hc', hid⟩ := List.mem_map.mp hmem
    have hdistance := (hfound k').truthful c' hc'
    rw [hid, (hfound k).truthful c hc] at hdistance
    have heq : c = c' := by
      cases c
      cases c'
      simp_all
    exact heq ▸ hc'
  exact Candidate.ascending_ext (hfound k).sorted (hfound k').sorted
    fun c => ⟨hsub k k' hk' c, hsub k' k hk c⟩

theorem length_candidates_le (hs : g.Sound config) (haccepted : config.Accepted)
    (hentry : g.entry = some entry) : (g.candidates config query k entry).length ≤ g.ids.length := by
  have hfound : Beam.Found (g.listsOf 0) (g.distancesTo query) (max config.searchBreadth (2 * k))
      ((g.landing query entry).map fun c => c.id) (g.candidates config query k entry) :=
    candidates_found hs hentry
  have hstarts : g.Starts query 0 (g.candidates config query k entry) :=
    candidates_starts hs haccepted hentry
  rw [← List.length_map fun c : Candidate => c.id]
  refine hfound.nodup_ids.length_le_of_subset fun id hid => ?_
  obtain ⟨c, hc, rfl⟩ := List.mem_map.mp hid
  exact (hstarts.on c hc).1

end Graph

namespace VectorIndex

variable {ix : VectorIndex} {store : StoreHandle} {g : Graph} {query : Embedding} {k k' : Nat}

theorem Ready.lookUp_of_few (h : Ready ix store g) (hk : 1 ≤ k ∧ k ≤ maxCount) (hk' : 1 ≤ k' ∧ k' ≤ maxCount)
    (hfew : g.ids.length ≤ k) (hfew' : g.ids.length ≤ k') :
    lookUp ix.config store .never query k = lookUp ix.config store .never query k' := by
  have hholds := h.holds
  cases hquery : checkVector ix.config query with
  | error e =>
    rw [lookUp, lookUp, hquery]
    rfl
  | ok u =>
    rw [lookUp_eq hholds h.gettable h.scannable hquery hk, lookUp_eq hholds h.gettable h.scannable hquery hk']
    cases hentry : g.entry with
    | none => rfl
    | some entry =>
      have hlength : (g.candidates ix.config query k' entry).length ≤ g.ids.length :=
        Graph.length_candidates_le hholds.sound h.accepted hentry
      dsimp only
      rw [Graph.candidates_of_few hholds.sound hentry hfew hfew',
        List.take_of_length_le (Nat.le_trans hlength hfew),
        List.take_of_length_le (Nat.le_trans hlength hfew')]

end VectorIndex

namespace Indexes

variable {ixs : Indexes} {config : EngineConfig} {r : SearchRequest} {limit limit' : Nat}

theorem vectorRanked_of_few {g : Graph} (h : ixs.vector.Ready ixs.store g) (hlimit : 1 ≤ limit)
    (hlimits : limit ≤ limit') (hfew : ixs.storedCount ≤ min limit VectorIndex.maxCount) :
    (ixs.vectorRanked r limit).1 = (ixs.vectorRanked r limit').1 := by
  rw [storedCount_eq h] at hfew
  rw [vectorRanked, vectorRanked]
  cases r.soughtEmbedding with
  | error e => rfl
  | ok v =>
    have hmost : 1 ≤ VectorIndex.maxCount := by decide
    have hlookUp : VectorIndex.lookUp ixs.vector.config ixs.store .never v
        (min limit VectorIndex.maxCount) = VectorIndex.lookUp ixs.vector.config ixs.store .never v
          (min limit' VectorIndex.maxCount) :=
      h.lookUp_of_few (by omega) (by omega) hfew (by omega)
    have hsearch : ixs.vector.search ixs.store .never v (min limit VectorIndex.maxCount) =
        ixs.vector.search ixs.store .never v (min limit' VectorIndex.maxCount) := by
      rw [VectorIndex.search, VectorIndex.search, hlookUp]
    dsimp only
    rw [hsearch]

theorem hybridRanked_of_few {g : Graph} (h : ixs.vector.Ready ixs.store g) (hlimit : 1 ≤ limit)
    (hlimits : limit ≤ limit') (hwide : 2 * limit ≤ maxSearchLimit)
    (hrows : (ixs.text.foundRows r.text r.tenant).length ≤ 2 * limit)
    (hstored : ixs.storedCount ≤ min (2 * limit) VectorIndex.maxCount) :
    (ixs.hybridRanked config r limit).1 = (ixs.hybridRanked config r limit').1 := by
  have hmin : min (2 * limit) maxSearchLimit = 2 * limit := Nat.min_eq_left hwide
  have htext : ixs.textRanked r (min (2 * limit) maxSearchLimit) =
      ixs.textRanked r (min (2 * limit') maxSearchLimit) :=
    TextIndex.ranked_of_few (TextIndex.checkLimit_min (by omega)) (TextIndex.checkLimit_min (by omega))
      (by omega) (by omega)
  have hvector : (ixs.vectorRanked r (min (2 * limit) maxSearchLimit)).1 =
      (ixs.vectorRanked r (min (2 * limit') maxSearchLimit)).1 :=
    vectorRanked_of_few h (by omega) (by omega) (by omega)
  rw [hybridRanked, hybridRanked]
  dsimp only
  rw [htext, hvector]

theorem hybridRanked_ordered {limit : Nat} {ranking : List Scored}
    (h : (ixs.hybridRanked config r limit).1 = .ok ranking) :
    (ranking.map fun s => s.document.id).Nodup ∧
      ranking.Pairwise (Ahead (fun s => s.score.rank) fun s => s.document.id) := by
  have hfused := combine_ok h
  rw [hfused]
  exact ⟨Fusion.nodup_fuse _ _ _ _, Fusion.pairwise_fuse _ _ _ _⟩

end Indexes

namespace Engine

variable {e : Engine} {r : SearchRequest} {limit limit' : Nat}

/-- How two hybrid pages that follow each other relate to the page of both. The second one is always the end
of that page, and no page shows a document twice. The two show what the whole page shows exactly when the
first one shows its beginning, and it does if neither side of the first page leaves anything out. -/
theorem hybrid_pages (e : Engine) (cancelled : Bool) (hmode : r.mode = .hybrid) (nanos offset : Nat)
    (hlimit : 1 ≤ limit) (hlimit' : 1 ≤ limit') (hmost : offset + limit + limit' ≤ 5000) :
    (e.search cancelled (r.page (offset + limit) limit') nanos).1 =
      (e.search cancelled (r.page offset (limit + limit')) nanos).1.map
        (fun whole => ⟨whole.hits.drop limit, whole.total⟩) ∧
    (∀ whole, (e.search cancelled (r.page offset (limit + limit')) nanos).1 = .ok whole →
      (whole.hits.map fun s => s.document.id).Nodup) ∧
    (∀ first next whole, (e.search cancelled (r.page offset limit) nanos).1 = .ok first →
      (e.search cancelled (r.page (offset + limit) limit') nanos).1 = .ok next →
      (e.search cancelled (r.page offset (limit + limit')) nanos).1 = .ok whole →
      ((first.hits ++ next.hits).map (fun s => s.document) = whole.hits.map (fun s => s.document) ↔
        first.hits.map (fun s => s.document) = (whole.hits.take limit).map fun s => s.document)) ∧
    (∀ g, e.indexes.vector.Ready e.indexes.store g →
      e.indexes.storedCount ≤ min (2 * (offset + limit)) VectorIndex.maxCount →
      (e.indexes.text.foundRows r.text r.tenant).length ≤ 2 * (offset + limit) →
      (e.search cancelled (r.page offset limit) nanos).1 =
        (e.search cancelled (r.page offset (limit + limit')) nanos).1.map
          fun whole => ⟨whole.hits.take limit, whole.total⟩) := by
  have hmax : maxSearchLimit = 10000 := rfl
  have hranked : ∀ window, e.indexes.ranked e.config r window =
      e.indexes.hybridRanked e.config r window := by
    intro window
    rw [Indexes.ranked, hmode]
  have hfirst := e.search_page cancelled r nanos offset ⟨hlimit, show limit ≤ _ by omega⟩
  have hnext := e.search_page cancelled r nanos (offset + limit) ⟨hlimit', show limit' ≤ _ by omega⟩
  have hwhole := e.search_page cancelled r nanos offset
    ⟨show 1 ≤ limit + limit' by omega, show limit + limit' ≤ _ by omega⟩
  rw [hranked, Nat.min_eq_left (by omega)] at hfirst hnext hwhole
  rw [show limit' + (offset + limit) = limit + limit' + offset by omega] at hnext
  have hend : (e.search cancelled (r.page (offset + limit) limit') nanos).1 =
      (e.search cancelled (r.page offset (limit + limit')) nanos).1.map
        fun whole => ⟨whole.hits.drop limit, whole.total⟩ := by
    rw [hnext, hwhole]
    exact bind_map_eq fun ranking => Indexes.pageOf_drop ranking offset limit limit'
  refine ⟨hend, fun whole h => ?_, fun first next whole h h' h'' => ?_, fun g hready hstored hrows => ?_⟩
  · rw [hwhole] at h
    obtain ⟨-, -, h⟩ := exists_of_bind_ok h
    obtain ⟨ranking, hranking, rfl⟩ := exists_of_map_ok h
    have hids := (Indexes.hybridRanked_ordered hranking).1
    exact hids.sublist (((List.take_sublist _ _).trans (List.drop_sublist _ _)).map _)
  · rw [hend, h''] at h'
    obtain rfl := Except.ok.inj h'
    have hcut : whole.hits.map (fun s => s.document) =
        (whole.hits.take limit).map (fun s => s.document) ++
          (whole.hits.drop limit).map fun s => s.document := by
      rw [← List.map_append, List.take_append_drop]
    rw [List.map_append, hcut]
    exact List.append_left_inj _
  · have hsame : (e.indexes.hybridRanked e.config r (limit + offset)).1 =
        (e.indexes.hybridRanked e.config r (limit + limit' + offset)).1 :=
      Indexes.hybridRanked_of_few hready (by omega) (by omega) (by omega) (by omega) (by omega)
    rw [hfirst, hwhole, hsame]
    exact bind_map_eq fun ranking => Indexes.pageOf_take ranking offset limit limit'

/-- The ids and the scores of a ranking, if there is one. -/
def ratings (ranking : Except EngineError (List Scored)) : Option (List (String × Binary64)) :=
  ranking.toOption.map fun ranking => ranking.map fun s => (s.document.id, s.score)

/-- A document of which only the id is known. -/
def unknownDocument (id : String) : Document := { (default : Document) with id }

/-- The ids of a fused ranking, from the ids and the scores of the two sides. -/
def fusedIds (config : EngineConfig) (text vector : List (String × Binary64)) : List String :=
  let plain (x : String × Binary64) : Scored := ⟨unknownDocument x.1, x.2⟩
  ((((Fusion.scaled config.textWeight (text.map plain) ++
    Fusion.scaled config.vectorWeight (vector.map plain)).foldl Fusion.merge []).insertionSort
      fun a b => Fusion.precedes a b = true).map fun s => s.document.id)

theorem fusedIds_eq (config : EngineConfig) (text vector : List Scored) :
    (Fusion.fuse text vector config.textWeight config.vectorWeight).map (fun s => s.document.id) =
      fusedIds config (text.map fun s => (s.document.id, s.score))
        (vector.map fun s => (s.document.id, s.score)) := by
  have hids := congrArg (List.map fun s => s.document.id) (Fusion.map_fuse text vector
    config.textWeight config.vectorWeight (f := fun d => unknownDocument d.id) fun _ => rfl)
  rw [List.map_map, Fusion.fuse_eq_insertionSort] at hids
  rw [fusedIds, List.map_map, List.map_map]
  exact hids.symm

theorem idsOf_hybrid (hopen : e.isOpen = true) (hmode : r.mode = .hybrid) (offset limit : Nat)
    (hlimit : 1 ≤ limit ∧ limit ≤ maxSearchLimit) {wide : Nat}
    (hwide : min (2 * min (limit + offset) maxSearchLimit) maxSearchLimit = wide)
    {text vector : List (String × Binary64)} (htext : ratings (e.indexes.textRanked r wide) = some text)
    (hvector : ratings (e.indexes.vectorRanked r wide).1 = some vector) :
    idsOf (e.search false (r.page offset limit) 0).1 =
      some (((fusedIds e.config text vector).drop offset).take limit) := by
  obtain ⟨textSide, htextSide, rfl⟩ := Option.map_eq_some_iff.mp htext
  obtain ⟨vectorSide, hvectorSide, rfl⟩ := Option.map_eq_some_iff.mp hvector
  rw [search_page _ _ _ _ _ hlimit, admits_ok_iff.mpr ⟨hopen, rfl⟩, Indexes.ranked, hmode]
  dsimp only
  rw [Indexes.hybridRanked, hwide]
  dsimp only
  rw [ok_of_toOption htextSide, ok_of_toOption hvectorSide, ← fusedIds_eq, ← List.map_drop,
    ← List.map_take]
  rfl

/-- Three documents at different distances of zero that are equally similar to it. -/
def tiedTasks : List Task :=
  [("a", 0x39c0000000000000), ("b", 0), ("c", 0x39b0000000000000)].map fun x =>
    .index { smallDocument with id := x.1, embedding := some [⟨x.2⟩] }

def tiedEngine : Engine := (smallEngine.run (tiedTasks.map fun t => .write t [])).engine

def tiedRequest : SearchRequest := { text := "blue", embedding := some [Binary64.zero], mode := .hybrid }

theorem arises_tiedEngine : tiedEngine.Arises := by
  rw [tiedEngine]
  exact (Arises.opened opened_smallEngine).run _

theorem reached_tiedEngine : tiedEngine.Reached := arises_tiedEngine.reached

theorem run_tiedEngine : tiedEngine.Idle ∧ tiedEngine.config = smallEngine.config ∧
    tiedEngine.indexes = afterTasks smallEngine.indexes tiedTasks := by
  rw [tiedEngine]
  exact idle_smallEngine.run tiedTasks

theorem ready_tiedEngine : ∃ g, tiedEngine.indexes.vector.Ready tiedEngine.indexes.store g := by
  obtain ⟨g, hbacks⟩ := arises_tiedEngine.backs
  exact ⟨g, hbacks.ready⟩

theorem textRanked_tiedEngine :
    ∀ limit ∈ [2, 4], ratings (tiedEngine.indexes.textRanked tiedRequest limit) = some [] := by
  rw [run_tiedEngine.2.2]
  decide +kernel

theorem vectorRanked_tiedEngine : ratings (tiedEngine.indexes.vectorRanked tiedRequest 4).1 =
    some [("b", Binary64.one), ("c", Binary64.one), ("a", Binary64.one)] := by
  rw [run_tiedEngine.2.2]
  decide +kernel

theorem fusedIds_tiedEngine : fusedIds tiedEngine.config []
    [("b", Binary64.one), ("c", Binary64.one), ("a", Binary64.one)] = ["a", "b", "c"] := by
  rw [run_tiedEngine.2.1]
  decide +kernel

/-- The second of two pages shows what the first one has shown, and neither shows the first document of the page
of both. -/
theorem hybrid_pages_repeat : tiedEngine.Reached ∧ tiedRequest.mode = .hybrid ∧
    idsOf (tiedEngine.search false (tiedRequest.page 0 1) 0).1 = some ["b"] ∧
    idsOf (tiedEngine.search false (tiedRequest.page (0 + 1) 1) 0).1 = some ["b"] ∧
    idsOf (tiedEngine.search false (tiedRequest.page 0 (1 + 1)) 0).1 = some ["a", "b"] := by
  have hopen := run_tiedEngine.1.isOpen
  have hmode : tiedRequest.mode = .hybrid := rfl
  -- the nearest two documents leave out the one that comes first among ties
  have hnarrow : ratings (tiedEngine.indexes.vectorRanked tiedRequest 2).1 =
      some [("b", Binary64.one), ("c", Binary64.one)] := by
    rw [run_tiedEngine.2.2]
    decide +kernel
  have hids : fusedIds tiedEngine.config [] [("b", Binary64.one), ("c", Binary64.one)] =
      ["b", "c"] := by
    rw [run_tiedEngine.2.1]
    decide +kernel
  have hfirst := idsOf_hybrid hopen hmode 0 1 (by decide) rfl
    (textRanked_tiedEngine 2 (by decide)) hnarrow
  have hnext := idsOf_hybrid hopen hmode (0 + 1) 1 (by decide) rfl
    (textRanked_tiedEngine 4 (by decide)) vectorRanked_tiedEngine
  have hwhole := idsOf_hybrid hopen hmode 0 (1 + 1) (by decide) rfl
    (textRanked_tiedEngine 4 (by decide)) vectorRanked_tiedEngine
  rw [hids] at hfirst
  rw [fusedIds_tiedEngine] at hnext hwhole
  exact ⟨reached_tiedEngine, hmode, hfirst, hnext, hwhole⟩

/-- From the second document on, nothing is left out of a page, and the pages follow on from each other. -/
theorem hybrid_pages_tiedEngine : tiedRequest.mode = .hybrid ∧ 0 + 2 + 1 ≤ 5000 ∧
    (∃ g, tiedEngine.indexes.vector.Ready tiedEngine.indexes.store g) ∧
    tiedEngine.indexes.storedCount = 3 ∧
    (tiedEngine.indexes.text.foundRows tiedRequest.text tiedRequest.tenant).length = 0 ∧
    idsOf (tiedEngine.search false (tiedRequest.page 0 2) 0).1 = some ["a", "b"] ∧
    (tiedEngine.search false (tiedRequest.page (0 + 2) 1) 0).1 =
      (tiedEngine.search false (tiedRequest.page 0 (2 + 1)) 0).1.map
        (fun whole => ⟨whole.hits.drop 2, whole.total⟩) ∧
    (tiedEngine.search false (tiedRequest.page 0 2) 0).1 =
      (tiedEngine.search false (tiedRequest.page 0 (2 + 1)) 0).1.map
        fun whole => ⟨whole.hits.take 2, whole.total⟩ := by
  have hmode : tiedRequest.mode = .hybrid := rfl
  have hstored : tiedEngine.indexes.storedCount = 3 := by
    rw [run_tiedEngine.2.2]
    decide +kernel
  have hrows : (tiedEngine.indexes.text.foundRows tiedRequest.text tiedRequest.tenant).length = 0 := by
    have hterm : Query.Expression.ofText? "blue" = some ⟨[.beginning ['b', 'l', 'u', 'e']], []⟩ := by
      decide +kernel
    rw [tiedRequest, TextIndex.foundRows, hterm]
    dsimp only
    rw [TextIndex.length_rankedRows, run_tiedEngine.2.2]
    decide +kernel
  have hids := idsOf_hybrid run_tiedEngine.1.isOpen hmode 0 2 (by decide) rfl
    (textRanked_tiedEngine 4 (by decide)) vectorRanked_tiedEngine
  rw [fusedIds_tiedEngine] at hids
  obtain ⟨hnext, -, -, hfirst⟩ :=
    tiedEngine.hybrid_pages false hmode 0 0 (show 1 ≤ 2 by decide) (show 1 ≤ 1 by decide) (by decide)
  obtain ⟨g, hg⟩ := ready_tiedEngine
  exact ⟨hmode, by decide, ⟨g, hg⟩, hstored, hrows, hids, hnext,
    hfirst g hg (by rw [hstored]; decide) (by rw [hrows]; decide)⟩

end Engine

end HybridSearch
