import HybridSearch.Proofs.Engine.HybridPaging

/-!
# A hybrid search as two searches

The reference for fusing two rankings says what the fused ranking is, id by id: which ids it has, which
document stands for an id, what the score is and in which order. There is one such ranking, and it is the one
that a hybrid search cuts its page from, made of what a full-text search and a vector search answer when they
are asked for twice as many documents.
-/
namespace HybridSearch

namespace Fusion

/-- What a ranking adds to an id: its scores, each times the weight of the ranking. -/
def contributions (weight : Binary64) (ranking : List Scored) (id : String) : List Binary64 :=
  (ranking.filter fun s => s.document.id = id).map fun s => s.score * weight

def sum : List Binary64 → Binary64
  | [] => Binary64.zero
  | first :: rest => rest.foldl (· + ·) first

/-- The document that two rankings have for an id, the text side first. -/
def documentOf (text vector : List Scored) (id : String) : Option Document :=
  ((text ++ vector).map fun s => s.document).find? fun d => d.id = id

/-- The fused ranking of two rankings: every id of either once, with the sum of its weighted scores, the higher
score first and ids that tie in byte order. -/
structure Fuses (text vector : List Scored) (textWeight vectorWeight : Binary64) (fused : List Scored) :
    Prop where
  ids : ∀ id, id ∈ fused.map (fun s => s.document.id) ↔ id ∈ (text ++ vector).map fun s => s.document.id
  once : (fused.map fun s => s.document.id).Nodup
  document : ∀ s ∈ fused, documentOf text vector s.document.id = some s.document
  score : ∀ s ∈ fused, s.score = sum (contributions textWeight text s.document.id ++
    contributions vectorWeight vector s.document.id)
  sorted : fused.Pairwise (Ahead (fun s => s.score.rank) fun s => s.document.id)

variable {text vector fused fused' ranking merged : List Scored} {textWeight vectorWeight : Binary64}

theorem Fuses.subset (h : Fuses text vector textWeight vectorWeight fused)
    (h' : Fuses text vector textWeight vectorWeight fused') : fused ⊆ fused' := by
  intro s hs
  obtain ⟨s', hs', hid⟩ :=
    List.mem_map.mp ((h'.ids s.document.id).mpr ((h.ids _).mp (List.mem_map_of_mem hs)))
  have hdocument : some s'.document = some s.document := by
    rw [← h'.document s' hs', ← h.document s hs, hid]
  have hscore : s'.score = s.score := by
    rw [h'.score s' hs', h.score s hs, hid]
  obtain ⟨d', x'⟩ := s'
  obtain ⟨d, x⟩ := s
  obtain rfl : d' = d := Option.some.inj hdocument
  obtain rfl : x' = x := hscore
  exact hs'

theorem Fuses.unique (h : Fuses text vector textWeight vectorWeight fused)
    (h' : Fuses text vector textWeight vectorWeight fused') : fused = fused' := by
  have hperm : fused.Perm fused' := (List.perm_ext_iff_of_nodup h.once.of_map h'.once.of_map).mpr
    fun s => ⟨fun hs => h.subset h' hs, fun hs => h'.subset h hs⟩
  exact hperm.eq_of_pairwise (fun a b _ _ hab hba => absurd (hab.trans hba) (Ahead.irrefl a)) h.sorted h'.sorted

/-- What merging keeps: a merged ranking has every id once, with its first document and the sum of its scores. -/
structure Merges (ranking merged : List Scored) : Prop where
  ids : ∀ id, id ∈ merged.map (fun s => s.document.id) ↔ id ∈ ranking.map fun s => s.document.id
  once : (merged.map fun s => s.document.id).Nodup
  document : ∀ s ∈ merged,
    (ranking.map fun s => s.document).find? (fun d => d.id = s.document.id) = some s.document
  score : ∀ s ∈ merged,
    s.score = sum ((ranking.filter fun t => t.document.id = s.document.id).map fun t => t.score)

theorem sum_append_singleton {scores : List Binary64} (h : scores ≠ []) (x : Binary64) :
    sum (scores ++ [x]) = sum scores + x := by
  cases scores with
  | nil => exact absurd rfl h
  | cons first rest => exact List.foldl_append

theorem mem_merge (hmerged : (merged.map fun s => s.document.id).Nodup) {s x : Scored}
    (hx : x ∈ merge merged s) :
    x ∈ merged ∧ x.document.id ≠ s.document.id ∨
      (∃ y ∈ merged, y.document.id = s.document.id ∧ x = { y with score := y.score + s.score }) ∨
      s.document.id ∉ merged.map (fun s => s.document.id) ∧ x = s := by
  induction merged with
  | nil => exact .inr (.inr ⟨List.not_mem_nil, List.mem_singleton.mp hx⟩)
  | cons first rest ih =>
    obtain ⟨hfirst, hrest⟩ := List.nodup_cons.mp hmerged
    rw [merge] at hx
    split at hx
    · next hid =>
      rcases List.mem_cons.mp hx with rfl | hx
      · exact .inr (.inl ⟨first, List.mem_cons_self, hid, rfl⟩)
      · refine .inl ⟨List.mem_cons_of_mem _ hx, fun h => hfirst ?_⟩
        exact List.mem_map.mpr ⟨x, hx, h.trans hid.symm⟩
    · next hid =>
      rcases List.mem_cons.mp hx with rfl | hx
      · exact .inl ⟨List.mem_cons_self, hid⟩
      · rcases ih hrest hx with ⟨hx, hne⟩ | ⟨y, hy, hy'⟩ | ⟨hnew, rfl⟩
        · exact .inl ⟨List.mem_cons_of_mem _ hx, hne⟩
        · exact .inr (.inl ⟨y, List.mem_cons_of_mem _ hy, hy'⟩)
        · refine .inr (.inr ⟨fun hmem => ?_, rfl⟩)
          rcases List.mem_cons.mp hmem with h | h
          · exact hid h.symm
          · exact hnew h

theorem Merges.merge (h : Merges ranking merged) (s : Scored) :
    Merges (ranking ++ [s]) (merge merged s) := by
  have hids : ∀ id, id ∈ (Fusion.merge merged s).map (fun x => x.document.id) ↔
      id ∈ (ranking ++ [s]).map fun x => x.document.id := by
    intro id
    rw [ids_merge, List.map_append, List.mem_append, ← h.ids, List.map_singleton, List.mem_singleton]
    split
    · next hmem => exact ⟨.inl, fun h => h.elim (fun h => h) fun h => h ▸ hmem⟩
    · rw [List.mem_append, List.mem_singleton]
  refine ⟨hids, nodup_merge h.once s, fun x hx => ?_, fun x hx => ?_⟩
  · rw [List.map_append, List.find?_append]
    rcases mem_merge h.once hx with ⟨hx, -⟩ | ⟨y, hy, -, rfl⟩ | ⟨hnew, rfl⟩
    · rw [h.document x hx, Option.some_or]
    · rw [h.document y hy, Option.some_or]
    · have hnone : (ranking.map fun s => s.document).find? (fun d => d.id = x.document.id) = none := by
        rw [List.find?_eq_none]
        intro d hd hid
        obtain ⟨t, ht, rfl⟩ := List.mem_map.mp hd
        exact hnew ((h.ids _).mpr (List.mem_map.mpr ⟨t, ht, by simpa using hid⟩))
      rw [hnone, Option.none_or, List.map_singleton, List.find?_singleton, if_pos (by simp)]
  · rw [List.filter_append, List.map_append]
    rcases mem_merge h.once hx with ⟨hx, hne⟩ | ⟨y, hy, hid, rfl⟩ | ⟨hnew, rfl⟩
    · rw [List.filter_cons_of_neg (by simpa using Ne.symm hne), List.filter_nil, List.map_nil,
        List.append_nil]
      exact h.score x hx
    · obtain ⟨t, ht, htid⟩ := List.mem_map.mp ((h.ids _).mp (List.mem_map_of_mem hy))
      have hsome : (ranking.filter fun t => t.document.id = y.document.id).map (fun t => t.score) ≠ [] :=
        List.ne_nil_of_mem (List.mem_map_of_mem (List.mem_filter.mpr ⟨ht, by simpa using htid⟩))
      dsimp only
      rw [List.filter_cons_of_pos (by simp [hid]), List.filter_nil, List.map_singleton,
        sum_append_singleton hsome, ← h.score y hy]
    · have hnone : ranking.filter (fun t => t.document.id = x.document.id) = [] := by
        rw [List.filter_eq_nil_iff]
        intro t ht hid
        exact hnew ((h.ids _).mpr (List.mem_map.mpr ⟨t, ht, by simpa using hid⟩))
      rw [hnone, List.filter_cons_of_pos (by simp), List.filter_nil]
      rfl

theorem merges_foldl (ranking : List Scored) : Merges ranking (ranking.foldl Fusion.merge []) := by
  induction ranking using List.reverseRecOn with
  | nil =>
    exact ⟨fun _ => Iff.rfl, List.nodup_nil, fun _ hs => (List.not_mem_nil hs).elim,
      fun _ hs => (List.not_mem_nil hs).elim⟩
  | append_singleton ranking s ih =>
    rw [List.foldl_append]
    exact ih.merge s

theorem documents_scaled (weight : Binary64) (ranking : List Scored) :
    (scaled weight ranking).map (fun s => s.document) = ranking.map fun s => s.document := by
  rw [scaled, List.map_map]
  rfl

theorem scores_scaled (weight : Binary64) (ranking : List Scored) (id : String) :
    ((scaled weight ranking).filter fun s => s.document.id = id).map (fun s => s.score) =
      contributions weight ranking id := by
  rw [scaled, List.filter_map, List.map_map]
  rfl

theorem Merges.fuses (h : Merges (scaled textWeight text ++ scaled vectorWeight vector) merged)
    (hperm : fused.Perm merged) (hsorted : fused.Pairwise fun a b => precedes a b = true) :
    Fuses text vector textWeight vectorWeight fused := by
  have hdocuments : (scaled textWeight text ++ scaled vectorWeight vector).map (fun s => s.document) =
      (text ++ vector).map fun s => s.document := by
    rw [List.map_append, documents_scaled, documents_scaled, List.map_append]
  have honce : (fused.map fun s => s.document.id).Nodup := (hperm.map _).nodup_iff.mpr h.once
  refine ⟨fun id => ?_, honce, fun s hs => ?_, fun s hs => ?_, precedes_sortsBy.pairwise_of_le hsorted honce⟩
  · have hids := congrArg (List.map Document.id) hdocuments
    rw [List.map_map, List.map_map] at hids
    rw [(hperm.map _).mem_iff, h.ids]
    exact iff_of_eq (congrArg (id ∈ ·) hids)
  · rw [documentOf, ← hdocuments]
    exact h.document s (hperm.mem_iff.mp hs)
  · rw [h.score s (hperm.mem_iff.mp hs), List.filter_append, List.map_append, scores_scaled, scores_scaled]

theorem fuses_fuse (text vector : List Scored) (textWeight vectorWeight : Binary64) :
    Fuses text vector textWeight vectorWeight (fuse text vector textWeight vectorWeight) :=
  (merges_foldl _).fuses (List.mergeSort_perm _ _)
    (List.pairwise_mergeSort precedes_sortsBy.trans precedes_sortsBy.total _)

theorem fuses_iff : Fuses text vector textWeight vectorWeight fused ↔
    fused = fuse text vector textWeight vectorWeight :=
  ⟨fun h => h.unique (fuses_fuse ..), fun h => h ▸ fuses_fuse ..⟩

end Fusion

theorem TextIndex.length_ranked_le {ix : TextIndex} {query tenant : String} {limit : Nat}
    {ranking : List Scored} (h : ix.ranked query tenant limit = .ok ranking) : ranking.length ≤ limit := by
  obtain ⟨-, -, hshown⟩ := TextIndex.ranked_ok_iff.mp h
  rw [← hshown.length_eq]
  exact List.length_take_le _ _

theorem TextIndex.length_hydrate_le {ix : TextIndex} {tenant : String} {metric : Metric}
    {neighbors : List Neighbor} {ranking : List Scored}
    (h : ix.hydrate tenant metric neighbors = .ok ranking) : ranking.length ≤ neighbors.length := by
  induction neighbors generalizing ranking with
  | nil =>
    obtain rfl := Except.ok.inj h
    exact Nat.le_refl _
  | cons n rest ih =>
    rw [TextIndex.hydrate] at h
    split at h
    · exact Nat.le_succ_of_le (ih h)
    · cases h
    · obtain ⟨d, -, h⟩ := exists_of_bind_ok h
      obtain ⟨others, hothers, h⟩ := exists_of_bind_ok h
      obtain rfl := Except.ok.inj h
      exact Nat.succ_le_succ (ih hothers)

theorem VectorIndex.length_nearest_le {config : VectorConfig} {d : Draft} {query : Embedding} {k : Nat}
    {entry : EntryPoint} {distance : Binary64} {hits : List Neighbor}
    (h : nearest config d query k entry distance = .ok hits) : hits.length ≤ k := by
  obtain ⟨closest, -, h⟩ := exists_of_bind_ok h
  obtain ⟨found, -, h⟩ := exists_of_bind_ok h
  obtain rfl := Except.ok.inj h
  rw [List.length_map]
  exact List.length_take_le _ _

theorem VectorIndex.length_lookUp_le {config : VectorConfig} {store : StoreHandle} {cancel : Cancellation}
    {query : Embedding} {k : Nat} {hits : List Neighbor}
    (h : lookUp config store cancel query k = .ok hits) : hits.length ≤ k := by
  obtain ⟨-, -, h⟩ := exists_of_bind_ok h
  dsimp only at h
  split at h
  · cases h
  split at h
  · cases h
  obtain ⟨entry, -, h⟩ := exists_of_bind_ok h
  cases entry with
  | none => cases h
  | some entry =>
    obtain ⟨distance, -, h⟩ := exists_of_bind_ok h
    split at h
    · cases h
    exact length_nearest_le h

namespace Indexes

variable {ixs : Indexes} {config : EngineConfig} {r : SearchRequest} {limit offset : Nat}
  {ranking : List Scored}

theorem length_vectorRanked_le (h : (ixs.vectorRanked r limit).1 = .ok ranking) :
    ranking.length ≤ limit := by
  rw [vectorRanked] at h
  split at h
  · cases h
  · split at h
    · cases h
    · next v _ _ neighbors vector hsearch =>
      have hfound : VectorIndex.lookUp ixs.vector.config ixs.store .never v
          (min limit VectorIndex.maxCount) = .ok neighbors := by
        rw [VectorIndex.search] at hsearch
        split at hsearch
        · cases hsearch
        · next hits hhits => exact hhits.trans (congrArg (·.1) hsearch)
      calc ranking.length ≤ neighbors.length := TextIndex.length_hydrate_le h
        _ ≤ min limit VectorIndex.maxCount := VectorIndex.length_lookUp_le hfound
        _ ≤ limit := Nat.min_le_left _ _

theorem hits_pageOf_of_length_le (h : ranking.length ≤ limit) : pageOf ranking 0 limit =
    ⟨ranking, ranking.length⟩ := by
  rw [pageOf, List.drop_zero, List.take_of_length_le h]

end Indexes

def SearchRequest.inMode (r : SearchRequest) (mode : SearchMode) : SearchRequest := { r with mode }

namespace Engine

/-- What a search that has failed counts for: nothing. -/
def hitsOf (answer : Except EngineError SearchPage) : List Scored :=
  (answer.toOption.map fun p => p.hits).getD []

variable {e : Engine} {r : SearchRequest} {limit : Nat}

theorem search_inMode_fullText (hopen : e.isOpen = true) (nanos : Nat)
    (hlimit : 1 ≤ limit ∧ limit ≤ maxSearchLimit) :
    (e.search false ((r.inMode .fullText).page 0 limit) nanos).1 =
      (e.indexes.textRanked r limit).map fun ranking => ⟨ranking, ranking.length⟩ := by
  rw [search_page _ _ _ _ _ hlimit, admits_ok_iff.mpr ⟨hopen, rfl⟩, Nat.add_zero,
    Nat.min_eq_left hlimit.2]
  show (e.indexes.textRanked r limit).map (Indexes.pageOf · 0 limit) = _
  cases hranking : e.indexes.textRanked r limit with
  | error cause => rfl
  | ok ranking =>
    exact congrArg Except.ok (Indexes.hits_pageOf_of_length_le (TextIndex.length_ranked_le hranking))

theorem search_inMode_vector (hopen : e.isOpen = true) (nanos : Nat)
    (hlimit : 1 ≤ limit ∧ limit ≤ maxSearchLimit) :
    (e.search false ((r.inMode .vector).page 0 limit) nanos).1 =
      (e.indexes.vectorRanked r limit).1.map fun ranking => ⟨ranking, ranking.length⟩ := by
  rw [search_page _ _ _ _ _ hlimit, admits_ok_iff.mpr ⟨hopen, rfl⟩, Nat.add_zero,
    Nat.min_eq_left hlimit.2]
  show (e.indexes.vectorRanked r limit).1.map (Indexes.pageOf · 0 limit) = _
  cases hranking : (e.indexes.vectorRanked r limit).1 with
  | error cause => rfl
  | ok ranking =>
    exact congrArg Except.ok (Indexes.hits_pageOf_of_length_le (Indexes.length_vectorRanked_le hranking))

/-- A hybrid search shows the beginning of what the two sides rank in a window twice as wide. -/
theorem search_inMode_hybrid (hopen : e.isOpen = true) (nanos : Nat) (hlimit : 1 ≤ limit ∧ limit ≤ 5000) :
    (e.search false ((r.inMode .hybrid).page 0 limit) nanos).1 =
      (Indexes.combine e.config (e.indexes.textRanked r (2 * limit))
        (e.indexes.vectorRanked r (2 * limit)).1).map fun ranking => ⟨ranking.take limit, ranking.length⟩ := by
  have hmax : maxSearchLimit = 10000 := rfl
  rw [search_page _ _ _ _ _ ⟨hlimit.1, by omega⟩, admits_ok_iff.mpr ⟨hopen, rfl⟩, Nat.add_zero,
    Nat.min_eq_left (by omega)]
  show (e.indexes.hybridRanked e.config r limit).1.map (Indexes.pageOf · 0 limit) = _
  rw [Indexes.hybridRanked, Nat.min_eq_left (by omega)]
  rfl

/-- A hybrid search shows the beginning of the one fused ranking of what a full-text search and a vector search
show when they are asked for twice as many documents, and fails with the two causes when both of them fail. -/
theorem search_hybrid_fuses (e : Engine) (r : SearchRequest) (hopen : e.isOpen = true)
    (hlimit : 1 ≤ limit ∧ limit ≤ 5000) (textNanos vectorNanos nanos : Nat) :
    let text := (e.search false ((r.inMode .fullText).page 0 (2 * limit)) textNanos).1
    let vector := (e.search false ((r.inMode .vector).page 0 (2 * limit)) vectorNanos).1
    let hybrid := (e.search false ((r.inMode .hybrid).page 0 limit) nanos).1
    (text.isOk = true ∨ vector.isOk = true → ∃ fused,
      (∀ ranking, Fusion.Fuses (hitsOf text) (hitsOf vector) e.config.textWeight e.config.vectorWeight
        ranking ↔ ranking = fused) ∧
      hybrid = .ok ⟨fused.take limit, fused.length⟩) ∧
    ∀ cause cause', text = .error cause → vector = .error cause' →
      hybrid = .error (.hybridFailed cause cause') := by
  have hmax : maxSearchLimit = 10000 := rfl
  dsimp only
  rw [search_inMode_fullText hopen textNanos ⟨by omega, by omega⟩,
    search_inMode_vector hopen vectorNanos ⟨by omega, by omega⟩, search_inMode_hybrid hopen nanos hlimit]
  cases e.indexes.textRanked r (2 * limit) with
  | ok text =>
    refine ⟨fun _ => ⟨_, fun ranking => Fusion.fuses_iff, ?_⟩, fun cause cause' h => nomatch h⟩
    cases (e.indexes.vectorRanked r (2 * limit)).1 with
    | ok vector => rfl
    | error onVector => rfl
  | error onText =>
    cases (e.indexes.vectorRanked r (2 * limit)).1 with
    | ok vector =>
      exact ⟨fun _ => ⟨_, fun ranking => Fusion.fuses_iff, rfl⟩, fun cause cause' _ h => nomatch h⟩
    | error onVector =>
      refine ⟨fun h => ?_, fun cause cause' h h' => ?_⟩
      · rcases h with h | h
        · cases h
        · cases h
      · obtain rfl := Except.error.inj h
        obtain rfl := Except.error.inj h'
        rfl

theorem idsOf_map_whole (ranking : Except EngineError (List Scored)) :
    idsOf (ranking.map fun ranking => ⟨ranking, ranking.length⟩) =
      (ratings ranking).map fun rated => rated.map fun x => x.1 := by
  cases ranking with
  | error cause => rfl
  | ok ranking =>
    show some (ranking.map _) = some ((ranking.map _).map _)
    rw [List.map_map]
    rfl

/-- The vector side of three documents that tie is fused with a text side that has found nothing; a request for
nothing fails on both sides. -/
theorem hybrid_tiedEngine : tiedEngine.isOpen = true ∧ (1 ≤ 2 ∧ 2 ≤ 5000) ∧
    idsOf (tiedEngine.search false ((tiedRequest.inMode .fullText).page 0 (2 * 2)) 0).1 = some [] ∧
    idsOf (tiedEngine.search false ((tiedRequest.inMode .vector).page 0 (2 * 2)) 0).1 =
      some ["b", "c", "a"] ∧
    idsOf (tiedEngine.search false ((tiedRequest.inMode .hybrid).page 0 2) 0).1 = some ["a", "b"] ∧
    (tiedEngine.search false ((({} : SearchRequest).inMode .hybrid).page 0 2) 0).1 =
      .error (.hybridFailed (.text .emptyQuery) (.invalidQuery .noQueryVector)) := by
  have hopen := run_tiedEngine.1.isOpen
  have hlimit : 1 ≤ 2 ∧ 2 ≤ 5000 := by decide
  have hwide : 1 ≤ 2 * 2 ∧ 2 * 2 ≤ maxSearchLimit := by decide
  have htext := search_inMode_fullText (r := tiedRequest) hopen 0 hwide
  have hvector := search_inMode_vector (r := tiedRequest) hopen 0 hwide
  obtain ⟨hanswered, -⟩ := search_hybrid_fuses tiedEngine tiedRequest hopen hlimit 0 0 0
  obtain ⟨-, hfailed⟩ := search_hybrid_fuses tiedEngine {} hopen hlimit 0 0 0
  obtain ⟨text, htextSide, htextRated⟩ :=
    Option.map_eq_some_iff.mp (textRanked_tiedEngine 4 (by decide))
  obtain ⟨vector, hvectorSide, hvectorRated⟩ := Option.map_eq_some_iff.mp vectorRanked_tiedEngine
  rw [ok_of_toOption htextSide] at htext
  rw [ok_of_toOption hvectorSide] at hvector
  obtain ⟨fused, hfused, hhybrid⟩ := hanswered (.inl (by rw [htext]; rfl))
  have hids : fused.map (fun s => s.document.id) = ["a", "b", "c"] := by
    rw [Fusion.fuses_iff.mp ((hfused fused).mpr rfl), fusedIds_eq, htext, hvector]
    show fusedIds _ (text.map _) (vector.map _) = _
    rw [htextRated, hvectorRated, fusedIds_tiedEngine]
  refine ⟨hopen, hlimit, ?_, ?_, ?_, hfailed _ _ ?_ ?_⟩
  · rw [search_inMode_fullText hopen 0 hwide, idsOf_map_whole, textRanked_tiedEngine 4 (by decide)]
    rfl
  · rw [search_inMode_vector hopen 0 hwide, idsOf_map_whole, vectorRanked_tiedEngine]
    rfl
  · rw [hhybrid]
    show some ((fused.take 2).map _) = _
    rw [List.map_take, hids]
    rfl
  · rw [search_inMode_fullText hopen 0 hwide]
    rfl
  · rw [search_inMode_vector hopen 0 hwide]
    rfl

end Engine

end HybridSearch
