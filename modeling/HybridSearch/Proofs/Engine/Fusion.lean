import HybridSearch.Engine.Engine
import HybridSearch.Proofs.Except

/-!
# Where the documents of a search come from

Fusing only scales and adds scores, so every document of a fused ranking is one of the two rankings. A
search in any mode answers documents that the text side or the vector side ranks for the same request.
-/
namespace HybridSearch

namespace Fusion

theorem document_merge {merged : List Scored} {s x : Scored} (h : x ∈ merge merged s) :
    x.document = s.document ∨ ∃ y ∈ merged, x.document = y.document := by
  induction merged with
  | nil => exact .inl (congrArg Scored.document (List.mem_singleton.mp h))
  | cons first rest ih =>
    rw [merge] at h
    split at h
    · rcases List.mem_cons.mp h with rfl | hrest
      · exact .inr ⟨first, List.mem_cons_self, rfl⟩
      · exact .inr ⟨x, List.mem_cons_of_mem _ hrest, rfl⟩
    · rcases List.mem_cons.mp h with rfl | hrest
      · exact .inr ⟨x, List.mem_cons_self, rfl⟩
      · rcases ih hrest with hnew | ⟨y, hy, hold⟩
        · exact .inl hnew
        · exact .inr ⟨y, List.mem_cons_of_mem _ hy, hold⟩

theorem document_foldl_merge {ranking merged : List Scored} {x : Scored}
    (h : x ∈ ranking.foldl merge merged) : ∃ y ∈ merged ++ ranking, x.document = y.document := by
  induction ranking generalizing merged with
  | nil => exact ⟨x, by rw [List.append_nil]; exact h, rfl⟩
  | cons s rest ih =>
    obtain ⟨y, hy, hx⟩ := ih h
    rcases List.mem_append.mp hy with hmerged | hrest
    · rcases document_merge hmerged with hs | ⟨z, hz, hyz⟩
      · exact ⟨s, List.mem_append_right _ List.mem_cons_self, hx.trans hs⟩
      · exact ⟨z, List.mem_append_left _ hz, hx.trans hyz⟩
    · exact ⟨y, List.mem_append_right _ (List.mem_cons_of_mem _ hrest), hx⟩

theorem document_scaled {weight : Binary64} {ranking : List Scored} {x : Scored}
    (h : x ∈ scaled weight ranking) : ∃ y ∈ ranking, x.document = y.document := by
  obtain ⟨y, hy, rfl⟩ := List.mem_map.mp h
  exact ⟨y, hy, rfl⟩

theorem document_fuse {text vector : List Scored} {textWeight vectorWeight : Binary64} {x : Scored}
    (h : x ∈ fuse text vector textWeight vectorWeight) :
    ∃ y ∈ text ++ vector, x.document = y.document := by
  rw [fuse, List.mem_mergeSort] at h
  obtain ⟨y, hy, hx⟩ := document_foldl_merge h
  rw [List.nil_append] at hy
  rcases List.mem_append.mp hy with htext | hvector
  · obtain ⟨z, hz, hyz⟩ := document_scaled htext
    exact ⟨z, List.mem_append_left _ hz, hx.trans hyz⟩
  · obtain ⟨z, hz, hyz⟩ := document_scaled hvector
    exact ⟨z, List.mem_append_right _ hz, hx.trans hyz⟩

end Fusion

namespace Indexes

/-- The documents that a side of a search ranks. -/
inductive Ranks (ixs : Indexes) (request : SearchRequest) : Document → Prop
  | text {limit : Nat} {ranking : List Scored} {x : Scored}
      (hranking : ixs.textRanked request limit = .ok ranking) (hx : x ∈ ranking) :
      Ranks ixs request x.document
  | vector {limit : Nat} {ranking : List Scored} {x : Scored}
      (hranking : (ixs.vectorRanked request limit).1 = .ok ranking) (hx : x ∈ ranking) :
      Ranks ixs request x.document

variable {ixs : Indexes} {config : EngineConfig} {request : SearchRequest} {limit : Nat}
  {ranking : List Scored} {x : Scored}

theorem vectorRanked_ok (h : (ixs.vectorRanked request limit).1 = .ok ranking) :
    ∃ metric neighbors, ixs.text.hydrate request.tenant metric neighbors = .ok ranking := by
  rw [vectorRanked] at h
  split at h
  · cases h
  · split at h
    · cases h
    · exact ⟨_, _, h⟩

theorem combine_ok {text vector : Except EngineError (List Scored)}
    (h : combine config text vector = .ok ranking) :
    ranking = Fusion.fuse (text.toOption.getD []) (vector.toOption.getD [])
      config.textWeight config.vectorWeight := by
  cases text with
  | error onText =>
    cases vector with
    | error onVector => cases h
    | ok ranked => exact (Except.ok.inj h).symm
  | ok ranked => exact (Except.ok.inj h).symm

theorem ok_of_mem_toOption {side : Except EngineError (List Scored)}
    (h : x ∈ side.toOption.getD []) : ∃ ranking, side = .ok ranking ∧ x ∈ ranking := by
  cases side with
  | error e => cases h
  | ok ranking => exact ⟨ranking, rfl, h⟩

theorem ranks_hybridRanked (h : (ixs.hybridRanked config request limit).1 = .ok ranking)
    (hx : x ∈ ranking) : ixs.Ranks request x.document := by
  have hfused := combine_ok h
  rw [hfused] at hx
  obtain ⟨y, hy, hxy⟩ := Fusion.document_fuse hx
  rw [hxy]
  rcases List.mem_append.mp hy with htext | hvector
  · obtain ⟨found, hfound, hmem⟩ := ok_of_mem_toOption htext
    exact .text hfound hmem
  · obtain ⟨found, hfound, hmem⟩ := ok_of_mem_toOption hvector
    exact .vector hfound hmem

theorem ranks_ranked (h : (ixs.ranked config request limit).1 = .ok ranking) (hx : x ∈ ranking) :
    ixs.Ranks request x.document := by
  rw [Indexes.ranked] at h
  split at h
  · exact .text h hx
  · exact .vector h hx
  · exact ranks_hybridRanked h hx
  · cases h

theorem ranks_search {cancelled : Bool} {page : SearchPage}
    (h : (ixs.search config cancelled request).1 = .ok page) {hit : Scored} (hhit : hit ∈ page.hits) :
    ixs.Ranks request hit.document := by
  rw [Indexes.search] at h
  split at h
  · cases h
  next size hsize =>
  split at h
  · cases h
  dsimp only at h
  cases hranking : (ixs.ranked config request (min (size + request.offset) maxSearchLimit)).1 with
  | error e =>
    rw [hranking] at h
    cases h
  | ok ranking =>
    rw [hranking] at h
    obtain rfl := Except.ok.inj h
    exact ranks_ranked hranking (List.mem_of_mem_drop (List.mem_of_mem_take hhit))

end Indexes

theorem Engine.search_ok {e : Engine} {cancelled : Bool} {request : SearchRequest} {nanos : Nat}
    {page : SearchPage} (h : (e.search cancelled request nanos).1 = .ok page) :
    (e.indexes.search e.config cancelled request).1 = .ok page := by
  rw [Engine.search] at h
  split at h
  · cases h
  dsimp only at h
  split at h
  · cases h
  next found hfound =>
  obtain rfl := Except.ok.inj h
  exact hfound

end HybridSearch
