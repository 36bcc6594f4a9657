import HybridSearch.Proofs.Engine.Paging
import HybridSearch.Proofs.Engine.Room

/-!
# Tenants that crowd each other out

A vector search looks for the nearest of all stored embeddings and drops those that are not the tenant's
afterwards. Whatever other tenants write, a tenant's own embeddings keep their order; but the others decide how
many of its own are among the nearest, and a search shows no more than those.
-/
namespace HybridSearch

theorem Graph.mem_measured_iff {g : Graph} {query : Embedding} {c : Candidate} :
    c ∈ g.measured query ↔ ∃ v, g.embedding? c.id = some v ∧ g.metric.distance query v = c.distance := by
  rw [mem_measured, embedding?]
  by_cases hid : c.id ∈ g.ids
  · simp [hid, distance]
  · simp [hid]

theorem SearchRequest.embedding_of_sought {r : SearchRequest} {v : Embedding}
    (h : r.soughtEmbedding = .ok v) : r.embedding = some v := by
  rw [soughtEmbedding] at h
  split at h
  · cases h
  · cases h
  · next found _ hfound =>
    split at h
    · cases h
    · rw [hfound, Except.ok.inj h]

namespace Indexes

variable {ixs : Indexes} {g : Graph} {r : SearchRequest} {tenant : String} {v : Embedding} {k : Nat}

/-- All stored embeddings, by their distances to a query and then by their ids. -/
def neighbors (ixs : Indexes) (v : Embedding) : List Neighbor :=
  VectorIndex.bruteForce ixs.vector.config ixs.store.content v ixs.storedCount

def ownNeighbors (ixs : Indexes) (tenant : String) (v : Embedding) : List Neighbor :=
  (ixs.neighbors v).filter fun n => ixs.text.tables.owns tenant n.id

/-- How many of the nearest embeddings are a tenant's own. -/
def share (ixs : Indexes) (tenant : String) (v : Embedding) (k : Nat) : Nat :=
  (((ixs.neighbors v).take k).filter fun n => ixs.text.tables.owns tenant n.id).length

theorem length_neighbors_le (ixs : Indexes) (v : Embedding) : (ixs.neighbors v).length ≤ ixs.storedCount := by
  rw [neighbors, VectorIndex.bruteForce, List.length_map]
  exact List.length_take_le _ _

/-- What measuring finds is the beginning of one list, however much is asked for. -/
theorem bruteForce_eq_take (ixs : Indexes) (v : Embedding) (k : Nat) :
    VectorIndex.bruteForce ixs.vector.config ixs.store.content v k = (ixs.neighbors v).take k := by
  have hall : (Candidate.sort ((VectorIndex.storedEmbeddings ixs.vector.config ixs.store.content).filterMap
      (VectorIndex.measure? ixs.vector.config v))).length ≤ ixs.storedCount := by
    rw [Candidate.length_sort]
    exact List.length_filterMap_le _ _
  rw [neighbors, VectorIndex.bruteForce, VectorIndex.bruteForce, List.take_of_length_le hall, List.map_take]

theorem neighbors_eq (h : ixs.vector.Ready ixs.store g) (v : Embedding) : ixs.neighbors v =
    (Candidate.sort (g.measured v)).map fun c => (⟨c.id, c.distance⟩ : Neighbor) := by
  rw [neighbors, h.holds.bruteForce_eq, List.take_of_length_le]
  rw [Candidate.length_sort, Graph.measured, List.length_map, storedCount_eq h]

theorem filter_take_neighbors (ixs : Indexes) (tenant : String) (v : Embedding) (k : Nat) :
    (((ixs.neighbors v).take k).filter fun n => ixs.text.tables.owns tenant n.id) =
      (ixs.ownNeighbors tenant v).take (ixs.share tenant v k) :=
  List.prefix_iff_eq_take.mp ((List.take_prefix k (ixs.neighbors v)).filter _)

theorem share_le (ixs : Indexes) (tenant : String) (v : Embedding) (k : Nat) :
    ixs.share tenant v k ≤ (ixs.ownNeighbors tenant v).length :=
  ((List.take_prefix k (ixs.neighbors v)).filter _).length_le

/-- A search that reaches as far as everything that is stored leaves out none of a tenant's own. -/
theorem share_of_few (tenant : String) (v : Embedding) (hfew : ixs.storedCount ≤ k) :
    ixs.share tenant v k = (ixs.ownNeighbors tenant v).length := by
  rw [share, List.take_of_length_le ((ixs.length_neighbors_le v).trans hfew)]
  rfl

/-- The documents of so many of a tenant's own nearest embeddings. -/
def ownDocuments (ixs : Indexes) (tenant : String) (v : Embedding) (share : Nat) :
    Except EngineError (List Scored) := do
  (VectorIndex.checkVector ixs.vector.config v).mapError .vector
  ixs.text.ensureOpen.mapError .text
  ixs.text.hydrate tenant ixs.vector.config.metric ((ixs.ownNeighbors tenant v).take share)

/-- The same for the embedding that a request asks for, if it does. -/
def ownRanked (ixs : Indexes) (r : SearchRequest) (share : Nat) : Except EngineError (List Scored) := do
  ixs.ownDocuments r.tenant (← r.soughtEmbedding) share

theorem search_of_stored (h : ixs.vector.Ready ixs.store g) (hc : g.Complete) (hstored : g.ids ≠ [])
    (hk : 1 ≤ k ∧ k ≤ VectorIndex.maxCount) (v : Embedding) :
    (ixs.vector.search ixs.store .never v k).1 =
      (VectorIndex.checkVector ixs.vector.config v).map fun _ => (ixs.neighbors v).take k := by
  have hrange : (!(decide (1 ≤ k) && decide (k ≤ VectorIndex.maxCount))) = false := by simp [hk]
  have hsome : (VectorIndex.storedEmbeddings ixs.vector.config ixs.store.content).isEmpty = false := by
    rw [h.holds.storedEmbeddings_eq, List.isEmpty_map, List.isEmpty_eq_false_iff]
    exact hstored
  rw [VectorIndex.search, h.lookUp_complete hc, VectorIndex.scanSearch]
  cases VectorIndex.checkVector ixs.vector.config v with
  | error e => rfl
  | ok u =>
    simp only [hrange, hsome, bruteForce_eq_take]
    rfl

theorem vectorRanked_fst (ixs : Indexes) (r : SearchRequest) (limit : Nat) : (ixs.vectorRanked r limit).1 = (do
    let v ← r.soughtEmbedding
    let found ← (ixs.vector.search ixs.store .never v (min limit VectorIndex.maxCount)).1.mapError .vector
    ixs.text.hydrate r.tenant ixs.vector.config.metric found) := by
  rw [vectorRanked]
  cases r.soughtEmbedding with
  | error e => rfl
  | ok v =>
    show _ = (ixs.vector.search ixs.store .never v (min limit VectorIndex.maxCount)).1.mapError .vector >>=
      fun found => ixs.text.hydrate r.tenant ixs.vector.config.metric found
    have hconfig := VectorIndex.Ready.search_config ixs.vector ixs.store .never v
      (min limit VectorIndex.maxCount)
    dsimp only
    generalize ixs.vector.search ixs.store .never v (min limit VectorIndex.maxCount) = out at hconfig
    rw [← hconfig]
    rcases out with ⟨cause | found, vector⟩ <;> rfl

/-- A search shows the nearest of a tenant's own embeddings, as many as are among the nearest of all. -/
theorem vectorRanked_eq_ownRanked (h : ixs.vector.Ready ixs.store g) (hc : g.Complete) (hstored : g.ids ≠ [])
    (hnamed : r.tenant ≠ "") {limit : Nat} (hlimit : 1 ≤ limit) : (ixs.vectorRanked r limit).1 =
      ixs.ownRanked r
        (ixs.share r.tenant (r.embedding.getD []) (min limit VectorIndex.maxCount)) := by
  have hmost : 1 ≤ VectorIndex.maxCount := by decide
  rw [vectorRanked_fst, ownRanked]
  generalize hk : min limit VectorIndex.maxCount = k
  refine bind_congr_of_ok fun v hsought => ?_
  rw [SearchRequest.embedding_of_sought hsought, Option.getD_some,
    search_of_stored h hc hstored (by omega), ownDocuments]
  have hne : (ixs.neighbors v).take k ≠ [] := by
    have hlength := h.holds.length_bruteForce v k
    rw [bruteForce_eq_take, h.holds.storedEmbeddings_eq, List.length_map] at hlength
    have hpos := List.length_pos_iff.mpr hstored
    exact List.length_pos_iff.mp (by omega)
  rw [← filter_take_neighbors, ← TextIndex.hydrate_own hnamed _ hne]
  cases VectorIndex.checkVector ixs.vector.config v <;> rfl

/-- As many documents are ranked as are asked for, and fewer of them are the first of these. -/
theorem ownRanked_take {share less : Nat} {ranking : List Scored} (hnamed : r.tenant ≠ "")
    (hshare : share ≤ (ixs.ownNeighbors r.tenant (r.embedding.getD [])).length)
    (h : ixs.ownRanked r share = .ok ranking) (hless : less ≤ share) :
    ranking.length = share ∧ ixs.ownRanked r less = .ok (ranking.take less) := by
  rw [ownRanked] at h
  obtain ⟨v, hsought, h⟩ := exists_of_bind_ok h
  rw [SearchRequest.embedding_of_sought hsought, Option.getD_some] at hshare
  rw [ownDocuments] at h
  obtain ⟨_, hcheck, h⟩ := exists_of_bind_ok h
  obtain ⟨_, htext, h⟩ := exists_of_bind_ok h
  have hopen : ixs.text.isOpen = true := by
    have hensured := ok_of_mapError htext
    rw [TextIndex.ensureOpen] at hensured
    split at hensured
    · next hopen => exact hopen
    · cases hensured
  have howned : ∀ n ∈ (ixs.ownNeighbors r.tenant v).take share,
      ixs.text.tables.owns r.tenant n.id = true := fun n hn =>
    (List.mem_filter.mp (List.mem_of_mem_take hn)).2
  obtain ⟨hfirst, hlength⟩ := TextIndex.hydrate_take hopen hnamed howned h less
  rw [List.take_take, Nat.min_eq_left hless] at hfirst
  rw [List.length_take, Nat.min_eq_left hshare] at hlength
  refine ⟨hlength, ?_⟩
  rw [ownRanked, hsought]
  show ixs.ownDocuments r.tenant v less = _
  rw [ownDocuments, hcheck, htext]
  exact hfirst

end Indexes

namespace EngineConfig

variable {c : EngineConfig}

theorem one_le_defaultLimit (h : c.validate = .ok ()) : 1 ≤ c.defaultLimit := by
  rw [validate] at h
  split at h
  · cases h
  split at h
  · cases h
  split at h
  · cases h
  split at h
  · cases h
  next hlimit =>
  simp only [Bool.not_eq_true, Bool.not_eq_false', Bool.and_eq_true, decide_eq_true_eq] at hlimit
  exact hlimit.1

theorem one_le_pageSize (h : c.validate = .ok ()) {limit size : Nat} (hsize : c.pageSize limit = .ok size) :
    1 ≤ size := by
  rw [pageSize] at hsize
  split at hsize
  · rw [← Except.ok.inj hsize]
    exact one_le_defaultLimit h
  · split at hsize
    · cases hsize
    · have hlimit := Except.ok.inj hsize
      omega

end EngineConfig

namespace Engine

variable {e e' : Engine} {g g' : Graph} {r : SearchRequest} {tenant : String}

/-- How many of the nearest embeddings a search for a page looks at. -/
def reach (e : Engine) (r : SearchRequest) : Nat :=
  min (min ((e.config.pageSize r.limit).toOption.getD 0 + r.offset) maxSearchLimit) VectorIndex.maxCount

def share (e : Engine) (r : SearchRequest) : Nat :=
  e.indexes.share r.tenant (r.embedding.getD []) (e.reach r)

/-- A page of the documents of so many of the tenant's own nearest embeddings. -/
def ownPage (e : Engine) (cancelled : Bool) (r : SearchRequest) (share : Nat) :
    Except EngineError SearchPage :=
  if !e.isOpen then .error .shutDown
  else do
    let size ← e.config.pageSize r.limit
    if cancelled then .error .cancelled
    else (e.indexes.ownRanked r share).map (Indexes.pageOf · r.offset size)

theorem search_eq_ownPage (hvalid : e.config.validate = .ok ()) (h : e.indexes.vector.Ready e.indexes.store g)
    (hc : g.Complete) (hstored : g.ids ≠ []) (hmode : r.mode = .vector) (hnamed : r.tenant ≠ "")
    (cancelled : Bool) (nanos : Nat) :
    (e.search cancelled r nanos).1 = e.ownPage cancelled r (e.share r) := by
  rw [search_fst, ownPage, share, reach]
  refine if_congr Iff.rfl rfl (bind_congr_of_ok fun size hsize => if_congr Iff.rfl rfl ?_)
  have hpos := EngineConfig.one_le_pageSize hvalid hsize
  have hmost : 1 ≤ maxSearchLimit := by decide
  have hwindow : (e.config.pageSize r.limit).toOption.getD 0 = size := by
    rw [hsize]
    rfl
  rw [Indexes.ranked, hmode, hwindow]
  exact congrArg _ (Indexes.vectorRanked_eq_ownRanked h hc hstored hnamed (by omega))

theorem ownPage_ok {cancelled : Bool} {share : Nat} {p : SearchPage} (h : e.ownPage cancelled r share = .ok p) :
    ∃ size ranking, e.config.pageSize r.limit = .ok size ∧ e.indexes.ownRanked r share = .ok ranking ∧
      p = Indexes.pageOf ranking r.offset size := by
  rw [ownPage] at h
  split at h
  · cases h
  · obtain ⟨size, hsize, h⟩ := exists_of_bind_ok h
    split at h
    · cases h
    · obtain ⟨ranking, hranking, hp⟩ := exists_of_map_ok h
      exact ⟨size, ranking, hsize, hranking, hp.symm⟩

/-- A tenant's own embeddings, and their order, do not depend on what the other tenants have. -/
theorem Alike.ownNeighbors (h : Alike tenant e g e' g') (hready : e.indexes.vector.Ready e.indexes.store g)
    (v : Embedding) : e'.indexes.ownNeighbors tenant v = e.indexes.ownNeighbors tenant v := by
  have hready' := h.backs.ready
  have hmetric : g'.metric = g.metric := by
    rw [hready'.holds.sound.fits.metric, hready.holds.sound.fits.metric, h.embeddings]
  rw [Indexes.ownNeighbors, Indexes.ownNeighbors, Indexes.neighbors_eq hready, Indexes.neighbors_eq hready',
    List.filter_map, List.filter_map]
  have hsorted : ∀ {config : VectorConfig} {g : Graph}, g.Fits config →
      ∀ p, Candidate.Ascending ((Candidate.sort (g.measured v)).filter p) := fun hfits p =>
    (Candidate.ascending_sort (Graph.nodup_measured hfits v)).filter p
  refine congrArg _ (Candidate.ascending_ext (hsorted hready'.holds.sound.fits _)
    (hsorted hready.holds.sound.fits _) fun c => ?_)
  rw [List.mem_filter, List.mem_filter, Candidate.mem_sort, Candidate.mem_sort, Graph.mem_measured_iff,
    Graph.mem_measured_iff, hmetric]
  simp only [Function.comp_apply, h.text.tables.owns]
  exact and_congr_left fun hown => by rw [h.own c.id hown]

theorem Alike.mem_ids (h : Alike tenant e g e' g') {id : String}
    (hid : e.indexes.text.tables.owns tenant id = true) (hmem : id ∈ g.ids) : id ∈ g'.ids := by
  have hsame := h.own id hid
  rw [Graph.embedding?, Graph.embedding?, if_pos hmem] at hsame
  by_contra hnot
  rw [if_neg hnot] at hsame
  cases hsame

theorem Alike.ownPage (h : Alike tenant e g e' g') (hready : e.indexes.vector.Ready e.indexes.store g)
    (hnamed : tenant ≠ "") (htenant : r.tenant = tenant) (cancelled : Bool) (share : Nat) :
    e'.ownPage cancelled r share = e.ownPage cancelled r share := by
  have hdocuments : ∀ v, e'.indexes.ownDocuments r.tenant v share =
      e.indexes.ownDocuments r.tenant v share := by
    intro v
    rw [Indexes.ownDocuments, Indexes.ownDocuments, htenant, h.ownNeighbors hready, h.embeddings,
      h.text.hydrate hnamed, TextIndex.ensureOpen, TextIndex.ensureOpen, h.text.isOpen]
  rw [Engine.ownPage, Engine.ownPage, h.isOpen, h.config, Indexes.ownRanked, Indexes.ownRanked]
  simp only [hdocuments]

theorem hits_isPrefix {cancelled : Bool} {share more : Nat} {p p' : SearchPage} (hnamed : r.tenant ≠ "")
    (hshare : share ≤ more) (hmore : more ≤ (e.indexes.ownNeighbors r.tenant (r.embedding.getD [])).length)
    (h : e.ownPage cancelled r share = .ok p) (h' : e.ownPage cancelled r more = .ok p') :
    p.hits <+: p'.hits := by
  obtain ⟨size, ranking, hsize, hranking, rfl⟩ := ownPage_ok h
  obtain ⟨size', ranking', hsize', hranking', rfl⟩ := ownPage_ok h'
  obtain rfl := Except.ok.inj (hsize.symm.trans hsize')
  obtain rfl := Except.ok.inj (hranking.symm.trans
    (Indexes.ownRanked_take hnamed hmore hranking' hshare).2)
  exact ((List.take_prefix share ranking').drop r.offset).take size

theorem length_hits {cancelled : Bool} {share size : Nat} {p : SearchPage} (hnamed : r.tenant ≠ "")
    (hshare : share ≤ (e.indexes.ownNeighbors r.tenant (r.embedding.getD [])).length)
    (h : e.ownPage cancelled r share = .ok p) (hsize : e.config.pageSize r.limit = .ok size) :
    p.hits.length = min size (share - r.offset) := by
  obtain ⟨size', ranking, hsize', hranking, rfl⟩ := ownPage_ok h
  obtain rfl := Except.ok.inj (hsize.symm.trans hsize')
  rw [Indexes.pageOf, List.length_take, List.length_drop,
    (Indexes.ownRanked_take hnamed hshare hranking (Nat.le_refl share)).1]

/-- Of two pages one begins with the other, and they show the same documents when they show as many. -/
theorem documents_eq_iff {cancelled : Bool} {share share' size : Nat} {p p' : SearchPage}
    (hnamed : r.tenant ≠ "")
    (hshare : share ≤ (e.indexes.ownNeighbors r.tenant (r.embedding.getD [])).length)
    (hshare' : share' ≤ (e.indexes.ownNeighbors r.tenant (r.embedding.getD [])).length)
    (h : e.ownPage cancelled r share = .ok p) (h' : e.ownPage cancelled r share' = .ok p')
    (hsize : e.config.pageSize r.limit = .ok size) :
    (p.hits <+: p'.hits ∨ p'.hits <+: p.hits) ∧
      (p'.hits.map (fun s => s.document) = p.hits.map (fun s => s.document) ↔
        min size (share' - r.offset) = min size (share - r.offset)) := by
  have hbegins : p.hits <+: p'.hits ∨ p'.hits <+: p.hits := by
    rcases Nat.le_total share share' with hle | hle
    · exact .inl (hits_isPrefix hnamed hle hshare' h h')
    · exact .inr (hits_isPrefix hnamed hle hshare h' h)
  refine ⟨hbegins, ?_⟩
  rw [← length_hits hnamed hshare h hsize, ← length_hits hnamed hshare' h' hsize]
  constructor
  · intro hsame
    simpa using congrArg List.length hsame
  · intro hlength
    rcases hbegins with hbegin | hbegin
    · rw [hbegin.eq_of_length hlength.symm]
    · rw [hbegin.eq_of_length hlength]

/-- While the embeddings are few enough to be searched exactly, what other tenants write changes neither a
tenant's documents nor their order in a vector search. Both before and after it, the search shows as many of them
as are among the nearest of all embeddings: the one page begins with the other, and they show the same documents
exactly when that leaves the same number of them for the page. It does if the search reaches all that is stored. -/
theorem RunsExactly.search_beside (h : e.RunsExactly) (hbeside : e.AllBeside e.indexes.text.tables tenant)
    (hrun : e.RunsBeside tenant e') (hvalid : Tenant.isValid tenant = true)
    (hown : ∃ id, e.indexes.text.tables.owns tenant id = true ∧
      e.indexes.vector.contains e.indexes.store id = .ok true)
    (hmode : r.mode = .vector) (htenant : r.tenant = tenant) (cancelled : Bool) (nanos : Nat) :
    (e.search cancelled r nanos).1 = e.ownPage cancelled r (e.share r) ∧
    (e'.search cancelled r nanos).1 = e.ownPage cancelled r (e'.share r) ∧
    (∀ p p' size, (e.search cancelled r nanos).1 = .ok p → (e'.search cancelled r nanos).1 = .ok p' →
      e.config.pageSize r.limit = .ok size →
      (p.hits <+: p'.hits ∨ p'.hits <+: p.hits) ∧
        (p'.hits.map (fun s => s.document) = p.hits.map (fun s => s.document) ↔
          min size (e'.share r - r.offset) = min size (e.share r - r.offset))) ∧
    (e.indexes.storedCount ≤ e.reach r → e'.indexes.storedCount ≤ e.reach r →
      (e'.search cancelled r nanos).1 = (e.search cancelled r nanos).1) := by
  obtain ⟨hconfig, g, hbacks, hcomplete⟩ := h.backs
  obtain ⟨g', halike⟩ := hrun.alike hbacks hcomplete hbeside
  subst htenant
  have hnamed : r.tenant ≠ "" := by
    intro hempty
    rw [hempty] at hvalid
    cases hvalid
  obtain ⟨id, howned, hcontains⟩ := hown
  rw [hbacks.ready.contains_eq] at hcontains
  have hid : id ∈ g.ids := of_decide_eq_true (Except.ok.inj hcontains)
  have hid' := halike.mem_ids howned hid
  have hbefore : (e.search cancelled r nanos).1 = e.ownPage cancelled r (e.share r) :=
    search_eq_ownPage hconfig hbacks.ready hcomplete (List.ne_nil_of_mem hid) hmode hnamed cancelled nanos
  have hafter : (e'.search cancelled r nanos).1 = e.ownPage cancelled r (e'.share r) := by
    rw [search_eq_ownPage (halike.config ▸ hconfig) halike.backs.ready halike.complete
      (List.ne_nil_of_mem hid') hmode hnamed cancelled nanos, halike.ownPage hbacks.ready hnamed rfl]
  have hneighbors := halike.ownNeighbors hbacks.ready (r.embedding.getD [])
  have hshare : e.share r ≤ (e.indexes.ownNeighbors r.tenant (r.embedding.getD [])).length :=
    Indexes.share_le _ _ _ _
  have hshare' : e'.share r ≤ (e.indexes.ownNeighbors r.tenant (r.embedding.getD [])).length := by
    rw [← hneighbors]
    exact Indexes.share_le _ _ _ _
  refine ⟨hbefore, hafter, fun p p' size hp hp' hsize => ?_, fun hfew hfew' => ?_⟩
  · rw [hbefore] at hp
    rw [hafter] at hp'
    exact documents_eq_iff hnamed hshare hshare' hp hp' hsize
  · have hreach : e'.reach r = e.reach r := by rw [reach, reach, halike.config]
    have hall : e.share r = (e.indexes.ownNeighbors r.tenant (r.embedding.getD [])).length :=
      Indexes.share_of_few _ _ hfew
    have hall' : e'.share r = (e'.indexes.ownNeighbors r.tenant (r.embedding.getD [])).length :=
      Indexes.share_of_few _ _ (hreach ▸ hfew')
    rw [hafter, hbefore, hall', hneighbors, ← hall]

def otherDocument : Document :=
  { smallDocument with id := "b", tenant := "u", embedding := some [Binary64.zero] }

/-- A tenant with one document. -/
def aloneEngine : Engine := (smallEngine.perform (.index smallDocument)).1

/-- The same, once another tenant has a document with another embedding. -/
def crowdedEngine : Engine := (aloneEngine.perform (.index otherDocument)).1

def nearRequest : SearchRequest := { embedding := some [Binary64.zero], tenant := "t", mode := .vector }

theorem run_aloneEngine : aloneEngine.Idle ∧ aloneEngine.config = smallEngine.config ∧
    aloneEngine.indexes = (smallEngine.indexes.execute (.index smallDocument)).1 := by
  obtain ⟨hidle, hconfig, hindexes, -⟩ := idle_smallEngine.perform (.index smallDocument)
  rw [aloneEngine]
  exact ⟨hidle, hconfig, hindexes⟩

theorem run_crowdedEngine : crowdedEngine.Idle ∧ crowdedEngine.config = smallEngine.config ∧
    crowdedEngine.indexes = (aloneEngine.indexes.execute (.index otherDocument)).1 := by
  obtain ⟨hidle, hconfig, hindexes, -⟩ := run_aloneEngine.1.perform (.index otherDocument)
  rw [crowdedEngine]
  exact ⟨hidle, hconfig.trans run_aloneEngine.2.1, hindexes⟩

theorem stored_aloneEngine : aloneEngine.indexes.storedCount = 1 ∧ aloneEngine.indexes.exactCount = 17 := by
  rw [run_aloneEngine.2.2]
  decide +kernel

theorem stored_crowdedEngine : crowdedEngine.indexes.storedCount = 2 := by
  rw [run_crowdedEngine.2.2, run_aloneEngine.2.2]
  decide +kernel

theorem exactly_aloneEngine : aloneEngine.RunsExactly := by
  obtain ⟨-, g, hbacks, -⟩ := opened_smallEngine.backs
  have hroom : smallEngine.booked + 1 ≤ smallEngine.indexes.exactCount := by
    rw [idle_smallEngine.booked]
    decide +kernel
  -- a tenant without documents is beside every task for another one
  have hbeside : (Task.index smallDocument).Beside smallEngine.indexes.text.tables "u" := by
    refine ⟨by decide +kernel, fun d hd => ?_⟩
    obtain rfl := Option.some_inj.mp hd
    decide
  have hrun := hbacks.runsBeside_perform hbeside hroom
  rw [aloneEngine]
  exact (RunsExactly.opened opened_smallEngine).beside hrun

theorem beside_crowdedEngine : aloneEngine.RunsBeside "t" crowdedEngine := by
  obtain ⟨-, g, hbacks, -⟩ := exactly_aloneEngine.backs
  have hroom : aloneEngine.booked + 1 ≤ aloneEngine.indexes.exactCount := by
    rw [run_aloneEngine.1.booked, stored_aloneEngine.1, stored_aloneEngine.2]
    decide
  have hbeside : (Task.index otherDocument).Beside aloneEngine.indexes.text.tables "t" := by
    refine ⟨?_, fun d hd => ?_⟩
    · rw [run_aloneEngine.2.2]
      decide +kernel
    · obtain rfl := Option.some_inj.mp hd
      decide
  rw [crowdedEngine]
  exact hbacks.runsBeside_perform hbeside hroom

theorem owns_aloneEngine : aloneEngine.indexes.text.tables.owns "t" "a" = true ∧
    aloneEngine.indexes.vector.contains aloneEngine.indexes.store "a" = .ok true := by
  rw [run_aloneEngine.2.2]
  decide +kernel

/-- A search for the nearest embedding finds the only document of a tenant, until another tenant writes one with
a nearer embedding. -/
theorem search_crowdedEngine : aloneEngine.RunsExactly ∧
    aloneEngine.AllBeside aloneEngine.indexes.text.tables "t" ∧ aloneEngine.RunsBeside "t" crowdedEngine ∧
    Tenant.isValid "t" = true ∧ aloneEngine.indexes.text.tables.owns "t" "a" = true ∧
    aloneEngine.indexes.vector.contains aloneEngine.indexes.store "a" = .ok true ∧
    (nearRequest.page 0 1).mode = .vector ∧ (nearRequest.page 0 1).tenant = "t" ∧
    idsOf (aloneEngine.search false (nearRequest.page 0 1) 0).1 = some ["a"] ∧
    idsOf (crowdedEngine.search false (nearRequest.page 0 1) 0).1 = some [] := by
  refine ⟨exactly_aloneEngine, run_aloneEngine.1.allBeside _ _, beside_crowdedEngine, by decide,
    owns_aloneEngine.1, owns_aloneEngine.2, rfl, rfl, ?_, ?_⟩
  · rw [search_page _ _ _ _ _ (by decide), admits_ok_iff.mpr ⟨run_aloneEngine.1.isOpen, rfl⟩,
      run_aloneEngine.2.1, run_aloneEngine.2.2]
    decide +kernel
  · rw [search_page _ _ _ _ _ (by decide), admits_ok_iff.mpr ⟨run_crowdedEngine.1.isOpen, rfl⟩,
      run_crowdedEngine.2.1, run_crowdedEngine.2.2, run_aloneEngine.2.2]
    decide +kernel

/-- A search that reaches both embeddings finds it before and after. -/
theorem search_beside_crowdedEngine : aloneEngine.RunsExactly ∧
    aloneEngine.AllBeside aloneEngine.indexes.text.tables "t" ∧ aloneEngine.RunsBeside "t" crowdedEngine ∧
    Tenant.isValid "t" = true ∧ (∃ id, aloneEngine.indexes.text.tables.owns "t" id = true ∧
      aloneEngine.indexes.vector.contains aloneEngine.indexes.store id = .ok true) ∧
    (nearRequest.page 0 2).mode = .vector ∧ (nearRequest.page 0 2).tenant = "t" ∧
    idsOf (aloneEngine.search false (nearRequest.page 0 2) 0).1 = some ["a"] ∧
    (crowdedEngine.search false (nearRequest.page 0 2) 0).1 =
      (aloneEngine.search false (nearRequest.page 0 2) 0).1 := by
  have hbeside := run_aloneEngine.1.allBeside aloneEngine.indexes.text.tables "t"
  have hreach : aloneEngine.reach (nearRequest.page 0 2) = 2 := by
    rw [reach, run_aloneEngine.2.1]
    decide +kernel
  obtain ⟨-, -, -, hsame⟩ := exactly_aloneEngine.search_beside (r := nearRequest.page 0 2) hbeside
    beside_crowdedEngine (by decide) ⟨"a", owns_aloneEngine⟩ rfl rfl false 0
  refine ⟨exactly_aloneEngine, hbeside, beside_crowdedEngine, by decide, ⟨"a", owns_aloneEngine⟩, rfl, rfl,
    ?_, hsame ?_ ?_⟩
  · rw [search_page _ _ _ _ _ (by decide), admits_ok_iff.mpr ⟨run_aloneEngine.1.isOpen, rfl⟩,
      run_aloneEngine.2.1, run_aloneEngine.2.2]
    decide +kernel
  · rw [hreach, stored_aloneEngine.1]
    decide
  · rw [hreach, stored_crowdedEngine]

end Engine

end HybridSearch
