import HybridSearch.Proofs.Metric
import HybridSearch.Proofs.VectorIndex.Search

/-!
# Searching for an embedding that was just put in

Whether the search comes back to the new node depends on the links of the lowest layer: a node at distance
zero has to be next to a candidate that the search keeps. When the search is as broad as the index is
large, this is to say that such a node is connected to where the descent lands.
-/
namespace HybridSearch

namespace Beam

variable {neighbors : String → Except VectorError (List String)}
variable {distance : String → Except VectorError Binary64}
variable {breadth : Nat} {starts : List String} {found : List Candidate}

theorem rank_head_le (hsorted : Candidate.Ascending found) {first : Candidate}
    (hfirst : found.head? = some first) {id : String} {x : Binary64} (hx : distance id = .ok x)
    (hcovers : Covers distance breadth found id) : first.distance.rank ≤ x.rank := by
  obtain ⟨rest, rfl⟩ := List.head?_eq_some_iff.mp hfirst
  have hle : ∀ {c : Candidate}, first.isBefore c = true → first.distance.rank ≤ c.distance.rank := by
    intro c hbefore
    rcases Candidate.isBefore_iff.mp hbefore with h | ⟨h, -⟩
    · exact Int.le_of_lt h
    · exact Int.le_of_eq (congrArg _ h)
  obtain ⟨y, hy, hcase⟩ := hcovers
  obtain rfl : x = y := Except.ok.inj (hx.symm.trans hy)
  rcases hcase with hmem | ⟨-, hall⟩
  · rcases List.mem_cons.mp hmem with heq | hrest
    · exact Int.le_of_eq (congrArg (fun c => c.distance.rank) heq.symm)
    · exact hle (List.rel_of_pairwise_cons hsorted hrest)
  · exact hle (hall first List.mem_cons_self)

end Beam

namespace Graph

/-- What an id has to be for a search to see it: a candidate, or on the list of one. -/
def Sees (g : Graph) (cs : List Candidate) (id : String) : Prop :=
  ∃ c ∈ cs, id = c.id ∨ id ∈ g.neighbors 0 c.id

/-- What can be reached on the lowest layer from where a descent lands. -/
def Connected (g : Graph) (query : Embedding) (entry : EntryPoint) (id : String) : Prop :=
  Beam.Reachable (g.listsOf 0) ((g.landing query entry).map fun c => c.id) id

variable {config : VectorConfig} {g : Graph} {query : Embedding} {k : Nat} {entry : EntryPoint}

theorem mem_ids_of_connected (hs : g.Sound config) (hentry : g.entry = some entry) {id : String}
    (h : g.Connected query entry id) : id ∈ g.ids := by
  have hstarts := landing_starts hs query hentry
  refine (hs.wired.on_of_reachable (fun i hi => ?_) h).1
  obtain ⟨c, hc, rfl⟩ := List.mem_map.mp hi
  exact hstarts.on c hc

theorem ne_nil_of_checkVector (haccepted : config.Accepted) {v : Embedding}
    (h : VectorIndex.checkVector config v = .ok ()) : v ≠ [] := by
  rintro rfl
  have hlength := (VectorIndex.checkVector_ok_iff.mp h).1
  have := haccepted.dimension.1
  rw [List.length_nil] at hlength
  omega

theorem zero_le_rank_distance (hs : g.Sound config) (haccepted : config.Accepted)
    (hmetric : config.metric = .euclidean) (hquery : VectorIndex.checkVector config query = .ok ())
    {id : String} (hid : id ∈ g.ids) : 0 ≤ (g.distance query id).rank := by
  have hvector := hs.fits.vectors id hid
  rw [Graph.distance, hs.fits.metric, hmetric]
  exact Metric.euclideanDistance_nonneg (ne_nil_of_checkVector haccepted hquery)
    (ne_nil_of_checkVector haccepted hvector) (VectorIndex.checkVector_ok_iff.mp hquery).2
    (VectorIndex.checkVector_ok_iff.mp hvector).2

theorem distance_insert_self (hs : g.Sound config) (haccepted : config.Accepted)
    (hmetric : config.metric = .euclidean) {v : Embedding}
    (hv : VectorIndex.checkVector config v = .ok ()) (id : String) {level : Nat}
    (hlevel : level ≤ VectorIndex.maxLevel) : (g.insert config id v level).distance v id = .zero := by
  have hbreadth := haccepted.buildBreadth.1
  rw [Graph.distance, (hs.insert id hbreadth hlevel hv).fits.metric, hmetric,
    vector_insert hs hbreadth, if_pos rfl]
  exact Metric.euclideanDistance_self (ne_nil_of_checkVector haccepted hv)
    (VectorIndex.checkVector_ok_iff.mp hv).2

/-- The nearest candidate is at distance zero once the search sees an id at distance zero. -/
theorem nearest_zero_of_sees (hs : g.Sound config) (haccepted : config.Accepted)
    (hmetric : config.metric = .euclidean) (hquery : VectorIndex.checkVector config query = .ok ())
    (hentry : g.entry = some entry) {first : Candidate}
    (hfirst : (g.candidates config query k entry).head? = some first) {id : String}
    (hcovers : Beam.Covers (g.distancesTo query) (max config.searchBreadth (2 * k))
      (g.candidates config query k entry) id) (hzero : g.distance query id = .zero) :
    first.distance = .zero := by
  have hstarts : g.Starts query 0 (g.candidates config query k entry) :=
    candidates_starts hs haccepted hentry
  have hmem := List.mem_of_head? hfirst
  have hle := Beam.rank_head_le (candidates_found hs hentry).sorted hfirst rfl hcovers
  have hnonneg := zero_le_rank_distance hs haccepted hmetric hquery (hstarts.on first hmem).1
  rw [hzero] at hle
  rw [hstarts.truthful first hmem] at hnonneg
  exact Binary64.rank_injective (Int.le_antisymm hle hnonneg)

end Graph

namespace VectorIndex

variable {config : VectorConfig} {g : Graph} {entry : EntryPoint} {v : Embedding}

/-- When the hit of a search for an embedding is at distance zero. -/
structure ReadsBack (config : VectorConfig) (g : Graph) (entry : EntryPoint) (v : Embedding)
    (hit : Neighbor) : Prop where
  exact_iff : hit.distance = .zero ↔
    ∃ id ∈ g.ids, g.distance v id = .zero ∧ g.Sees (g.candidates config v 1 entry) id
  connected : hit.distance = .zero → ∃ id ∈ g.ids, g.distance v id = .zero ∧ g.Connected v entry id
  broad : g.ids.length ≤ max config.searchBreadth 2 →
    (∃ id ∈ g.ids, g.distance v id = .zero ∧ g.Connected v entry id) → hit.distance = .zero

theorem readsBack (hs : g.Sound config) (haccepted : config.Accepted)
    (hmetric : config.metric = .euclidean) (hquery : checkVector config v = .ok ())
    (hentry : g.entry = some entry) {first : Candidate}
    (hfirst : (g.candidates config v 1 entry).head? = some first) :
    ReadsBack config g entry v ⟨first.id, first.distance⟩ := by
  have hfound : Beam.Found (g.listsOf 0) (g.distancesTo v) (max config.searchBreadth 2)
      ((g.landing v entry).map fun c => c.id) (g.candidates config v 1 entry) :=
    Graph.candidates_found (k := 1) hs hentry
  have hstarts : g.Starts v 0 (g.candidates config v 1 entry) :=
    Graph.candidates_starts hs haccepted hentry
  have hmem := List.mem_of_head? hfirst
  have hon := (hstarts.on first hmem).1
  refine ⟨⟨fun hzero => ?_, fun ⟨id, hid, hzero, c, hc, hnear⟩ => ?_⟩, fun hzero => ?_, ?_⟩
  · exact ⟨first.id, hon, (hstarts.truthful first hmem).trans hzero, first, hmem, .inl rfl⟩
  · refine Graph.nearest_zero_of_sees hs haccepted hmetric hquery hentry hfirst ?_ hzero
    rcases hnear with rfl | hlist
    · exact ⟨c.distance, hfound.truthful c hc, .inl hc⟩
    · exact hfound.closed c hc _ rfl id hlist
  · exact ⟨first.id, hon, (hstarts.truthful first hmem).trans hzero, hfound.reached first hmem⟩
  · rintro hroom ⟨id, hid, hzero, hconnected⟩
    refine Graph.nearest_zero_of_sees hs haccepted hmetric hquery hentry hfirst ?_ hzero
    have hkept := hfound.mem_of_reachable (fun _ => Graph.mem_ids_of_connected hs hentry) hroom
      hconnected
    obtain ⟨c, hc, rfl⟩ := List.mem_map.mp hkept
    exact ⟨c.distance, hfound.truthful c hc, .inl hc⟩

theorem search_one {ix : VectorIndex} {store : StoreHandle} (h : Ready ix store g)
    (hentry : g.entry = some entry) (hquery : checkVector ix.config v = .ok ()) :
    ∃ first, (g.candidates ix.config v 1 entry).head? = some first ∧
      (ix.search store .never v 1).1 = .ok [⟨first.id, first.distance⟩] := by
  have hstarts : g.Starts v 0 (g.candidates ix.config v 1 entry) :=
    Graph.candidates_starts h.holds.sound h.accepted hentry
  obtain ⟨first, rest, hcandidates⟩ := List.exists_cons_of_ne_nil hstarts.ne_nil
  refine ⟨first, by rw [hcandidates]; rfl, ?_⟩
  rw [search, lookUp_eq h.holds h.gettable h.scannable hquery (by decide), hentry]
  dsimp only
  rw [hcandidates]
  rfl

/-- After an insert a search for the embedding has one hit; the new id is stored at distance zero, and
the hit is at distance zero exactly when the search comes by an id that is. -/
theorem readsBack_of_insert {ix : VectorIndex} {store : StoreHandle} (h : Reached config ix store)
    (hmetric : config.metric = .euclidean) (fault : Option StoreFault) (cancel : Cancellation)
    (id : String) (v : Embedding) {outcome : Outcome Unit}
    (hinsert : ix.insert { store with faults := { write := fault } } cancel id v = outcome)
    (hok : outcome.result.isOk = true) : ∃ g entry hit, Holds config outcome.store.content g ∧
      g.entry = some entry ∧ id ∈ g.ids ∧ g.distance v id = .zero ∧
      (outcome.index.search outcome.store .never v 1).1 = .ok [hit] ∧
      ReadsBack config g entry v hit := by
  obtain ⟨hconfig, g, hready⟩ := h.ready
  subst hconfig
  have hready := hready.withWriteFault fault
  rcases hready.insert_cases cancel id v with
    ⟨e, -, hcase⟩ | ⟨-, -, hcase⟩ | ⟨e, -, -, hcase⟩ | ⟨store', hvalid, -, -, hcase, -, hnext⟩
  · rw [← hinsert, hcase] at hok
    cases hok
  · rw [← hinsert, hcase] at hok
    cases hok
  · rw [← hinsert, hcase] at hok
    cases hok
  · obtain rfl := hinsert.symm.trans hcase
    have hsound := hready.holds.sound
    have hv := checkVector_of_validate hvalid
    have hnew : id ∈ (g.insert ix.config id v ix.nextLevel).ids :=
      (Graph.mem_ids_insert hsound hready.accepted.buildBreadth.1).mpr (.inl rfl)
    obtain ⟨entry, hentry⟩ : ∃ entry, (g.insert ix.config id v ix.nextLevel).entry = some entry := by
      refine Option.ne_none_iff_exists'.mp fun hnone => ?_
      rw [hnext.holds.sound.rooted.empty hnone] at hnew
      cases hnew
    have hafter : Ready (ix.afterInsert (g.insert ix.config id v ix.nextLevel)) store'
        (g.insert ix.config id v ix.nextLevel) := hnext.of_config rfl
    obtain ⟨first, hfirst, hsearch⟩ := search_one hafter hentry hv
    exact ⟨_, entry, _, hnext.holds, hentry, hnew,
      Graph.distance_insert_self hsound hready.accepted hmetric hv id ix.nextLevel_le, hsearch,
      readsBack hnext.holds.sound hready.accepted hmetric hv hentry hfirst⟩

theorem readsBack_smallTwo : ∃ g entry hit, Holds smallConfig smallTwo.store.content g ∧
    g.entry = some entry ∧ "b" ∈ g.ids ∧ g.distance [Binary64.one] "b" = .zero ∧
    (smallTwo.index.search smallTwo.store .never [Binary64.one] 1).1 = .ok [hit] ∧
    ReadsBack smallConfig g entry [Binary64.one] hit :=
  readsBack_of_insert reached_smallOne rfl none .never "b" [Binary64.one] (by rw [smallTwo])
    (by decide +kernel)

def insertAll (ix : VectorIndex) (store : StoreHandle) :
    List (String × Embedding) → VectorIndex × StoreHandle
  | [] => (ix, store)
  | (id, v) :: rest =>
    let outcome := ix.insert { store with faults := { write := none } } .never id v
    outcome.index.insertAll outcome.store rest

theorem Reached.insertAll {ix : VectorIndex} {store : StoreHandle} (h : Reached config ix store)
    (vs : List (String × Embedding)) :
    Reached config (ix.insertAll store vs).1 (ix.insertAll store vs).2 := by
  induction vs generalizing ix store with
  | nil => exact h
  | cons v vs ih => exact ih (.insert none .never v.1 v.2 h rfl)

/-- Two neighbours at most on the lowest layer, and a breadth beyond all that is stored. -/
def narrowConfig : VectorConfig :=
  { dimension := 1
    metric := .euclidean
    width := 1
    searchBreadth := 1000
    buildBreadth := 1000
    levelScale := ⟨0x3f847ae147ae147b⟩ }

def narrow : VectorIndex :=
  { config := narrowConfig
    samples := [⟨0x3f9e274fad473d1b⟩, ⟨0x3fdf5f9a57e3ba50⟩, ⟨0x3fbd93a4d45a2126⟩,
      ⟨0x3fe7da28723c70e9⟩, ⟨0x3fd26e0059809619⟩] }

/-- Embeddings on a line, at 0, 1, 2 and 5/2. -/
@[irreducible]
def narrowFour : VectorIndex × StoreHandle :=
  narrow.insertAll { content := ByteMap.empty }
    [("e", [⟨0⟩]), ("p", [⟨0x3ff0000000000000⟩]), ("c", [⟨0x4000000000000000⟩]),
      ("a", [⟨0x4004000000000000⟩])]

/-- The next embedding, at 17/8, which is linked to the nearest node only. -/
@[irreducible]
def narrowFive : Outcome Unit :=
  narrowFour.1.insert { narrowFour.2 with faults := { write := none } } .never "n" [⟨0x4001000000000000⟩]

theorem reached_narrow : Reached narrowConfig narrow { content := ByteMap.empty } := by
  obtain ⟨u, hvalid⟩ := exists_of_isOk (show narrowConfig.validate.isOk = true by decide +kernel)
  have hopen : VectorIndex.open narrowConfig narrow.samples { content := ByteMap.empty } = .ok narrow := by
    rw [VectorIndex.open, hvalid]
    rfl
  exact .opened (fun _ _ => rfl) hopen

theorem reached_narrowFour : Reached narrowConfig narrowFour.1 narrowFour.2 := by
  unfold narrowFour
  exact reached_narrow.insertAll _

/-- To make room for the link to the new node its neighbour gives up another, and with it the way from
the entry point. -/
theorem not_readBack : ¬∀ (config : VectorConfig) (ix : VectorIndex) (store : StoreHandle),
    Reached config ix store → config.metric = .euclidean →
    ∀ (fault : Option StoreFault) (cancel : Cancellation) (id : String) (v : Embedding)
      (outcome : Outcome Unit),
      ix.insert { store with faults := { write := fault } } cancel id v = outcome →
      outcome.result.isOk = true →
      ∃ hits, (outcome.index.search outcome.store .never v 1).1 = .ok hits ∧
        ∃ hit ∈ hits, hit.distance = .zero := by
  intro h
  obtain ⟨hits, hhits, hit, hmem, hzero⟩ := h narrowConfig narrowFour.1 narrowFour.2 reached_narrowFour
    rfl none .never "n" [⟨0x4001000000000000⟩] narrowFive (by rw [narrowFive]) (by decide +kernel)
  have hfound : (narrowFive.index.search narrowFive.store .never [⟨0x4001000000000000⟩] 1).1.toOption =
      some [⟨"p", ⟨0x3ff2000000000000⟩⟩] := by decide +kernel
  rw [hhits] at hfound
  obtain rfl := Option.some_inj.mp hfound
  obtain rfl := List.mem_singleton.mp hmem
  exact absurd hzero (by decide)

end VectorIndex

end HybridSearch
