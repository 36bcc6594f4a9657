import HybridSearch.Proofs.VectorIndex.Index

/-!
# What a search answers

Over a sound graph a search never meets unreadable records: it answers that the index is empty, or gives
hits that are stored, true to the metric, distinct and in order.
-/
namespace HybridSearch

namespace Graph

/-- Where a descent from the entry point arrives on the lowest layer. -/
def landing (g : Graph) (query : Embedding) (entry : EntryPoint) : List Candidate :=
  g.descend query 0 entry.level [⟨g.distance query entry.id, entry.id⟩]

/-- The candidates of a search, from the entry point down to the lowest layer. -/
def candidates (config : VectorConfig) (g : Graph) (query : Embedding) (k : Nat) (entry : EntryPoint) :
    List Candidate :=
  g.searchLayer query (g.landing query entry) (max config.searchBreadth (2 * k)) 0

theorem descend_settled (g : Graph) (query : Embedding) (bottom top : Nat) (cs : List Candidate) :
    g.settled.descend query bottom top cs = g.descend query bottom top cs := by
  induction top generalizing cs with
  | zero => rfl
  | succ top ih =>
    rw [descend, descend, ih]
    rfl

variable {config : VectorConfig} {g : Graph} {query : Embedding} {k : Nat}

theorem landing_starts (hs : g.Sound config) (query : Embedding) {entry : EntryPoint}
    (hentry : g.entry = some entry) : g.Starts query 0 (g.landing query entry) := by
  obtain ⟨hmem, hlevel⟩ := hs.rooted.present hentry
  have hstart : g.Starts query entry.level [⟨g.distance query entry.id, entry.id⟩] :=
    .singleton ⟨hmem, Nat.le_of_eq hlevel.symm⟩
  exact (hs.wired.descend_starts 0 hstart).mono (Nat.zero_le _)

theorem candidates_found (hs : g.Sound config) {entry : EntryPoint} (hentry : g.entry = some entry) :
    Beam.Found (g.listsOf 0) (g.distancesTo query) (max config.searchBreadth (2 * k))
      ((g.landing query entry).map fun c => c.id) (g.candidates config query k entry) :=
  hs.wired.searchLayer_found (landing_starts hs query hentry) _

theorem candidates_starts (hs : g.Sound config) (haccepted : config.Accepted) {entry : EntryPoint}
    (hentry : g.entry = some entry) : g.Starts query 0 (g.candidates config query k entry) := by
  have hbreadth : 0 < max config.searchBreadth (2 * k) := by
    have := haccepted.searchBreadth.1
    omega
  exact hs.wired.searchLayer_starts (landing_starts hs query hentry) hbreadth

end Graph

namespace VectorIndex

variable {config : VectorConfig} {store : StoreHandle} {g : Graph} {query : Embedding} {k : Nat}

theorem checkVector_ok_iff {v : Embedding} :
    checkVector config v = .ok () ↔ v.length = config.dimension ∧ ∀ x ∈ v, x.isFinite = true := by
  rw [checkVector]
  by_cases hlength : v.length = config.dimension
  · rw [if_neg (by simpa using hlength)]
    cases hfind : v.findIdx? fun x => !x.isFinite with
    | none =>
      have hall := List.findIdx?_eq_none_iff.mp hfind
      simpa [hlength] using hall
    | some i =>
      obtain ⟨hi, hbad, -⟩ := List.findIdx?_eq_some_iff_getElem.mp hfind
      have hnot : ¬∀ x ∈ v, x.isFinite = true := by
        intro hall
        simp [hall _ (List.getElem_mem hi)] at hbad
      simp [hnot]
  · simp [hlength]

theorem lookUp_eq (h : Holds config store.content g) (hget : store.faults.get = none)
    (hscan : store.faults.scan = none) (hquery : checkVector config query = .ok ())
    (hk : 1 ≤ k ∧ k ≤ maxCount) : lookUp config store .never query k =
      match g.entry with
      | none => .error .emptyIndex
      | some entry => .ok (((g.candidates config query k entry).take k).map fun c => ⟨c.id, c.distance⟩) := by
  have hshows := h.shows_start hget hscan
  have hcount : (!(decide (1 ≤ k) && decide (k ≤ maxCount))) = false := by simp [hk]
  have hentry : (Draft.start config store).entryPoint = .ok g.entry := hshows.entryPoint
  rw [lookUp, hquery]
  show (if (!(decide (1 ≤ k) && decide (k ≤ maxCount))) = true then _ else _) = _
  rw [if_neg (by simp [hcount])]
  show ((Draft.start config store).entryPoint >>= _) = _
  rw [hentry]
  cases hroot : g.entry with
  | none => rfl
  | some entry =>
    obtain ⟨hmem, hlevel⟩ := h.sound.rooted.present hroot
    have hw : g.settled.Wired := h.sound.settled.wired
    have hstart : g.settled.Starts query entry.level
        [⟨g.settled.distance query entry.id, entry.id⟩] :=
      .singleton ⟨hmem, Nat.le_of_eq hlevel.symm⟩
    have hclosest : g.settled.Starts query 0 (g.settled.landing query entry) :=
      Graph.landing_starts h.sound.settled query hroot
    show ((Draft.start config store).distance query entry.id >>= _) = _
    rw [hshows.distance query hmem]
    show nearest config (Draft.start config store) query k entry _ = _
    rw [nearest, hshows.descend hw 0 hstart]
    show ((Draft.start config store).searchLayer query (g.settled.landing query entry) _ 0 >>= _) = _
    rw [hshows.searchLayer hw hclosest, Graph.landing, Graph.descend_settled]
    rfl

/-- Hits in the order of their distances, then of their ids. -/
def InOrder (hits : List Neighbor) : Prop :=
  hits.Pairwise fun a b => (Candidate.mk a.distance a.id).isBefore ⟨b.distance, b.id⟩ = true

/-- A good answer to a query: hits from the ids that are stored, as the metric has them. -/
structure Answers (config : VectorConfig) (content : Store) (query : Embedding) (k : Nat)
    (ids : List String) (hits : List Neighbor) : Prop where
  some_hit : 1 ≤ hits.length
  few_hits : hits.length ≤ min k ids.length
  distinct : (hits.map fun hit => hit.id).Nodup
  stored : ∀ hit ∈ hits, hit.id ∈ ids
  measured : ∀ hit ∈ hits, ∃ bytes v,
    content.find? ((KeySpace.ofPrefix config.keyPrefix).vector hit.id) = some bytes ∧
      Embedding.decode bytes config.dimension = .ok v ∧
      hit.distance = config.metric.distance query v
  inOrder : InOrder hits

theorem Holds.answers (h : Holds config store.content g) (haccepted : config.Accepted)
    (hk : 1 ≤ k) {entry : EntryPoint} (hentry : g.entry = some entry) :
    Answers config store.content query k g.ids
      (((g.candidates config query k entry).take k).map fun c => ⟨c.id, c.distance⟩) := by
  have hfound : Beam.Found (g.listsOf 0) (g.distancesTo query) (max config.searchBreadth (2 * k))
      ((g.landing query entry).map fun c => c.id) (g.candidates config query k entry) :=
    Graph.candidates_found h.sound hentry
  have hstarts : g.Starts query 0 (g.candidates config query k entry) :=
    Graph.candidates_starts h.sound haccepted hentry
  have hids : ((((g.candidates config query k entry).take k).map fun c =>
      (⟨c.id, c.distance⟩ : Neighbor)).map fun hit => hit.id) =
        ((g.candidates config query k entry).take k).map fun c => c.id := by
    rw [List.map_map]
    rfl
  have hdistinct : (((g.candidates config query k entry).take k).map fun c => c.id).Nodup :=
    List.Pairwise.sublist ((List.take_sublist _ _).map _) hfound.nodup_ids
  have hstored : ∀ c ∈ (g.candidates config query k entry).take k, c.id ∈ g.ids := fun c hc =>
    (hstarts.on c (List.mem_of_mem_take hc)).1
  have hlength : (((g.candidates config query k entry).take k).map fun c => c.id).length ≤
      g.ids.length := hdistinct.length_le_of_subset fun id hid => by
    obtain ⟨c, hc, rfl⟩ := List.mem_map.mp hid
    exact hstored c hc
  rw [List.length_map] at hlength
  refine ⟨?_, ?_, by rw [hids]; exact hdistinct, fun hit hhit => ?_, fun hit hhit => ?_, ?_⟩
  · have hpos : 0 < (g.candidates config query k entry).length :=
      List.length_pos_iff.mpr hstarts.ne_nil
    rw [List.length_map, List.length_take]
    omega
  · rw [List.length_map]
    exact Nat.le_min.mpr ⟨List.length_take_le _ _, hlength⟩
  · obtain ⟨c, hc, rfl⟩ := List.mem_map.mp hhit
    exact hstored c hc
  · obtain ⟨c, hc, rfl⟩ := List.mem_map.mp hhit
    have hid := hstored c hc
    have hvector := (checkVector_ok_iff.mp (h.sound.fits.vectors c.id hid)).1
    have hdistance := hstarts.truthful c (List.mem_of_mem_take hc)
    refine ⟨_, g.vector c.id, (h.found (.vector c.id)).trans (if_pos hid), ?_, ?_⟩
    · rw [← hvector]
      exact Embedding.decode_encode _
    · rw [← hdistance, Graph.distance, h.sound.fits.metric]
  · exact List.pairwise_map.mpr (Candidate.ascending_take hfound.sorted k)

/-- A search over a reachable state says that the index is empty exactly when nothing is stored, and
otherwise answers well; it never fails. -/
theorem search_of_reached {ix : VectorIndex} (h : Reached config ix store) (query : Embedding)
    (hlength : query.length = config.dimension) (hfinite : ∀ x ∈ query, x.isFinite = true)
    (hk : 1 ≤ k) (hk' : k ≤ maxCount) : ∃ ids : List String, ids.Nodup ∧
      (∀ id, id ∈ ids ↔
        (store.content.find? ((KeySpace.ofPrefix config.keyPrefix).vector id)).isSome = true) ∧
      ((ix.search store .never query k).1 = .error .emptyIndex ↔ ids = []) ∧
      (ids ≠ [] → ∃ hits, (ix.search store .never query k).1 = .ok hits ∧
        Answers config store.content query k ids hits) := by
  obtain ⟨hconfig, g, hready⟩ := h.ready
  subst hconfig
  have hholds := hready.holds
  have hlookUp := lookUp_eq hholds hready.gettable hready.scannable
    (checkVector_ok_iff.mpr ⟨hlength, hfinite⟩) ⟨hk, hk'⟩
  refine ⟨g.ids, ?_, fun id => ?_, ?_⟩
  · refine hholds.sound.fits.sorted.imp fun {a b} hab heq => ?_
    exact Bytes.order_lt_irrefl _ (heq ▸ hab)
  · have hfound := hholds.found (.vector id)
    rw [show (KeySpace.ofPrefix ix.config.keyPrefix).vector id =
      (KeySpace.ofPrefix ix.config.keyPrefix).bytes (.vector id) from rfl, hfound, Graph.stored]
    split
    · next hid => simp [hid]
    · next hid => simp [hid]
  · rw [search, hlookUp]
    cases hentry : g.entry with
    | none =>
      have hids := hholds.sound.rooted.empty hentry
      exact ⟨⟨fun _ => hids, fun _ => rfl⟩, fun hne => absurd hids hne⟩
    | some entry =>
      have hmem := (hholds.sound.rooted.present hentry).1
      refine ⟨⟨fun hempty => ?_, fun hids => ?_⟩, fun _ => ⟨_, rfl, ?_⟩⟩
      · cases hempty
      · rw [hids] at hmem
        cases hmem
      · exact hholds.answers hready.accepted hk hentry

theorem search_smallTwo : ∃ ids hits, ids ≠ [] ∧
    (smallTwo.index.search smallTwo.store .never [Binary64.one] 1).1 = .ok hits ∧
      Answers smallConfig smallTwo.store.content [Binary64.one] 1 ids hits := by
  obtain ⟨ids, -, hids, -, hanswer⟩ := search_of_reached reached_smallTwo [Binary64.one]
    (k := 1) rfl (by decide +kernel) (by decide) (by decide)
  have hb : "b" ∈ ids := (hids "b").mpr (by decide +kernel)
  obtain ⟨hits, hhits, hgood⟩ := hanswer (List.ne_nil_of_mem hb)
  exact ⟨ids, hits, List.ne_nil_of_mem hb, hhits, hgood⟩

end VectorIndex

end HybridSearch
