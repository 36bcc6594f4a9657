import Mathlib.Data.List.Basic
import HybridSearch.Proofs.VectorIndex.Complete
import HybridSearch.Proofs.VectorIndex.Search

/-!
# Few embeddings are searched exactly

As long as an index never holds more embeddings than a node may have neighbours, and one more, all nodes of
the lowest layer are linked to each other. A search then finds what measuring every stored embedding finds,
however narrow its beam is.
-/
namespace HybridSearch

namespace Graph

variable {config : VectorConfig} {g : Graph} {query : Embedding} {k : Nat}

def measured (g : Graph) (query : Embedding) : List Candidate :=
  g.ids.map fun id => ⟨g.distance query id, id⟩

theorem mem_measured {c : Candidate} :
    c ∈ g.measured query ↔ c.id ∈ g.ids ∧ g.distance query c.id = c.distance := by
  rw [measured, List.mem_map]
  constructor
  · rintro ⟨id, hid, rfl⟩
    exact ⟨hid, rfl⟩
  · rintro ⟨hid, hdistance⟩
    exact ⟨c.id, hid, by rw [hdistance]⟩

theorem nodup_measured (hf : g.Fits config) (query : Embedding) : (g.measured query).Nodup := by
  refine List.pairwise_map.mpr (hf.nodup_ids.imp fun {a b} hne heq => ?_)
  exact hne (congrArg Candidate.id heq)

/-- Whatever candidate a search has on the lowest layer, it has seen all others from there. -/
theorem Complete.covers (hc : g.Complete) (hs : g.Sound config) (haccepted : config.Accepted)
    {entry : EntryPoint} (hentry : g.entry = some entry) {id : String} (hid : id ∈ g.ids) :
    Beam.Covers (g.distancesTo query) (max config.searchBreadth (2 * k)) (g.candidates config query k entry)
      id := by
  have hfound : Beam.Found (g.listsOf 0) (g.distancesTo query) (max config.searchBreadth (2 * k))
      ((g.landing query entry).map fun c => c.id) (g.candidates config query k entry) :=
    candidates_found hs hentry
  have hstarts : g.Starts query 0 (g.candidates config query k entry) :=
    candidates_starts hs haccepted hentry
  obtain ⟨c, hmem⟩ := List.exists_mem_of_ne_nil _ hstarts.ne_nil
  by_cases heq : c.id = id
  · refine ⟨c.distance, ?_, .inl ?_⟩
    · rw [← heq]
      exact hfound.truthful c hmem
    · rw [← heq]
      exact hmem
  · exact hfound.closed c hmem _ rfl id (hc c.id (hstarts.on c hmem).1 id hid heq)

theorem Complete.candidates_eq (hc : g.Complete) (hs : g.Sound config) (haccepted : config.Accepted)
    {entry : EntryPoint} (hentry : g.entry = some entry) : g.candidates config query k entry =
      (Candidate.sort (g.measured query)).take (max config.searchBreadth (2 * k)) := by
  have hfound : Beam.Found (g.listsOf 0) (g.distancesTo query) (max config.searchBreadth (2 * k))
      ((g.landing query entry).map fun c => c.id) (g.candidates config query k entry) :=
    candidates_found hs hentry
  have hstarts : g.Starts query 0 (g.candidates config query k entry) :=
    candidates_starts hs haccepted hentry
  refine Candidate.eq_take_sort (nodup_measured hs.fits query) hfound.sorted ?_ hfound.short ?_
  · intro c hmem
    exact mem_measured.mpr ⟨(hstarts.on c hmem).1, hstarts.truthful c hmem⟩
  · intro c hmem hnot
    obtain ⟨hid, hdistance⟩ := mem_measured.mp hmem
    have hcovered : Beam.Covers (g.distancesTo query) (max config.searchBreadth (2 * k))
        (g.candidates config query k entry) c.id := hc.covers hs haccepted hentry hid
    obtain ⟨x, hx, hcase⟩ := hcovered
    obtain rfl : c.distance = x := hdistance.symm.trans (Except.ok.inj hx)
    exact hcase.resolve_left hnot

end Graph

namespace VectorIndex

variable {config : VectorConfig} {store : StoreHandle} {g : Graph} {query : Embedding} {k : Nat}

def storedEmbeddings (config : VectorConfig) (content : Store) : List (Bytes × Bytes) :=
  content.scan (KeySpace.ofPrefix config.keyPrefix).vectorLead

/-- A stored embedding with its distance to a query, unless it cannot be read. -/
def measure? (config : VectorConfig) (query : Embedding) (entry : Bytes × Bytes) : Option Candidate :=
  match (KeySpace.ofPrefix config.keyPrefix).idOfVector? entry.1,
    Embedding.decode entry.2 config.dimension with
  | some id, .ok v => some ⟨config.metric.distance query v, id⟩
  | _, _ => none

/-- The first of all stored embeddings in the order of their distances, then of their ids. -/
def bruteForce (config : VectorConfig) (content : Store) (query : Embedding) (k : Nat) : List Neighbor :=
  ((Candidate.sort ((storedEmbeddings config content).filterMap (measure? config query))).take k).map
    fun c => ⟨c.id, c.distance⟩

/-- The answer of a search that measures everything. It makes the same checks and says so when nothing is
stored. -/
def scanSearch (config : VectorConfig) (content : Store) (query : Embedding) (k : Nat) :
    Except VectorError (List Neighbor) := do
  checkVector config query
  if !(1 ≤ k && k ≤ maxCount) then throw (.invalidCount k)
  if (storedEmbeddings config content).isEmpty then throw .emptyIndex
  return bruteForce config content query k

theorem Holds.storedEmbeddings_eq {content : Store} (h : Holds config content g) :
    storedEmbeddings config content = g.ids.map fun id =>
      ((KeySpace.ofPrefix config.keyPrefix).vector id, Embedding.encode (g.vector id)) := by
  have hsorted : Ascending (g.ids.map fun id =>
      ((KeySpace.ofPrefix config.keyPrefix).vector id, Embedding.encode (g.vector id))) := by
    refine List.pairwise_map.mpr (h.sound.fits.sorted.imp fun {a b} hab => ?_)
    rw [KeySpace.order_vector]
    exact hab
  refine ByteMap.entries_ext (ByteMap.ascending_scan _ _) hsorted fun e => ?_
  obtain ⟨key, value⟩ := e
  rw [storedEmbeddings, ByteMap.mem_scan_iff, List.mem_map]
  constructor
  · rintro ⟨hlead, hfind⟩
    have hunder : key.startsWith (KeySpace.ofPrefix config.keyPrefix).lead = true := by
      rw [Bytes.startsWith_iff] at hlead ⊢
      exact (List.prefix_append _ _).trans hlead
    obtain ⟨name, rfl⟩ := h.named key value hunder hfind
    obtain ⟨id, rfl⟩ := KeySpace.startsWith_vectorLead_iff.mp hlead
    rw [h.found, Graph.stored] at hfind
    split at hfind
    · next hid => exact ⟨id, hid, by rw [← Option.some_inj.mp hfind]; rfl⟩
    · cases hfind
  · rintro ⟨id, hid, heq⟩
    obtain ⟨rfl, rfl⟩ := Prod.mk.inj heq
    refine ⟨KeySpace.startsWith_vectorLead_iff.mpr ⟨id, rfl⟩, ?_⟩
    exact (h.found (.vector id)).trans (if_pos hid)

theorem Holds.measure?_eq {content : Store} (h : Holds config content g) (query : Embedding) {id : String}
    (hid : id ∈ g.ids) : measure? config query
      ((KeySpace.ofPrefix config.keyPrefix).vector id, Embedding.encode (g.vector id)) =
        some ⟨g.distance query id, id⟩ := by
  have hlength := (checkVector_ok_iff.mp (h.sound.fits.vectors id hid)).1
  rw [measure?, KeySpace.idOfVector?_vector, ← hlength, Embedding.decode_encode, ← h.sound.fits.metric]
  rfl

theorem Holds.bruteForce_eq {content : Store} (h : Holds config content g) (query : Embedding) (k : Nat) :
    bruteForce config content query k =
      ((Candidate.sort (g.measured query)).take k).map fun c => ⟨c.id, c.distance⟩ := by
  have hmeasured : (storedEmbeddings config content).filterMap (measure? config query) =
      g.measured query := by
    rw [h.storedEmbeddings_eq, List.filterMap_map, Graph.measured, ← List.filterMap_eq_map]
    exact List.filterMap_congr fun id hid => h.measure?_eq query hid
  rw [bruteForce, hmeasured]

theorem Holds.length_bruteForce {content : Store} (h : Holds config content g) (query : Embedding)
    (k : Nat) : (bruteForce config content query k).length =
      min k (storedEmbeddings config content).length := by
  rw [h.bruteForce_eq, h.storedEmbeddings_eq, List.length_map, List.length_take, Candidate.length_sort,
    Graph.measured, List.length_map, List.length_map]

theorem Ready.lookUp_complete {ix : VectorIndex} (h : Ready ix store g) (hc : g.Complete)
    (query : Embedding) (k : Nat) :
    lookUp ix.config store .never query k = scanSearch ix.config store.content query k := by
  have hholds := h.holds
  cases hquery : checkVector ix.config query with
  | error e =>
    rw [lookUp, scanSearch, hquery]
    rfl
  | ok u =>
    by_cases hk : 1 ≤ k ∧ k ≤ maxCount
    · have hcount : (!(decide (1 ≤ k) && decide (k ≤ maxCount))) = false := by simp [hk]
      rw [lookUp_eq hholds h.gettable h.scannable hquery hk, scanSearch, hquery]
      show _ = (if (!(decide (1 ≤ k) && decide (k ≤ maxCount))) = true then _ else _)
      rw [if_neg (by simp [hcount]), hholds.storedEmbeddings_eq]
      cases hentry : g.entry with
      | none =>
        rw [hholds.sound.rooted.empty hentry]
        rfl
      | some entry =>
        have hids : g.ids ≠ [] := List.ne_nil_of_mem (hholds.sound.rooted.present hentry).1
        -- the beam is cut at twice the count or later, so it never decides what is in the answer
        have hwide : min k (max ix.config.searchBreadth (2 * k)) = k := by omega
        have hempty : (g.ids.map fun id => ((KeySpace.ofPrefix ix.config.keyPrefix).vector id,
            Embedding.encode (g.vector id))).isEmpty = false := by simpa using hids
        rw [hempty]
        show Except.ok (((g.candidates ix.config query k entry).take k).map fun c =>
          (⟨c.id, c.distance⟩ : Neighbor)) = .ok (bruteForce ix.config store.content query k)
        rw [hc.candidates_eq hholds.sound h.accepted hentry, List.take_take, hwide, hholds.bruteForce_eq]
    · have hcount : (!(decide (1 ≤ k) && decide (k ≤ maxCount))) = true := by
        rw [← Bool.decide_and, decide_eq_false hk]
        rfl
      rw [lookUp, scanSearch, hquery]
      show (if (!(decide (1 ≤ k) && decide (k ≤ maxCount))) = true then _ else _) =
        (if (!(decide (1 ≤ k) && decide (k ≤ maxCount))) = true then _ else _)
      rw [if_pos hcount, if_pos hcount]
      rfl

/-- The states of an index that was opened where nothing was stored under its prefix, that is alone there
and that has never held more than a number of embeddings. -/
inductive ReachedWithin (config : VectorConfig) (most : Nat) : VectorIndex → StoreHandle → Prop
  | opened {samples : List Binary64} {ix : VectorIndex} {content : Store}
      (hempty : ∀ bytes, bytes.startsWith (KeySpace.ofPrefix config.keyPrefix).lead = true →
        content.find? bytes = none)
      (hopen : VectorIndex.open config samples { content } = .ok ix) :
      ReachedWithin config most ix { content }
  | step {ix ix' : VectorIndex} {store store' : StoreHandle} (h : ReachedWithin config most ix store)
      (hstep : Step config ix store ix' store')
      (hfew : (storedEmbeddings config store'.content).length ≤ most) :
      ReachedWithin config most ix' store'

theorem ReachedWithin.complete {ix : VectorIndex}
    (h : ReachedWithin config (min config.width config.buildBreadth + 1) ix store) :
    ix.config = config ∧ ∃ g, Ready ix store g ∧ g.Complete := by
  induction h with
  | opened hempty hopen =>
    obtain ⟨hconfig, hready⟩ := ready_of_open hempty hopen
    refine ⟨hconfig, _, hready, ?_⟩
    intro a ha
    cases ha
  | @step ix ix' store store' _ hstep hfew ih =>
    obtain ⟨rfl, g, hready, hc⟩ := ih
    obtain ⟨hconfig, g', hmoves, hnext⟩ := hstep.moves hready
    have hheld : Holds ix.config store'.content g' := hconfig ▸ hnext.holds
    rw [hheld.storedEmbeddings_eq, List.length_map] at hfew
    exact ⟨hconfig, g', hnext, hmoves.complete hready.holds.sound hc hready.accepted.buildBreadth.1 hfew⟩

/-- As long as the embeddings are few, a search answers what measuring all of them answers. -/
theorem search_eq_scanSearch {ix : VectorIndex}
    (h : ReachedWithin config (min config.width config.buildBreadth + 1) ix store) (query : Embedding)
    (k : Nat) : (ix.search store .never query k).1 = scanSearch config store.content query k ∧
      (bruteForce config store.content query k).length =
        min k (storedEmbeddings config store.content).length := by
  obtain ⟨rfl, g, hready, hc⟩ := h.complete
  refine ⟨?_, hready.holds.length_bruteForce query k⟩
  rw [search, hready.lookUp_complete hc]
  cases scanSearch ix.config store.content query k <;> rfl

theorem reachedWithin_small {most : Nat} : ReachedWithin smallConfig most small smallStore :=
  .opened (fun _ _ => rfl) rfl

theorem reachedWithin_smallTwo : ReachedWithin smallConfig
    (min smallConfig.width smallConfig.buildBreadth + 1) smallTwo.index smallTwo.store := by
  have hone : ReachedWithin smallConfig (min smallConfig.width smallConfig.buildBreadth + 1)
      smallOne.index smallOne.store :=
    reachedWithin_small.step (.insert none .never "a:\"" [Binary64.zero] (by rw [smallOne]))
      (by decide +kernel)
  exact hone.step (.insert none .never "b" [Binary64.one] (by rw [smallTwo])) (by decide +kernel)

theorem scanSearch_smallTwo :
    (smallTwo.index.search smallTwo.store .never [Binary64.one] 2).1 =
      .ok [⟨"b", Binary64.zero⟩, ⟨"a:\"", Binary64.one⟩] := by
  have hscan : scanSearch smallConfig smallTwo.store.content [Binary64.one] 2 =
      .ok [⟨"b", Binary64.zero⟩, ⟨"a:\"", Binary64.one⟩] := by decide +kernel
  rw [(search_eq_scanSearch reachedWithin_smallTwo [Binary64.one] 2).1, hscan]

/-- With nothing stored there is no hit, but a search does not answer that it has none. -/
theorem search_small_ne_bruteForce :
    ReachedWithin smallConfig (min smallConfig.width smallConfig.buildBreadth + 1) small smallStore ∧
      bruteForce smallConfig smallStore.content [Binary64.one] 1 = [] ∧
      (small.search smallStore .never [Binary64.one] 1).1 = .error .emptyIndex :=
  ⟨reachedWithin_small, by decide +kernel, by decide +kernel⟩

end VectorIndex

end HybridSearch
