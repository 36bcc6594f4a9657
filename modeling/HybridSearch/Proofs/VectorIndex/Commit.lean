import HybridSearch.Proofs.VectorIndex.Editing
import HybridSearch.Proofs.VectorIndex.Transaction

/-!
# Committed transactions

Whatever a transaction has put, removed, linked and read, reading it answers what a fresh transaction answers over
the store that its batch has been written to. The number of neighbour entries there has changed by what the
transaction says, and so has the number of nodes as long as it has not hit zero from below.
-/
namespace HybridSearch

/-- An edit or a reading that is asked of a transaction. -/
inductive Access where
  | putNode (id : String) (v : Embedding) (level : ℕ)
  | removeNode (id : String)
  | link (layer : ℕ) (a b : String)
  | unlink (layer : ℕ) (a b : String)
  | setNeighbors (layer : ℕ) (id : String) (ids : List String)
  | setEntryPoint (e : Option EntryPoint)
  | vector (id : String)
  | distance (query : Embedding) (id : String)
  | distanceBetween (a b : String)
  | level (id : String)
  | neighbors (layer : ℕ) (id : String)
  | entryPoint
  | count
  | highestNode
  | adjacencyEntries
  deriving DecidableEq

namespace Access

/-- The embeddings that are put have the dimension of the index. -/
def Fits (config : VectorConfig) : Access → Prop
  | .putNode _ v _ => v.length = config.dimension
  | _ => True

def nodes : Access → ℤ
  | .putNode .. => 1
  | .removeNode .. => -1
  | _ => 0

end Access

namespace Transaction

/-- The transaction after an access. An edit has to succeed; a reading goes on whatever it answers. -/
def perform (t : Transaction) : Access → Except VectorError Transaction
  | .putNode id v level => t.putNode id v level
  | .removeNode id => t.removeNode id
  | .link layer a b => t.edit (t.draft.link layer a b)
  | .unlink layer a b => t.edit (t.draft.unlink layer a b)
  | .setNeighbors layer id ids => t.edit (t.draft.setNeighbors layer id ids)
  | .setEntryPoint e => t.edit (.ok (t.draft.setEntryPoint e))
  | .vector id => .ok (t.vector id).2
  | .distance query id => .ok (t.distance query id).2
  | .distanceBetween a b => .ok (t.distanceBetween a b).2
  | .level _ | .neighbors _ _ | .entryPoint | .count | .highestNode | .adjacencyEntries => .ok t

/-- The nodes that an access adds do not make the count hit zero from below. -/
def Counts (t : Transaction) (a : Access) : Prop :=
  a.nodes ≠ 0 → ∀ n ∈ t.draft.count.toOption, ¬ Draft.HitsZeroFromBelow n a.nodes

/-- No access makes the count hit zero from below. -/
def CountsOn : Transaction → List Access → Prop
  | _, [] => True
  | t, a :: rest => t.Counts a ∧ ∀ next ∈ (t.perform a).toOption, next.CountsOn rest

instance (t : Transaction) (a : Access) : Decidable (t.Counts a) :=
  inferInstanceAs (Decidable (_ → _))

instance decidableCountsOn : (t : Transaction) → (accesses : List Access) → Decidable (t.CountsOn accesses)
  | _, [] => .isTrue trivial
  | t, a :: rest =>
    have := fun next : Transaction => decidableCountsOn next rest
    inferInstanceAs (Decidable (t.Counts a ∧ ∀ next ∈ (t.perform a).toOption, next.CountsOn rest))

variable {t t' : Transaction}

/-- What an access does to a transaction, whatever it is. -/
structure Moves (t t' : Transaction) : Prop where
  base : Draft.Shows.SameBase t.draft t'.draft
  coherent : t'.Coherent
  adjacency : Draft.moved t'.draft.adjacencyEntries (-t'.draft.adjacencyChange) =
    Draft.moved t.draft.adjacencyEntries (-t.draft.adjacencyChange)

def Counted (t t' : Transaction) : Prop :=
  Draft.moved t'.draft.count (-t'.draft.countChange) = Draft.moved t.draft.count (-t.draft.countChange)

theorem exists_of_edit {t : Transaction} {next : Except VectorError Draft} (h : t.edit next = .ok t') :
    ∃ draft, next = .ok draft ∧ t' = { t with draft } := by
  obtain ⟨draft, hnext, rfl⟩ := exists_of_map_ok h
  exact ⟨draft, hnext, rfl⟩

theorem moves_rewires (hc : t.Coherent) {draft : Draft} (h : t.draft.Rewires draft) :
    t.Moves { t with draft } ∧ t.Counted { t with draft } := by
  refine ⟨⟨h.base, fun id v hknown => (h.vector id).trans (hc id v hknown), h.adjacency⟩, ?_⟩
  show Draft.moved draft.count (-draft.countChange) = _
  rw [h.count, h.countChange]

theorem moves_answers {α : Type} {reading : Except VectorError α × Transaction}
    {answer : Except VectorError α} (h : t.Answers reading answer) :
    t.Moves reading.2 ∧ t.Counted reading.2 := by
  rw [Counted, h.draft_eq]
  refine ⟨⟨?_, h.coherent, by rw [h.draft_eq]⟩, rfl⟩
  rw [h.draft_eq]
  exact ⟨rfl, rfl, rfl, rfl⟩

theorem moves_self (hc : t.Coherent) : t.Moves t ∧ t.Counted t :=
  ⟨⟨⟨rfl, rfl, rfl, rfl⟩, hc, rfl⟩, rfl⟩

theorem moves_recounts {draft : Draft} {decoded : List (String × Embedding)} {id : String} {change : ℤ}
    (h : t.draft.Recounts draft id change) (hc : ({ draft, decoded } : Transaction).Coherent) :
    t.Moves { draft, decoded } :=
  ⟨h.base, hc, by rw [h.adjacency, h.adjacencyChange]⟩

theorem coherent_putNode (hc : t.Coherent) (hd : t.draft.Readable) {id : String} {v : Embedding} {level : ℕ}
    {draft : Draft} (hv : v.length = t.draft.dimension) (h : t.draft.putNode id v level = .ok draft) :
    ({ draft, decoded := (id, v) :: t.decoded } : Transaction).Coherent := by
  intro other w hknown
  rw [List.lookup_cons] at hknown
  split at hknown
  · next hid =>
    rw [← Option.some_inj.mp hknown, eq_of_beq hid]
    exact Draft.vector_of_putNode hd hv h
  · next hid =>
    exact ((Draft.recounts_putNode hd h).vector other (by simpa using hid)).trans (hc other w hknown)

theorem lookup_forget {id other : String} {v : Embedding} {decoded : List (String × Embedding)}
    (h : (decoded.filter fun known => known.1 != id).lookup other = some v) :
    other ≠ id ∧ decoded.lookup other = some v := by
  induction decoded with
  | nil => cases h
  | cons known rest ih =>
    obtain ⟨name, w⟩ := known
    rw [List.lookup_cons]
    by_cases hname : name = id
    · rw [List.filter_cons_of_neg (by simpa using hname)] at h
      obtain ⟨hne, hrest⟩ := ih h
      rw [hname, beq_eq_false_iff_ne.mpr hne]
      exact ⟨hne, hrest⟩
    · rw [List.filter_cons_of_pos (by simpa using hname), List.lookup_cons] at h
      split at h
      · next hother => exact ⟨eq_of_beq hother ▸ hname, h⟩
      · exact ih h

theorem coherent_removeNode (hc : t.Coherent) (hd : t.draft.Readable) {id : String} {draft : Draft}
    (h : t.draft.removeNode id = .ok draft) :
    ({ draft, decoded := t.decoded.filter fun known => known.1 != id } : Transaction).Coherent := by
  intro other w hknown
  obtain ⟨hne, hold⟩ := lookup_forget hknown
  exact ((Draft.recounts_removeNode hd h).vector other hne).trans (hc other w hold)

theorem moves_perform {config : VectorConfig} {a : Access} (hc : t.Coherent) (hd : t.draft.Readable)
    (hdim : t.draft.dimension = config.dimension) (hfits : a.Fits config) (h : t.perform a = .ok t') :
    t.Moves t' ∧ (t.Counts a → t.Counted t') := by
  cases a with
  | putNode id v level =>
    obtain ⟨draft, hput, rfl⟩ := exists_of_edit h
    have hcounts := Draft.recounts_putNode hd hput
    exact ⟨moves_recounts hcounts (coherent_putNode hc hd (hfits.trans hdim.symm) hput),
      fun hzero => hcounts.moved_count (by decide) (hzero (show (1 : ℤ) ≠ 0 by decide))⟩
  | removeNode id =>
    obtain ⟨draft, hremove, rfl⟩ := exists_of_edit h
    have hcounts := Draft.recounts_removeNode hd hremove
    exact ⟨moves_recounts hcounts (coherent_removeNode hc hd hremove),
      fun hzero => hcounts.moved_count (by decide) (hzero (show (-1 : ℤ) ≠ 0 by decide))⟩
  | link layer a b =>
    obtain ⟨draft, hlink, rfl⟩ := exists_of_edit h
    exact (moves_rewires hc (Draft.rewires_link hd hlink)).imp_right fun hcounted _ => hcounted
  | unlink layer a b =>
    obtain ⟨draft, hunlink, rfl⟩ := exists_of_edit h
    exact (moves_rewires hc (Draft.rewires_unlink hd hunlink)).imp_right fun hcounted _ => hcounted
  | setNeighbors layer id ids =>
    obtain ⟨draft, hset, rfl⟩ := exists_of_edit h
    exact (moves_rewires hc (Draft.rewires_setNeighbors hd hset)).imp_right fun hcounted _ => hcounted
  | setEntryPoint e =>
    obtain ⟨draft, hset, rfl⟩ := exists_of_edit h
    obtain rfl := Except.ok.inj hset
    exact (moves_rewires hc (Draft.rewires_setEntryPoint hd e)).imp_right fun hcounted _ => hcounted
  | vector id =>
    obtain rfl := Except.ok.inj h
    exact (moves_answers (hc.vector id)).imp_right fun hcounted _ => hcounted
  | distance query id =>
    obtain rfl := Except.ok.inj h
    exact (moves_answers (hc.distance query id)).imp_right fun hcounted _ => hcounted
  | distanceBetween a b =>
    obtain rfl := Except.ok.inj h
    exact (moves_answers (hc.distanceBetween a b)).imp_right fun hcounted _ => hcounted
  | level | neighbors | entryPoint | count | highestNode | adjacencyEntries =>
    obtain rfl := Except.ok.inj h
    exact (moves_self hc).imp_right fun hcounted _ => hcounted

theorem moves_run {config : VectorConfig} {accesses : List Access} (hc : t.Coherent) (hd : t.draft.Readable)
    (hdim : t.draft.dimension = config.dimension) (hfits : ∀ a ∈ accesses, a.Fits config)
    (h : accesses.foldlM perform t = .ok t') : t.Moves t' ∧ (t.CountsOn accesses → t.Counted t') := by
  induction accesses generalizing t with
  | nil =>
    obtain rfl := Except.ok.inj h
    exact (moves_self hc).imp_right fun hcounted _ => hcounted
  | cons a rest ih =>
    rw [List.foldlM_cons] at h
    obtain ⟨next, hstep, hrest⟩ := exists_of_bind_ok h
    obtain ⟨hmoves, hcounted⟩ := moves_perform hc hd hdim (hfits a List.mem_cons_self) hstep
    obtain ⟨hlater, hlaterCounted⟩ := ih hmoves.coherent (hd.of_base hmoves.base)
      (hmoves.base.dimension.trans hdim) (fun b hb => hfits b (List.mem_cons_of_mem _ hb)) hrest
    refine ⟨⟨hmoves.base.trans hlater.base, hlater.coherent, hlater.adjacency.trans hmoves.adjacency⟩, ?_⟩
    rintro ⟨hzero, hon⟩
    exact (hlaterCounted (hon next (by rw [hstep]; exact rfl))).trans (hcounted hzero)

/-- Two transactions give the same answer to each reading. -/
structure SameAnswers (t t' : Transaction) : Prop where
  level : ∀ id, t'.draft.level id = t.draft.level id
  vector : ∀ id, (t'.vector id).1 = (t.vector id).1
  distance : ∀ query id, (t'.distance query id).1 = (t.distance query id).1
  distanceBetween : ∀ a b, (t'.distanceBetween a b).1 = (t.distanceBetween a b).1
  neighbors : ∀ layer id, t'.draft.neighbors layer id = t.draft.neighbors layer id
  entryPoint : t'.draft.entryPoint = t.draft.entryPoint
  count : t'.draft.count = t.draft.count
  highestNode : t'.draft.highestNode = t.draft.highestNode
  adjacencyEntries : t'.draft.adjacencyEntries = t.draft.adjacencyEntries

theorem sameAnswers (hc : t.Coherent) (hc' : t'.Coherent) (h : t.draft.SameReads t'.draft) :
    t.SameAnswers t' where
  level := h.level
  vector id := by rw [(hc.vector id).answer_eq, (hc'.vector id).answer_eq, h.vector]
  distance query id := by rw [(hc.distance query id).answer_eq, (hc'.distance query id).answer_eq, h.distance]
  distanceBetween a b := by
    rw [(hc.distanceBetween a b).answer_eq, (hc'.distanceBetween a b).answer_eq, h.distanceBetween]
  neighbors := h.neighbors
  entryPoint := h.entryPoint
  count := h.count
  highestNode := h.highestNode
  adjacencyEntries := h.adjacencyEntries

theorem sameReads_start {config : VectorConfig} {store store' : StoreHandle} {d : Draft}
    (hbase : Draft.Shows.SameBase (Draft.start config store) d) (hd : d.Readable)
    (hfaults : store'.faults = store.faults)
    (hcontent : store'.content = store.content.write d.batch) : d.SameReads (Draft.start config store') := by
  have hd' : (Draft.start config store').Readable := by
    rw [Draft.Readable, hbase.store] at hd
    rw [Draft.Readable]
    exact hfaults.symm ▸ hd
  have hpeek : ∀ key, (Draft.start config store').peek key = d.peek key := by
    intro key
    have hfound := Draft.find?_write_batch d key
    rw [hbase.store] at hfound
    show store'.content.find? key = _
    rw [hcontent]
    exact hfound
  refine ⟨hbase.keys.symm, hbase.dimension.symm, hbase.metric.symm, fun key => ?_,
    fun lead => Draft.scan_congr hd hd' fun key _ => hpeek key⟩
  rw [Draft.get_eq _ hd'.1, Draft.get_eq _ hd.1, hpeek]

theorem moved_of_opposite {x y : Except VectorError ℕ} {change : ℤ}
    (h : Draft.moved y (-change) = Draft.moved x 0) : Draft.moved y 0 = Draft.moved x change := by
  have hmoved := Draft.moved_add h change
  rw [Int.add_left_neg, Int.zero_add] at hmoved
  exact hmoved

/-- Reading through a transaction is reading what it commits. -/
theorem committed {config : VectorConfig} {store : StoreHandle} {accesses : List Access}
    (hstore : store.faults = {}) (hfits : ∀ a ∈ accesses, a.Fits config)
    (hrun : accesses.foldlM perform (start config store) = .ok t) (sync : Bool) :
    ∃ store', store.write t.draft.batch sync = .ok store' ∧ t.SameAnswers (start config store') ∧
      Draft.moved (start config store').draft.adjacencyEntries 0 =
        Draft.moved (start config store).draft.adjacencyEntries t.draft.adjacencyChange ∧
      ((start config store).CountsOn accesses → Draft.moved (start config store').draft.count 0 =
        Draft.moved (start config store).draft.count t.draft.countChange) := by
  have hd : (start config store).draft.Readable := by
    show store.faults.get = none ∧ store.faults.scan = none
    rw [hstore]
    exact ⟨rfl, rfl⟩
  obtain ⟨hmoves, hcounted⟩ := moves_run (coherent_start config store) hd rfl hfits hrun
  have hreads : t.draft.SameReads (Draft.start config ⟨store.content.write t.draft.batch, store.faults, sync⟩) :=
    sameReads_start hmoves.base (hd.of_base hmoves.base) rfl rfl
  refine ⟨_, ?_, sameAnswers hmoves.coherent (coherent_start _ _) hreads, ?_, fun hon => ?_⟩
  · rw [StoreHandle.write, hstore]
  · exact (congrArg (Draft.moved · 0) hreads.adjacencyEntries).trans (moved_of_opposite hmoves.adjacency)
  · exact (congrArg (Draft.moved · 0) hreads.count).trans (moved_of_opposite (hcounted hon))

/-- Nodes that are linked, taken apart and put in again, with readings in between. -/
def turnover : List Access :=
  [.putNode "a" [.one] 1, .putNode "b" [.zero] 0, .link 0 "a" "b", .distanceBetween "a" "b", .unlink 0 "a" "b",
    .removeNode "b", .vector "b", .putNode "b" [.one] 0, .link 0 "b" "a", .setNeighbors 1 "a" ["b"],
    .setEntryPoint (some ⟨"a", 1⟩), .highestNode]

theorem committed_turnover : ∃ t store', turnover.foldlM perform (start { dimension := 1 } default) = .ok t ∧
    (default : StoreHandle).write t.draft.batch false = .ok store' ∧
    t.SameAnswers (start { dimension := 1 } store') ∧
    Draft.moved (start { dimension := 1 } store').draft.adjacencyEntries 0 =
      Draft.moved (start { dimension := 1 } default).draft.adjacencyEntries t.draft.adjacencyChange ∧
    Draft.moved (start { dimension := 1 } store').draft.count 0 =
      Draft.moved (start { dimension := 1 } default).draft.count t.draft.countChange := by
  have hok : (turnover.foldlM perform (start { dimension := 1 } default)).isOk = true := by decide +kernel
  obtain ⟨t, hrun⟩ := exists_of_isOk hok
  obtain ⟨store', hwrite, hsame, hadjacency, hcount⟩ :=
    committed rfl (by simp [turnover, Access.Fits]) hrun false
  exact ⟨t, store', hrun, hwrite, hsame, hadjacency, hcount (by decide +kernel)⟩

end Transaction

end HybridSearch
