import HybridSearch.Proofs.VectorIndex.Searching

/-!
# Sound graphs

A sound graph is wired, its nodes fit the settings of the index, and its entry point is a node of the
highest level. Inserts and deletes keep a graph sound.
-/
namespace HybridSearch

namespace Graph

/-- The nodes and figures of a graph are within the settings of an index. -/
structure Fits (config : VectorConfig) (g : Graph) : Prop where
  metric : g.metric = config.metric
  sorted : g.ids.Pairwise fun a b => String.byteOrder a b = .lt
  levels : ∀ id ∈ g.ids, g.level id ≤ VectorIndex.maxLevel
  vectors : ∀ id ∈ g.ids, VectorIndex.checkVector config (g.vector id) = .ok ()
  entry : ∀ {e}, g.entry = some e → e.level ≤ VectorIndex.maxLevel
  count : ∀ {n}, g.count = some n → n < 0x10000000000000000

/-- The entry point is a node of the highest level; only a graph without nodes has none. -/
structure Rooted (g : Graph) : Prop where
  empty : g.entry = none → g.ids = []
  present : ∀ {e}, g.entry = some e → e.id ∈ g.ids ∧ g.level e.id = e.level
  highest : ∀ {e}, g.entry = some e → ∀ id ∈ g.ids, g.level id ≤ e.level

structure Sound (config : VectorConfig) (g : Graph) : Prop where
  fits : g.Fits config
  wired : g.Wired
  rooted : g.Rooted

theorem sound_empty (config : VectorConfig) : (empty config.metric).Sound config := by
  refine ⟨⟨rfl, List.Pairwise.nil, ?_, ?_, ?_, ?_⟩, ⟨?_, ?_, ?_, ?_⟩, ⟨?_, ?_, ?_⟩⟩ <;> simp [empty]

variable {config : VectorConfig} {g h : Graph}

theorem Fits.congr (hf : g.Fits config) (same : SameNodes g h) : h.Fits config where
  metric := same.metric.trans hf.metric
  sorted := by rw [same.ids]; exact hf.sorted
  levels := by rw [same.ids, same.level]; exact hf.levels
  vectors := by rw [same.ids, same.vector]; exact hf.vectors
  entry := by rw [same.entry]; exact hf.entry
  count := by rw [same.count]; exact hf.count

theorem Fits.nodup_ids (hf : g.Fits config) : g.ids.Nodup := by
  refine hf.sorted.imp fun {a b} hab heq => ?_
  exact Bytes.order_lt_irrefl _ (heq ▸ hab)

theorem rooted_of_entry {e : EntryPoint} (hentry : g.entry = some e) (hmem : e.id ∈ g.ids)
    (hlevel : g.level e.id = e.level) (hhighest : ∀ id ∈ g.ids, g.level id ≤ e.level) : g.Rooted where
  empty hnone := by rw [hentry] at hnone; cases hnone
  present he := Option.some_inj.mp (hentry.symm.trans he) ▸ ⟨hmem, hlevel⟩
  highest he := Option.some_inj.mp (hentry.symm.trans he) ▸ hhighest

theorem Fits.setEntryPoint (hf : g.Fits config) {e : Option EntryPoint}
    (he : ∀ {e'}, e = some e' → e'.level ≤ VectorIndex.maxLevel) : (g.setEntryPoint e).Fits config :=
  { hf with entry := he }

theorem Wired.setEntryPoint (hw : g.Wired) (e : Option EntryPoint) : (g.setEntryPoint e).Wired :=
  ⟨hw.symm, hw.irrefl, hw.nodup, hw.on⟩

theorem signedWord_lt (n : Int) : (Draft.signedWord n).toNat < 0x10000000000000000 := by
  have hle := @Int.bmod_le n 0x10000000000000000 (by decide)
  rw [Draft.signedWord]
  omega

theorem mem_insertId {id i : String} {ids : List String} :
    i ∈ insertId id ids ↔ i = id ∨ i ∈ ids := by
  induction ids with
  | nil => simp [insertId]
  | cons first rest ih =>
    rw [insertId]
    split
    · simp
    · next heq =>
      obtain rfl := String.byteOrder_eq_iff.mp heq
      simp
    · simp only [List.mem_cons, ih]
      grind

theorem sorted_insertId (id : String) {ids : List String}
    (h : ids.Pairwise fun a b => String.byteOrder a b = .lt) :
    (insertId id ids).Pairwise fun a b => String.byteOrder a b = .lt := by
  induction ids with
  | nil => exact List.pairwise_singleton _ _
  | cons first rest ih =>
    have hfirst := (List.pairwise_cons.mp h).1
    rw [insertId]
    split
    · next hlt =>
      refine List.pairwise_cons.mpr ⟨fun i hi => ?_, h⟩
      rcases List.mem_cons.mp hi with rfl | hi
      · exact hlt
      · exact Bytes.order_lt_trans hlt (hfirst i hi)
    · exact h
    · next hgt =>
      refine List.pairwise_cons.mpr ⟨fun i hi => ?_, ih (List.Pairwise.of_cons h)⟩
      rcases mem_insertId.mp hi with rfl | hi
      · exact Bytes.order_lt_iff_gt.mpr hgt
      · exact hfirst i hi

variable {id : String} {v : Embedding} {level : Nat}

theorem mem_ids_putNode {i : String} : i ∈ (g.putNode id v level).ids ↔ i = id ∨ i ∈ g.ids :=
  mem_insertId

theorem level_putNode (g : Graph) (id : String) (v : Embedding) (level : Nat) (i : String) :
    (g.putNode id v level).level i = if i = id then level else g.level i := rfl

theorem vector_putNode (g : Graph) (id : String) (v : Embedding) (level : Nat) (i : String) :
    (g.putNode id v level).vector i = if i = id then v else g.vector i := rfl

theorem on_putNode (hid : id ∉ g.ids) {layer : Nat} {i : String} (h : g.On layer i) :
    (g.putNode id v level).On layer i := by
  have hne : i ≠ id := fun heq => hid (heq ▸ h.1)
  exact ⟨mem_ids_putNode.mpr (.inr h.1), by rw [level_putNode, if_neg hne]; exact h.2⟩

theorem on_putNode_self (g : Graph) (id : String) (v : Embedding) (level : Nat) :
    (g.putNode id v level).On level id :=
  ⟨mem_ids_putNode.mpr (.inl rfl), Nat.le_of_eq (if_pos rfl).symm⟩

theorem Wired.putNode (hw : g.Wired) (hid : id ∉ g.ids) : (g.putNode id v level).Wired :=
  ⟨hw.symm, hw.irrefl, hw.nodup, fun h => on_putNode hid (hw.on h)⟩

theorem Fits.putNode (hf : g.Fits config) (hlevel : level ≤ VectorIndex.maxLevel)
    (hv : VectorIndex.checkVector config v = .ok ()) : (g.putNode id v level).Fits config where
  metric := hf.metric
  sorted := sorted_insertId id hf.sorted
  levels i hi := by
    rw [level_putNode]
    split
    · exact hlevel
    · next hne => exact hf.levels i ((mem_ids_putNode.mp hi).resolve_left hne)
  vectors i hi := by
    rw [vector_putNode]
    split
    · exact hv
    · next hne => exact hf.vectors i ((mem_ids_putNode.mp hi).resolve_left hne)
  entry := hf.entry
  count h := Option.some_inj.mp h ▸ signedWord_lt _

theorem Sound.rewires_linkBelow (hs : g.Sound config) (v : Embedding) (level : Nat) (hid : id ∉ g.ids)
    (hbreadth : 0 < config.buildBreadth) {entry : EntryPoint} (hentry : g.entry = some entry) :
    Rewires (· ≤ min level entry.level) (g.putNode id v level)
      (linkBelow config (g.putNode id v level) id v level entry) := by
  obtain ⟨hmem, hlevel⟩ := hs.rooted.present hentry
  exact Graph.rewires_linkBelow (hs.wired.putNode hid) config (on_putNode_self g id v level)
    (on_putNode hid ⟨hmem, Nat.le_of_eq hlevel.symm⟩) hbreadth

/-- The entry point after a new node was linked, which is the new node if it is the highest. -/
theorem Rooted.linkNode (hr : g.Rooted) (hid : id ∉ g.ids) {entry : EntryPoint}
    (hentry : g.entry = some entry) (same : SameNodes (g.putNode id v level) h) :
    (if entry.level < level then h.setEntryPoint (some ⟨id, level⟩) else h).Rooted := by
  obtain ⟨hmem, hlevel⟩ := hr.present hentry
  have hne : entry.id ≠ id := fun heq => hid (heq ▸ hmem)
  have hids : ∀ {i}, i ∈ h.ids ↔ i = id ∨ i ∈ g.ids := by
    intro i
    rw [same.ids]
    exact mem_ids_putNode
  have hlevels : ∀ i, h.level i = if i = id then level else g.level i := by
    intro i
    rw [same.level, level_putNode]
  have hlevels' : ∀ {top}, level ≤ top → entry.level ≤ top → ∀ i ∈ h.ids, h.level i ≤ top := by
    intro top hnew hold i hi
    rw [hlevels]
    split
    · exact hnew
    · next hne => exact Nat.le_trans (hr.highest hentry i ((hids.mp hi).resolve_left hne)) hold
  split
  · next hhigher =>
    exact rooted_of_entry (e := ⟨id, level⟩) rfl (hids.mpr (.inl rfl))
      ((hlevels id).trans (if_pos rfl)) (hlevels' (Nat.le_refl _) (Nat.le_of_lt hhigher))
  · next hlower =>
    exact rooted_of_entry (same.entry.trans hentry) (hids.mpr (.inr hmem))
      (((hlevels entry.id).trans (if_neg hne)).trans hlevel)
      (hlevels' (Nat.le_of_not_lt hlower) (Nat.le_refl _))

theorem Sound.linkNode (hs : g.Sound config) (hid : id ∉ g.ids) (hbreadth : 0 < config.buildBreadth)
    (hlevel : level ≤ VectorIndex.maxLevel) (hv : VectorIndex.checkVector config v = .ok ()) :
    (linkNode config g id v level).Sound config := by
  have hfits : (g.putNode id v level).Fits config := hs.fits.putNode hlevel hv
  have hnew : ∀ {e : EntryPoint}, some ⟨id, level⟩ = some e → e.level ≤ VectorIndex.maxLevel := by
    intro e he
    rw [← Option.some_inj.mp he]
    exact hlevel
  rw [Graph.linkNode]
  split
  · next hentry =>
    have hempty := hs.rooted.empty hentry
    refine ⟨hfits.setEntryPoint hnew, (hs.wired.putNode hid).setEntryPoint _,
      rooted_of_entry (e := ⟨id, level⟩) rfl (on_putNode_self g id v level).1 (if_pos rfl) ?_⟩
    intro i hi
    have hput : i ∈ (g.putNode id v level).ids := hi
    obtain rfl : i = id := by simpa [hempty] using mem_ids_putNode.mp hput
    exact Nat.le_of_eq (if_pos rfl)
  · next entry hentry =>
    have hrewires := hs.rewires_linkBelow v level hid hbreadth hentry
    have hwired := hrewires.wired (hs.wired.putNode hid)
    have hlinked := hfits.congr hrewires.sameNodes
    have hrooted := hs.rooted.linkNode hid hentry hrewires.sameNodes
    dsimp only
    split at hrooted
    · next hhigher =>
      rw [if_pos hhigher]
      exact ⟨hlinked.setEntryPoint hnew, hwired.setEntryPoint _, hrooted⟩
    · next hlower =>
      rw [if_neg hlower]
      exact ⟨hlinked, hwired, hrooted⟩

theorem Sound.nodes_linkNode (hs : g.Sound config) (v : Embedding) (level : Nat) (hid : id ∉ g.ids)
    (hbreadth : 0 < config.buildBreadth) :
    (Graph.linkNode config g id v level).ids = insertId id g.ids ∧
      (Graph.linkNode config g id v level).vector = fun i => if i = id then v else g.vector i := by
  rw [Graph.linkNode]
  split
  · exact ⟨rfl, rfl⟩
  · next entry hentry =>
    have same := (hs.rewires_linkBelow v level hid hbreadth hentry).sameNodes
    dsimp only
    split <;> exact ⟨same.ids, same.vector⟩

theorem mem_ids_removeNode {i : String} : i ∈ (g.removeNode id).ids ↔ i ∈ g.ids ∧ i ≠ id := by
  simp [removeNode, adjustCount]

theorem Wired.removeNode (hw : g.Wired) (hid : ∀ l i, id ∉ g.neighbors l i) :
    (g.removeNode id).Wired where
  symm h := hw.symm h
  irrefl h := hw.irrefl h
  nodup := hw.nodup
  on {l a _} h := ⟨mem_ids_removeNode.mpr ⟨(hw.on h).1, fun heq => hid l a (heq ▸ h)⟩, (hw.on h).2⟩

theorem Fits.removeNode (hf : g.Fits config) : (g.removeNode id).Fits config where
  metric := hf.metric
  sorted := List.Pairwise.filter _ hf.sorted
  levels i hi := hf.levels i (mem_ids_removeNode.mp hi).1
  vectors i hi := hf.vectors i (mem_ids_removeNode.mp hi).1
  entry := hf.entry
  count h := Option.some_inj.mp h ▸ signedWord_lt _

theorem foldl_higher (level : String → Nat) (ids : List String) (best : EntryPoint) :
    ∃ e, ids.foldl (fun best id => Draft.higher best ⟨id, level id⟩) (some best) = some e ∧
      (e = best ∨ e.id ∈ ids ∧ level e.id = e.level) ∧ best.level ≤ e.level ∧
      ∀ id ∈ ids, level id ≤ e.level := by
  induction ids generalizing best with
  | nil => exact ⟨best, rfl, .inl rfl, Nat.le_refl _, by simp⟩
  | cons id ids ih =>
    by_cases hlt : best.level < level id
    · obtain ⟨e, he, hmem, hbest, hall⟩ := ih ⟨id, level id⟩
      refine ⟨e, by simpa [Draft.higher, hlt] using he, .inr ?_, Nat.le_trans (Nat.le_of_lt hlt) hbest,
        fun i hi => ?_⟩
      · rcases hmem with rfl | ⟨hin, hlevel⟩
        · exact ⟨List.mem_cons_self, rfl⟩
        · exact ⟨List.mem_cons_of_mem _ hin, hlevel⟩
      · rcases List.mem_cons.mp hi with rfl | hi
        · exact hbest
        · exact hall i hi
    · obtain ⟨e, he, hmem, hbest, hall⟩ := ih best
      refine ⟨e, by simpa [Draft.higher, hlt] using he,
        hmem.imp_right fun h => ⟨List.mem_cons_of_mem _ h.1, h.2⟩, hbest, fun i hi => ?_⟩
      rcases List.mem_cons.mp hi with rfl | hi
      · omega
      · exact hall i hi

theorem highestNode_cases (g : Graph) : g.ids = [] ∧ g.highestNode = none ∨
    ∃ e, g.highestNode = some e ∧ e.id ∈ g.ids ∧ g.level e.id = e.level ∧
      ∀ id ∈ g.ids, g.level id ≤ e.level := by
  rw [highestNode]
  cases hids : g.ids with
  | nil => exact .inl ⟨rfl, rfl⟩
  | cons id ids =>
    obtain ⟨e, he, hmem, hbest, hall⟩ := foldl_higher g.level ids ⟨id, g.level id⟩
    refine .inr ⟨e, he, ?_, ?_, fun i hi => ?_⟩
    · rcases hmem with rfl | ⟨hin, -⟩
      · exact List.mem_cons_self
      · exact List.mem_cons_of_mem _ hin
    · rcases hmem with rfl | ⟨-, hlevel⟩
      · rfl
      · exact hlevel
    · rcases List.mem_cons.mp hi with rfl | hi
      · exact hbest
      · exact hall i hi

theorem rooted_highestNode (g : Graph) : (g.setEntryPoint g.highestNode).Rooted := by
  rcases highestNode_cases g with ⟨hids, hnone⟩ | ⟨e, he, hmem, hlevel, hall⟩
  · rw [hnone]
    constructor
    · exact fun _ => hids
    · exact fun he => by cases he
    · exact fun he => by cases he
  · rw [he]
    exact rooted_of_entry rfl hmem hlevel hall

theorem sameNodes_unlinkLayers (hw : g.Wired) (config : VectorConfig) (id : String) (layers : Nat) :
    SameNodes g (unlinkLayers config g id layers) :=
  (rewires_unlinkLayers hw config id layers).sameNodes

theorem mem_ids_removeWired (hw : g.Wired) {i : String} :
    i ∈ (removeWired config g id).ids ↔ i ∈ g.ids ∧ i ≠ id := by
  rw [removeWired, mem_ids_removeNode, (sameNodes_unlinkLayers hw config id _).ids]

/-- The removed node is gone, and with it all links to it; what is left is in order. -/
theorem Sound.removeWired (hs : g.Sound config) (id : String) :
    (removeWired config g id).Fits config ∧ (removeWired config g id).Wired := by
  have hr := rewires_unlinkLayers hs.wired config id (g.level id + 1)
  exact ⟨(hs.fits.congr hr.sameNodes).removeNode,
    (hr.wired hs.wired).removeNode (notMem_unlinkLayers hs.wired config id)⟩

theorem entry_removeWired (hw : g.Wired) : (removeWired config g id).entry = g.entry :=
  (sameNodes_unlinkLayers hw config id _).entry

theorem level_removeWired (hw : g.Wired) : (removeWired config g id).level = g.level :=
  (sameNodes_unlinkLayers hw config id _).level

theorem Rooted.removeWired (hr : g.Rooted) (hw : g.Wired) {entry : EntryPoint}
    (hentry : g.entry = some entry) (hne : entry.id ≠ id) : (removeWired config g id).Rooted := by
  obtain ⟨hmem, hlevel⟩ := hr.present hentry
  refine rooted_of_entry ((entry_removeWired hw).trans hentry)
    ((mem_ids_removeWired hw).mpr ⟨hmem, hne⟩) ?_ fun i hi => ?_
  · rw [level_removeWired hw, hlevel]
  · rw [level_removeWired hw]
    exact hr.highest hentry i ((mem_ids_removeWired hw).mp hi).1

theorem Sound.unlinkNode (hs : g.Sound config) (id : String) :
    (unlinkNode config g id).1.Sound config := by
  obtain ⟨hfits, hwired⟩ := hs.removeWired id
  rw [Graph.unlinkNode]
  split
  · next hid =>
    dsimp only
    rw [entry_removeWired hs.wired]
    split
    · next hnone =>
      rw [hs.rooted.empty hnone] at hid
      simp at hid
    · next entry hentry =>
      split
      · refine ⟨hfits.setEntryPoint fun {e} he => ?_, hwired.setEntryPoint _, rooted_highestNode _⟩
        rcases highestNode_cases (Graph.removeWired config g id) with ⟨-, hnone⟩ | ⟨e', he', hmem, hlevel, -⟩
        · rw [hnone] at he
          cases he
        · obtain rfl := Option.some_inj.mp (he'.symm.trans he)
          exact hlevel ▸ hfits.levels _ hmem
      · next hne => exact ⟨hfits, hwired, hs.rooted.removeWired hs.wired hentry hne⟩
  · exact hs

theorem mem_ids_unlinkNode (hw : g.Wired) {i : String} :
    i ∈ (unlinkNode config g id).1.ids ↔ i ∈ g.ids ∧ i ≠ id := by
  have hremoved : ∀ e, i ∈ ((removeWired config g id).setEntryPoint e).ids ↔ i ∈ g.ids ∧ i ≠ id :=
    fun _ => mem_ids_removeWired hw
  rw [unlinkNode]
  split
  · dsimp only
    split
    · exact mem_ids_removeWired hw
    · split
      · exact hremoved _
      · exact mem_ids_removeWired hw
  · next hid =>
    refine ⟨fun hi => ⟨hi, fun heq => hid (heq ▸ hi)⟩, And.left⟩

theorem vector_unlinkNode (hw : g.Wired) : (unlinkNode config g id).1.vector = g.vector := by
  have hremoved : (removeWired config g id).vector = g.vector :=
    (sameNodes_unlinkLayers hw config id _).vector
  rw [unlinkNode]
  split
  · dsimp only
    split
    · exact hremoved
    · split <;> exact hremoved
  · rfl

end Graph

end HybridSearch
