import HybridSearch.Proofs.VectorIndex.Index

/-!
# Graphs with room for all links

As long as an insert meets no more nodes than it looks for and may link to, every node of the lowest layer
is linked to every other: the new node finds all of them, no list grows beyond its capacity, and taking a
node out cuts none but its own links.
-/
namespace HybridSearch

namespace Graph

/-- All nodes are linked to each other on the lowest layer, except for one that may lack its links. -/
def CompleteBut (g : Graph) (id : String) : Prop :=
  ∀ a ∈ g.ids, ∀ b ∈ g.ids, a ≠ id → b ≠ id → a ≠ b → b ∈ g.neighbors 0 a

/-- All nodes are linked to each other on the lowest layer. -/
def Complete (g : Graph) : Prop := ∀ a ∈ g.ids, ∀ b ∈ g.ids, a ≠ b → b ∈ g.neighbors 0 a

variable {config : VectorConfig} {g : Graph} {id : String}

theorem mem_unlinkLayers {l layers : Nat} {i n : String} (h : n ∈ g.neighbors l i) (hi : i ≠ id)
    (hn : n ≠ id) : n ∈ (unlinkLayers config g id layers).neighbors l i := by
  induction layers with
  | zero => exact h
  | succ layers ih =>
    rw [unlinkLayers_succ, unlinkLayer, repair]
    refine (prefix_foldl_reconnect _ _ _ _ _ l i).mem ?_
    rw [mem_unlinkAll]
    exact ⟨ih, by simp [hi, hn]⟩

theorem Complete.unlinkNode (hc : g.Complete) (hw : g.Wired) (id : String) :
    (unlinkNode config g id).1.Complete := by
  intro a ha b hb hne
  obtain ⟨ha, hai⟩ := (mem_ids_unlinkNode hw).mp ha
  obtain ⟨hb, hbi⟩ := (mem_ids_unlinkNode hw).mp hb
  have hlinked : b ∈ g.neighbors 0 a := hc a ha b hb hne
  by_cases hid : id ∈ g.ids
  · rw [neighbors_unlinkNode hid]
    exact mem_unlinkLayers hlinked hai hbi
  · rw [Graph.unlinkNode, if_neg hid]
    exact hlinked

theorem length_neighbors_lt (hw : g.Wired) (layer : Nat) (hid : id ∈ g.ids) :
    (g.neighbors layer id).length < g.ids.length :=
  Beam.length_lt_of_notMem (hw.nodup layer id) hw.irrefl hid fun _ hn => (hw.on hn).1

theorem connect_of_few {capacity layer : Nat} {n : String} (hw : g.Wired) (hne : id ≠ n)
    (hid : g.On layer id) (hn : g.On layer n) (hfew : g.ids.length ≤ capacity + 1) :
    connect capacity layer id g n = g.link layer id n := by
  have same := sameNodes_link g layer id n
  have hlength := length_neighbors_lt (hw.link hne hid hn) layer (same.on_iff.mpr hn).1
  rw [same.ids] at hlength
  rw [connect, shrink]
  exact if_pos (by omega)

theorem mem_foldl_connect {capacity layer : Nat} {ns : List String} (hw : g.Wired)
    (hid : g.On layer id) (hns : ∀ n ∈ ns, n ≠ id ∧ g.On layer n)
    (hfew : g.ids.length ≤ capacity + 1) {l : Nat} {i n : String} :
    n ∈ (ns.foldl (connect capacity layer id) g).neighbors l i ↔
      n ∈ g.neighbors l i ∨ l = layer ∧ (i = id ∧ n ∈ ns ∨ i ∈ ns ∧ n = id) := by
  induction ns generalizing g with
  | nil => simp
  | cons m ns ih =>
    obtain ⟨hne, hm⟩ := hns m List.mem_cons_self
    have same := sameNodes_link g layer id m
    have hrest : ∀ n ∈ ns, n ≠ id ∧ (g.link layer id m).On layer n := by
      intro n hn
      obtain ⟨hne, hon⟩ := hns n (List.mem_cons_of_mem _ hn)
      exact ⟨hne, same.on_iff.mpr hon⟩
    rw [List.foldl_cons, connect_of_few hw hne.symm hid hm hfew,
      ih (hw.link hne.symm hid hm) (same.on_iff.mpr hid) hrest (by rw [same.ids]; exact hfew), mem_link]
    grind

variable {query : Embedding} {cs : List Candidate}

theorem ne_of_mem_searchLayer (hw : g.Wired) {layer breadth : Nat} (hs : g.Starts query layer cs)
    (hunlisted : ∀ i, id ∉ g.neighbors layer i) (hcs : ∀ c ∈ cs, c.id ≠ id) :
    ∀ c ∈ g.searchLayer query cs breadth layer, c.id ≠ id := by
  intro c hc heq
  have hreached := (hw.searchLayer_found hs breadth).reached c hc
  rw [heq] at hreached
  cases hreached with
  | start hstart =>
    obtain ⟨start, hmem, hid⟩ := List.mem_map.mp hstart
    exact hcs start hmem hid
  | step _ hlist hnext =>
    rw [← Except.ok.inj hlist] at hnext
    exact hunlisted _ hnext

theorem ne_of_mem_descend (hw : g.Wired) (bottom : Nat) {top : Nat} (hs : g.Starts query top cs)
    (hunlisted : ∀ l i, id ∉ g.neighbors l i) (hcs : ∀ c ∈ cs, c.id ≠ id) :
    ∀ c ∈ g.descend query bottom top cs, c.id ≠ id := by
  induction top generalizing cs with
  | zero => exact hcs
  | succ top ih =>
    rw [descend]
    split
    · exact hcs
    · have hnext := (hw.searchLayer_starts hs Nat.one_pos).mono (Nat.le_succ top)
      exact ih hnext (ne_of_mem_searchLayer hw hs (hunlisted (top + 1)) hcs)

/-- A new node on its way down: it is not yet in a list of the layers below, and a search of them begins at
other nodes. -/
structure Descends (g : Graph) (id : String) (query : Embedding) (layer : Nat) (cs : List Candidate) : Prop where
  on : g.On layer id
  unlisted : ∀ l ≤ layer, ∀ i, id ∉ g.neighbors l i
  starts : g.Starts query layer cs
  others : ∀ c ∈ cs, c.id ≠ id

theorem Descends.next {layer : Nat} (hd : g.Descends id query (layer + 1) cs) (hw : g.Wired)
    (hbreadth : 0 < config.buildBreadth) : (linkLayer config id query (layer + 1) g cs).1.Descends id query layer
      (linkLayer config id query (layer + 1) g cs).2 := by
  have hlinked := rewires_linkLayer hw config hd.on hd.starts hbreadth
  have same := hlinked.sameNodes
  refine ⟨same.on_iff.mpr ⟨hd.on.1, Nat.le_of_succ_le hd.on.2⟩, fun l hl i => ?_, ?_, ?_⟩
  · rw [hlinked.neighbors_of_not (by omega)]
    exact hd.unlisted l (by omega) i
  · exact ((hw.searchLayer_starts hd.starts hbreadth).congr same).mono (Nat.le_succ layer)
  · exact ne_of_mem_searchLayer hw hd.starts (hd.unlisted (layer + 1) (Nat.le_refl _)) hd.others

def others (g : Graph) (id : String) : List String := g.ids.filter fun i => i != id

theorem mem_others {i : String} : i ∈ g.others id ↔ i ∈ g.ids ∧ i ≠ id := by
  simp [others]

theorem length_others (hf : g.Fits config) (hid : id ∈ g.ids) :
    (g.others id).length < g.ids.length :=
  Beam.length_lt_of_notMem (hf.nodup_ids.filter _) (fun hmem => (mem_others.mp hmem).2 rfl) hid
    fun _ hi => (mem_others.mp hi).1

/-- The lowest layer of a graph into which a node is put: all others are linked to each other, and the node
itself is not yet in a list. -/
structure Lacks (g : Graph) (id : String) (layers : Nat) (cs : List Candidate) : Prop where
  complete : g.CompleteBut id
  unlisted : ∀ l < layers, ∀ i, id ∉ g.neighbors l i
  starts : ∀ c ∈ cs, c.id ≠ id

theorem Lacks.found (h : g.Lacks id 1 cs) (hw : g.Wired) (hs : g.Starts query 0 cs) {breadth : Nat}
    (hroom : (g.others id).length ≤ breadth) {n : String} (hn : n ∈ g.others id) :
    ∃ c ∈ g.searchLayer query cs breadth 0, c.id = n := by
  have hfound := hw.searchLayer_found hs breadth
  have hunlisted : ∀ i, id ∉ g.neighbors 0 i := h.unlisted 0 Nat.one_pos
  have hothers : ∀ i, Beam.Reachable (g.listsOf 0) (cs.map fun c => c.id) i → i ∈ g.others id := by
    intro i hi
    cases hi with
    | start hstart =>
      obtain ⟨c, hc, rfl⟩ := List.mem_map.mp hstart
      exact mem_others.mpr ⟨(hs.on c hc).1, h.starts c hc⟩
    | step _ hlist hnext =>
      rw [← Except.ok.inj hlist] at hnext
      exact mem_others.mpr ⟨(hw.on hnext).1, fun heq => hunlisted _ (heq ▸ hnext)⟩
  -- whichever node the search starts from, all others are in its list
  obtain ⟨c, hc⟩ := List.exists_mem_of_ne_nil _ hs.ne_nil
  have hstart : Beam.Reachable (g.listsOf 0) (cs.map fun c => c.id) c.id :=
    .start (List.mem_map_of_mem hc)
  have hreached : Beam.Reachable (g.listsOf 0) (cs.map fun c => c.id) n := by
    by_cases heq : c.id = n
    · exact heq ▸ hstart
    · obtain ⟨hmem, hne⟩ := mem_others.mp hn
      exact .step hstart rfl (h.complete c.id (hs.on c hc).1 n hmem (h.starts c hc) hne heq)
  exact List.mem_map.mp (hfound.mem_of_reachable hothers hroom hreached)

theorem selectNeighbors_eq (config : VectorConfig) (hcs : ∀ c ∈ cs, c.id ≠ id) :
    Draft.selectNeighbors config id cs = (cs.take config.width).map fun c => c.id := by
  have hkept : cs.filter (fun c => c.id != id) = cs :=
    List.filter_eq_self.mpr fun c hc => by simpa using hcs c hc
  rw [Draft.selectNeighbors, hkept]

theorem mem_selectNeighbors_of_few (hs : g.Starts query 0 cs)
    (hcs : ∀ c ∈ cs, c.id ≠ id) (hroom : (g.others id).length ≤ config.width) {c : Candidate}
    (hc : c ∈ cs) : c.id ∈ Draft.selectNeighbors config id cs := by
  have hsub : ∀ i ∈ cs.map fun c => c.id, i ∈ g.others id := by
    intro i hi
    obtain ⟨c, hc, rfl⟩ := List.mem_map.mp hi
    exact mem_others.mpr ⟨(hs.on c hc).1, hcs c hc⟩
  have hlength := hs.nodup.length_le_of_subset hsub
  rw [List.length_map] at hlength
  rw [selectNeighbors_eq config hcs, List.take_of_length_le (Nat.le_trans hlength hroom)]
  exact List.mem_map_of_mem hc

theorem le_capacity (config : VectorConfig) (layer : Nat) : config.width ≤ config.capacity layer := by
  rw [VectorConfig.capacity]
  split <;> omega

theorem Lacks.complete_linkLayer (h : g.Lacks id 1 cs) (hf : g.Fits config) (hw : g.Wired)
    (hid : g.On 0 id) (hs : g.Starts query 0 cs)
    (hfew : g.ids.length ≤ min config.width config.buildBreadth + 1) (hbreadth : 0 < config.buildBreadth) :
    (linkLayer config id query 0 g cs).1.Complete := by
  have hroom := length_others hf hid.1
  have hcapacity := le_capacity config 0
  have hstarts := hw.searchLayer_starts hs hbreadth
  have hne : ∀ c ∈ g.searchLayer query cs config.buildBreadth 0, c.id ≠ id :=
    ne_of_mem_searchLayer hw hs (h.unlisted 0 Nat.one_pos) h.starts
  have hselected : ∀ n ∈ g.others id,
      n ∈ Draft.selectNeighbors config id (g.searchLayer query cs config.buildBreadth 0) := by
    intro n hn
    have hbuild : (g.others id).length ≤ config.buildBreadth := by omega
    obtain ⟨c, hc, rfl⟩ := h.found hw hs hbuild hn
    exact mem_selectNeighbors_of_few hstarts hne (by omega) hc
  have hon : ∀ n ∈ Draft.selectNeighbors config id (g.searchLayer query cs config.buildBreadth 0),
      n ≠ id ∧ g.On 0 n := by
    intro n hn
    obtain ⟨hni, c, hc, rfl⟩ := mem_selectNeighbors hn
    exact ⟨hni, hstarts.on c hc⟩
  have hids : (linkLayer config id query 0 g cs).1.ids = g.ids :=
    (rewires_linkLayer hw config hid hs hbreadth).sameNodes.ids
  intro a ha b hb hab
  rw [hids] at ha hb
  rw [linkLayer, mem_foldl_connect hw hid hon (by omega)]
  by_cases hai : a = id
  · have hother : b ∈ g.others id := mem_others.mpr ⟨hb, fun heq => hab (hai.trans heq.symm)⟩
    exact .inr ⟨rfl, .inl ⟨hai, hselected b hother⟩⟩
  · by_cases hbi : b = id
    · have hother : a ∈ g.others id := mem_others.mpr ⟨ha, hai⟩
      exact .inr ⟨rfl, .inr ⟨hselected a hother, hbi⟩⟩
    · exact .inl (h.complete a ha b hb hai hbi hab)

theorem Lacks.complete_linkLayers {layers : Nat} (h : g.Lacks id (layers + 1) cs) (hf : g.Fits config)
    (hw : g.Wired) (hid : g.On layers id) (hs : g.Starts query layers cs)
    (hfew : g.ids.length ≤ min config.width config.buildBreadth + 1) (hbreadth : 0 < config.buildBreadth) :
    (linkLayers config id query (layers + 1) g cs).Complete := by
  induction layers generalizing g cs with
  | zero => exact h.complete_linkLayer hf hw hid hs hfew hbreadth
  | succ layer ih =>
    have hlinked := rewires_linkLayer hw config hid hs hbreadth
    have same := hlinked.sameNodes
    have hnext := Descends.next ⟨hid, fun l hl => h.unlisted l (by omega), hs, h.starts⟩ hw hbreadth
    have hcomplete : (linkLayer config id query (layer + 1) g cs).1.CompleteBut id := by
      intro a ha b hb
      rw [same.ids] at ha hb
      rw [hlinked.neighbors_of_not (by omega)]
      exact h.complete a ha b hb
    rw [linkLayers]
    refine ih ⟨hcomplete, fun l hl => hnext.unlisted l (by omega), hnext.others⟩ (hf.congr same)
      (hlinked.wired hw) hnext.on hnext.starts ?_
    rw [same.ids]
    exact hfew

theorem length_insertId (id : String) (ids : List String) : (insertId id ids).length ≤ ids.length + 1 := by
  induction ids with
  | nil => simp [insertId]
  | cons first rest ih =>
    rw [insertId]
    split
    · simp
    · simp
    · simp only [List.length_cons]
      omega

/-- A new node begins on the layers that it shares with the entry point, wherever the descent to them ends. -/
theorem Sound.descends_putNode (hs : g.Sound config) (v : Embedding) (level : Nat) (hid : id ∉ g.ids)
    {entry : EntryPoint} (hentry : g.entry = some entry) :
    (g.putNode id v level).Descends id v (min level entry.level)
      ((g.putNode id v level).descend v level entry.level
        [⟨(g.putNode id v level).distance v entry.id, entry.id⟩]) := by
  obtain ⟨hmem, hlevel⟩ := hs.rooted.present hentry
  have hw : (g.putNode id v level).Wired := hs.wired.putNode hid
  have hself := on_putNode_self g id v level
  have hon : (g.putNode id v level).On entry.level entry.id :=
    on_putNode hid ⟨hmem, Nat.le_of_eq hlevel.symm⟩
  have hunlisted : ∀ l i, id ∉ (g.putNode id v level).neighbors l i :=
    fun l i hlisted => hid (hs.wired.on hlisted).1
  refine ⟨⟨hself.1, Nat.le_trans (Nat.min_le_left _ _) hself.2⟩, fun l _ => hunlisted l,
    hw.descend_starts level (.singleton hon), ne_of_mem_descend hw level (.singleton hon) hunlisted ?_⟩
  intro c hstart heq
  rw [List.mem_singleton.mp hstart] at heq
  exact hid (heq ▸ hmem)

/-- A new node lacks its links on every layer, wherever the descent to its own layers ends. -/
theorem Complete.lacks_putNode (hc : g.Complete) (hs : g.Sound config) (v : Embedding) (level : Nat)
    (hid : id ∉ g.ids) {entry : EntryPoint} (hentry : g.entry = some entry) :
    (g.putNode id v level).Lacks id (min level entry.level + 1)
      ((g.putNode id v level).descend v level entry.level
        [⟨(g.putNode id v level).distance v entry.id, entry.id⟩]) where
  complete := by
    intro a ha b hb hai hbi hab
    have hold : ∀ i ∈ (g.putNode id v level).ids, i ≠ id → i ∈ g.ids :=
      fun i hi hne => (mem_ids_putNode.mp hi).resolve_left hne
    exact hc a (hold a ha hai) b (hold b hb hbi) hab
  unlisted := fun _ _ _ hlisted => hid (hs.wired.on hlisted).1
  starts := (hs.descends_putNode v level hid hentry).others

theorem Complete.linkNode (hc : g.Complete) (hs : g.Sound config) {v : Embedding} {level : Nat}
    (hid : id ∉ g.ids) (hlevel : level ≤ VectorIndex.maxLevel)
    (hv : VectorIndex.checkVector config v = .ok ()) (hbreadth : 0 < config.buildBreadth)
    (hfew : g.ids.length ≤ min config.width config.buildBreadth) :
    (linkNode config g id v level).Complete := by
  rw [Graph.linkNode]
  split
  · next hentry =>
    intro a ha b hb hab
    have honly : ∀ i, i ∈ (g.putNode id v level).ids → i = id := by
      intro i hi
      simpa [hs.rooted.empty hentry] using mem_ids_putNode.mp hi
    rw [honly a ha, honly b hb] at hab
    exact absurd rfl hab
  · next entry hentry =>
    have hw : (g.putNode id v level).Wired := hs.wired.putNode hid
    have hdescends := hs.descends_putNode v level hid hentry
    have hlength : (g.putNode id v level).ids.length ≤ min config.width config.buildBreadth + 1 :=
      Nat.le_trans (length_insertId id g.ids) (Nat.succ_le_succ hfew)
    have hcomplete : (linkBelow config (g.putNode id v level) id v level entry).Complete :=
      (hc.lacks_putNode hs v level hid hentry).complete_linkLayers (hs.fits.putNode hlevel hv) hw
        hdescends.on hdescends.starts hlength hbreadth
    dsimp only
    split <;> exact hcomplete

theorem Complete.delete (hc : g.Complete) (hs : g.Sound config) (id : String) :
    (g.delete config id).Complete :=
  Complete.unlinkNode (g := g.settled) hc hs.settled.wired id

theorem Complete.insert (hc : g.Complete) (hs : g.Sound config) (id : String) {v : Embedding}
    {level : Nat} (hlevel : level ≤ VectorIndex.maxLevel)
    (hv : VectorIndex.checkVector config v = .ok ()) (hbreadth : 0 < config.buildBreadth)
    (hfew : (g.insert config id v level).ids.length ≤ min config.width config.buildBreadth + 1) :
    (g.insert config id v level).Complete := by
  have hid : id ∉ (g.delete config id).ids := fun hmem => ((mem_ids_delete hs).mp hmem).2 rfl
  have hleft : (g.delete config id).Sound config := hs.delete id
  have hinserted : (g.insert config id v level).Sound config := hs.insert id hbreadth hlevel hv
  have hmem : id ∈ (g.insert config id v level).ids := (mem_ids_insert hs hbreadth).mpr (.inl rfl)
  have hsub : ∀ i ∈ (g.delete config id).ids, i ∈ (g.insert config id v level).others id := by
    intro i hi
    obtain ⟨hmem, hne⟩ := (mem_ids_delete hs).mp hi
    exact mem_others.mpr ⟨(mem_ids_insert hs hbreadth).mpr (.inr hmem), hne⟩
  -- a replaced id is counted once, so the nodes that are left are those that the new graph has besides it
  have hle := hleft.fits.nodup_ids.length_le_of_subset hsub
  have hlength := length_others hinserted.fits hmem
  exact (hc.delete hs id).linkNode hleft hid hlevel hv hbreadth (by omega)

end Graph

theorem VectorIndex.Moves.complete {config : VectorConfig} {g g' : Graph} (h : Moves config g g')
    (hs : g.Sound config) (hc : g.Complete) (hbreadth : 0 < config.buildBreadth)
    (hfew : g'.ids.length ≤ min config.width config.buildBreadth + 1) : g'.Complete := by
  cases h with
  | kept => exact hc
  | inserted id hlevel hv => exact hc.insert hs id hlevel hv hbreadth hfew
  | deleted id => exact hc.delete hs id

end HybridSearch
