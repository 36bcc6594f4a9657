import HybridSearch.Proofs.VectorIndex.Index
import Mathlib.Algebra.BigOperators.Group.Finset.Basic
import Mathlib.Data.Finset.Prod
import Mathlib.Data.Sym.Sym2

/-!
# Counting what a graph holds

The entries of all neighbour lists of a graph, and its nodes, are counted again after every change: the
pending changes that a graph keeps of the two figures are exactly what the figures have changed by. In a
wired graph every link has an entry at both of its ends, so the entries are twice the links.
-/
namespace HybridSearch

namespace Graph

variable {config : VectorConfig} {g h : Graph} {layer : Nat} {id a b : String}

def places (g : Graph) : Finset (ℕ × String) :=
  Finset.range (VectorIndex.maxLevel + 1) ×ˢ g.ids.toFinset

def entries (g : Graph) : ℕ := ∑ p ∈ g.places, (g.neighbors p.1 p.2).length

/-- The entries that there were before the pending changes. -/
def entriesBefore (g : Graph) : ℤ := g.entries - g.adjacencyChange

theorem SameNodes.places (same : SameNodes g h) : h.places = g.places := by
  rw [Graph.places, Graph.places, same.ids]

theorem On.mem_places (h : g.On layer id) (hf : g.Fits config) : (layer, id) ∈ g.places := by
  have hlevel := hf.levels id h.1
  have hlayer := h.2
  simp only [places, Finset.mem_product, Finset.mem_range, List.mem_toFinset]
  exact ⟨by omega, h.1⟩

theorem Wired.on_of_ne_nil (hw : g.Wired) (hne : g.neighbors layer id ≠ []) : g.On layer id := by
  obtain ⟨n, hn⟩ := List.exists_mem_of_ne_nil _ hne
  exact hw.on (hw.symm hn)

theorem entries_setNeighbors (hplace : (layer, id) ∈ g.places) (ids : List String) :
    (g.setNeighbors layer id ids).entries + (g.neighbors layer id).length =
      g.entries + ids.length := by
  have hothers : ∀ p ∈ g.places.erase (layer, id),
      ((g.setNeighbors layer id ids).neighbors p.1 p.2).length = (g.neighbors p.1 p.2).length := by
    intro p hp
    have hne : ¬(p.1 = layer ∧ p.2 = id) := fun heq =>
      Finset.ne_of_mem_erase hp (Prod.ext heq.1 heq.2)
    rw [setNeighbors]
    exact congrArg List.length (if_neg hne)
  have hself : ((g.setNeighbors layer id ids).neighbors layer id).length = ids.length :=
    congrArg List.length (if_pos ⟨rfl, rfl⟩)
  have hold := Finset.add_sum_erase g.places (fun p => (g.neighbors p.1 p.2).length) hplace
  have hnew := Finset.add_sum_erase g.places
    (fun p => ((g.setNeighbors layer id ids).neighbors p.1 p.2).length) hplace
  rw [Finset.sum_congr rfl hothers] at hnew
  have hplaces : (g.setNeighbors layer id ids).places = g.places := rfl
  rw [entries, entries, hplaces]
  simp only [hself] at hold hnew
  omega

theorem entriesBefore_setNeighbors (hplace : (layer, id) ∈ g.places) (ids : List String) :
    (g.setNeighbors layer id ids).entriesBefore = g.entriesBefore := by
  have hentries := entries_setNeighbors hplace ids
  have hchange : (g.setNeighbors layer id ids).adjacencyChange =
      g.adjacencyChange + ((ids.length : ℤ) - (g.neighbors layer id).length) := rfl
  rw [entriesBefore, entriesBefore, hchange]
  omega

theorem entriesBefore_addNeighbor (hplace : (layer, a) ∈ g.places) (b : String) :
    (g.addNeighbor layer a b).entriesBefore = g.entriesBefore := by
  rw [addNeighbor]
  split
  · rfl
  · exact entriesBefore_setNeighbors hplace _

theorem entriesBefore_dropNeighbor (hplace : g.neighbors layer a ≠ [] → (layer, a) ∈ g.places)
    (b : String) : (g.dropNeighbor layer a b).entriesBefore = g.entriesBefore := by
  rw [dropNeighbor]
  split
  · rfl
  · next hshorter =>
    refine entriesBefore_setNeighbors (hplace fun hnil => hshorter ?_) _
    rw [hnil]
    rfl

theorem entriesBefore_link (ha : (layer, a) ∈ g.places) (hb : (layer, b) ∈ g.places) :
    (g.link layer a b).entriesBefore = g.entriesBefore := by
  have hplaces := (sameNodes_addNeighbor g layer a b).places
  rw [link, entriesBefore_addNeighbor (hplaces ▸ hb), entriesBefore_addNeighbor ha]

theorem entriesBefore_unlink (hplace : ∀ i, g.neighbors layer i ≠ [] → (layer, i) ∈ g.places)
    (a b : String) : (g.unlink layer a b).entriesBefore = g.entriesBefore := by
  have hplaces := (sameNodes_dropNeighbor g layer a b).places
  rw [unlink, entriesBefore_dropNeighbor, entriesBefore_dropNeighbor (hplace a)]
  intro hne
  obtain ⟨n, hn⟩ := List.exists_mem_of_ne_nil _ hne
  rw [hplaces]
  exact hplace b (List.ne_nil_of_mem (mem_dropNeighbor.mp hn).1)

theorem Rewires.entriesBefore {layers : Nat → Prop} (r : Rewires layers g h) (hw : g.Wired)
    (hf : g.Fits config) : h.entriesBefore = g.entriesBefore := by
  induction r with
  | refl => rfl
  | link hprev _ _ ha hb ih =>
    have same := hprev.sameNodes
    have hplaces := same.places
    rw [entriesBefore_link, ih]
    · rw [hplaces]
      exact ha.mem_places hf
    · rw [hplaces]
      exact hb.mem_places hf
  | unlink a b hprev _ ih =>
    have hfits := hf.congr hprev.sameNodes
    have hwired := hprev.wired hw
    rw [entriesBefore_unlink (fun i hne => (hwired.on_of_ne_nil hne).mem_places hfits), ih]

/-- Graphs with the same lists have the same entries, whatever other nodes they have. -/
theorem entries_congr (hg : ∀ l i, g.neighbors l i ≠ [] → (l, i) ∈ g.places)
    (hh : ∀ l i, h.neighbors l i ≠ [] → (l, i) ∈ h.places) (heq : h.neighbors = g.neighbors) :
    h.entries = g.entries := by
  have hzero : ∀ {k : Graph} (S : Finset (ℕ × String)),
      (∀ l i, k.neighbors l i ≠ [] → (l, i) ∈ k.places) →
      k.places ⊆ S → k.entries = ∑ p ∈ S, (k.neighbors p.1 p.2).length := by
    intro k S hk hsub
    refine Finset.sum_subset hsub fun p _ hp => ?_
    rw [List.length_eq_zero_iff]
    by_contra hne
    exact hp (hk p.1 p.2 hne)
  rw [hzero (g.places ∪ h.places) hh Finset.subset_union_right,
    hzero (g.places ∪ h.places) hg Finset.subset_union_left, heq]

/-- The nodes that there were before the pending changes. -/
def idsBefore (g : Graph) : ℤ := g.ids.length - g.countChange

/-- The stored count is the number of nodes; without nodes it may be missing. -/
def Counted (g : Graph) : Prop := g.count.getD 0 = g.ids.length

theorem length_insertId_of_notMem {ids : List String} (hid : id ∉ ids) :
    (insertId id ids).length = ids.length + 1 := by
  induction ids with
  | nil => rfl
  | cons first rest ih =>
    have hfirst : id ≠ first := fun heq => hid (heq ▸ List.mem_cons_self)
    have hrest : id ∉ rest := List.not_mem_of_not_mem_cons hid
    rw [insertId]
    split
    · rfl
    · next heq => exact absurd (String.byteOrder_eq_iff.mp heq) hfirst
    · rw [List.length_cons, List.length_cons, ih hrest]

theorem length_filter_ne {ids : List String} (hnodup : ids.Nodup) (hid : id ∈ ids) :
    (ids.filter fun i => i != id).length + 1 = ids.length := by
  have hpos := List.length_pos_of_mem hid
  rw [← hnodup.erase_eq_filter id, List.length_erase_of_mem hid]
  omega

theorem signedWord_of_lt {n : ℤ} (hpos : 0 ≤ n) (hlt : n < 0x8000000000000000) :
    Draft.signedWord n = n := by
  rw [Draft.signedWord]
  exact Int.bmod_eq_of_le (by omega) (by omega)

/-- Counting along with the nodes, as long as the figures stay in the lower half of the words. -/
theorem counted_adjustCount {n : ℕ} {change : ℤ} (hc : g.count.getD 0 = n)
    (hids : (g.ids.length : ℤ) = n + change) (hfew : n < 0x8000000000000000)
    (hnext : g.ids.length < 0x8000000000000000) : (g.adjustCount change).Counted := by
  have hword : Draft.signedWord (n : ℤ) = n := signedWord_of_lt (by omega) (by omega)
  have hcount : (g.adjustCount change).count = some g.ids.length := by
    rw [adjustCount, hc, hword, ← hids, signedWord_of_lt (by omega) (by omega)]
    rfl
  rw [Counted, hcount]
  rfl

theorem Counted.congr (hc : g.Counted) (same : SameNodes g h) : h.Counted := by
  rw [Counted, same.count, same.ids]
  exact hc

theorem Counted.putNode (hc : g.Counted) (hid : id ∉ g.ids) (v : Embedding) (level : ℕ)
    (hfew : (g.putNode id v level).ids.length < 0x8000000000000000) :
    (g.putNode id v level).Counted := by
  have hlength : (insertId id g.ids).length = g.ids.length + 1 := length_insertId_of_notMem hid
  have hnext : (insertId id g.ids).length < 0x8000000000000000 := hfew
  exact counted_adjustCount hc (by rw [hlength]; rfl) (by omega) hnext

theorem Counted.removeNode (hc : g.Counted) (hnodup : g.ids.Nodup) (hid : id ∈ g.ids)
    (hfew : g.ids.length < 0x8000000000000000) : (g.removeNode id).Counted := by
  have hlength : (g.ids.filter fun i => i != id).length + 1 = g.ids.length :=
    length_filter_ne hnodup hid
  exact counted_adjustCount hc (by dsimp only; omega) hfew (by dsimp only; omega)

/-- A graph whose pending changes have gone along with its figures. -/
structure Tallies (g h : Graph) : Prop where
  entries : h.entriesBefore = g.entriesBefore
  ids : h.idsBefore = g.idsBefore

theorem Tallies.trans {k : Graph} (hgh : Tallies g h) (hhk : Tallies h k) : Tallies g k :=
  ⟨hhk.entries.trans hgh.entries, hhk.ids.trans hgh.ids⟩

theorem tallies_setEntryPoint (g : Graph) (e : Option EntryPoint) : Tallies g (g.setEntryPoint e) :=
  ⟨rfl, rfl⟩

theorem Rewires.tallies {layers : ℕ → Prop} (r : Rewires layers g h) (hw : g.Wired)
    (hf : g.Fits config) : Tallies g h where
  entries := r.entriesBefore hw hf
  ids := by rw [idsBefore, idsBefore, r.sameNodes.ids, r.sameNodes.countChange]

theorem Wired.mem_places (hw : g.Wired) (hf : g.Fits config) (layer : ℕ) (id : String)
    (hne : g.neighbors layer id ≠ []) : (layer, id) ∈ g.places :=
  (hw.on_of_ne_nil hne).mem_places hf

theorem entriesBefore_congr (hg : g.Wired) (hgf : g.Fits config) (hh : h.Wired) (hhf : h.Fits config)
    (hlists : h.neighbors = g.neighbors) (hchange : h.adjacencyChange = g.adjacencyChange) :
    h.entriesBefore = g.entriesBefore := by
  have hentries := entries_congr (hg.mem_places hgf) (hh.mem_places hhf) hlists
  rw [Graph.entriesBefore, Graph.entriesBefore, hentries, hchange]

theorem tallies_putNode (hw : g.Wired) (hf : g.Fits config) (hid : id ∉ g.ids) {v : Embedding}
    {level : ℕ} (hlevel : level ≤ VectorIndex.maxLevel)
    (hv : VectorIndex.checkVector config v = .ok ()) : Tallies g (g.putNode id v level) where
  entries := entriesBefore_congr hw hf (hw.putNode hid) (hf.putNode hlevel hv) rfl rfl
  ids := by
    have hlength : (g.putNode id v level).ids.length = g.ids.length + 1 :=
      length_insertId_of_notMem hid
    have hchange : (g.putNode id v level).countChange = g.countChange + 1 := rfl
    rw [idsBefore, idsBefore, hlength, hchange]
    omega

theorem tallies_removeNode (hw : g.Wired) (hf : g.Fits config) (hid : id ∈ g.ids)
    (hunlisted : ∀ l i, id ∉ g.neighbors l i) : Tallies g (g.removeNode id) where
  entries := entriesBefore_congr hw hf (hw.removeNode hunlisted) hf.removeNode rfl rfl
  ids := by
    have hlength : (g.removeNode id).ids.length + 1 = g.ids.length :=
      length_filter_ne hf.nodup_ids hid
    have hchange : (g.removeNode id).countChange = g.countChange - 1 := rfl
    rw [idsBefore, idsBefore, hchange]
    omega

theorem Sound.tallies_linkNode (hs : g.Sound config) (hid : id ∉ g.ids)
    (hbreadth : 0 < config.buildBreadth) {v : Embedding} {level : ℕ}
    (hlevel : level ≤ VectorIndex.maxLevel) (hv : VectorIndex.checkVector config v = .ok ()) :
    Tallies g (Graph.linkNode config g id v level) := by
  have hput : Tallies g (g.putNode id v level) :=
    tallies_putNode hs.wired hs.fits hid hlevel hv
  rw [Graph.linkNode]
  split
  · exact hput.trans (tallies_setEntryPoint _ _)
  · next entry hentry =>
    have hrewires := hs.rewires_linkBelow v level hid hbreadth hentry
    have hlinked := hput.trans (hrewires.tallies (hs.wired.putNode hid) (hs.fits.putNode hlevel hv))
    dsimp only
    split
    · exact hlinked.trans (tallies_setEntryPoint _ _)
    · exact hlinked

theorem Sound.tallies_removeWired (hs : g.Sound config) (hid : id ∈ g.ids) :
    Tallies g (Graph.removeWired config g id) := by
  have hr := rewires_unlinkLayers hs.wired config id (g.level id + 1)
  have hunlinked := hr.tallies hs.wired hs.fits
  have hmem : id ∈ (unlinkLayers config g id (g.level id + 1)).ids := by
    rw [hr.sameNodes.ids]
    exact hid
  exact hunlinked.trans (tallies_removeNode (hr.wired hs.wired) (hs.fits.congr hr.sameNodes) hmem
    (notMem_unlinkLayers hs.wired config id))

theorem Sound.tallies_unlinkNode (hs : g.Sound config) (id : String) :
    Tallies g (Graph.unlinkNode config g id).1 := by
  rw [Graph.unlinkNode]
  split
  · next hid =>
    have hremoved := hs.tallies_removeWired hid
    dsimp only
    split
    · exact hremoved
    · split
      · exact hremoved.trans (tallies_setEntryPoint _ _)
      · exact hremoved
  · exact ⟨rfl, rfl⟩

theorem tallies_settled (g : Graph) : g.settled.entriesBefore = g.entries ∧
    g.settled.idsBefore = g.ids.length := by
  constructor
  · exact sub_zero _
  · exact sub_zero _

theorem Sound.counted_linkNode (hs : g.Sound config) (hc : g.Counted) (hid : id ∉ g.ids)
    (hbreadth : 0 < config.buildBreadth) (v : Embedding) (level : ℕ)
    (hfew : (Graph.linkNode config g id v level).ids.length < 0x8000000000000000) :
    (Graph.linkNode config g id v level).Counted := by
  have hids := (hs.nodes_linkNode v level hid hbreadth).1
  rw [hids] at hfew
  have hput : (g.putNode id v level).Counted := hc.putNode hid v level hfew
  rw [Graph.linkNode]
  split
  · exact hput
  · next entry hentry =>
    have hlinked := hput.congr (hs.rewires_linkBelow v level hid hbreadth hentry).sameNodes
    dsimp only
    split <;> exact hlinked

theorem Sound.counted_unlinkNode (hs : g.Sound config) (hc : g.Counted) (id : String)
    (hfew : g.ids.length < 0x8000000000000000) : (Graph.unlinkNode config g id).1.Counted := by
  have same := sameNodes_unlinkLayers hs.wired config id (g.level id + 1)
  have hleft := (hs.fits.congr same).nodup_ids
  rw [Graph.unlinkNode]
  split
  · next hid =>
    have hremoved : (Graph.removeWired config g id).Counted := by
      refine (hc.congr same).removeNode hleft ?_ ?_
      · rw [same.ids]
        exact hid
      · rw [same.ids]
        exact hfew
    dsimp only
    split
    · exact hremoved
    · split <;> exact hremoved
  · exact hc

theorem Sound.tallies_insert (hs : g.Sound config) (id : String) {v : Embedding} {level : ℕ}
    (hbreadth : 0 < config.buildBreadth) (hlevel : level ≤ VectorIndex.maxLevel)
    (hv : VectorIndex.checkVector config v = .ok ()) :
    Tallies g.settled (g.insert config id v level) := by
  have hid : id ∉ (g.delete config id).ids := fun hmem => ((mem_ids_delete hs).mp hmem).2 rfl
  exact (hs.settled.tallies_unlinkNode id).trans
    ((hs.delete id).tallies_linkNode hid hbreadth hlevel hv)

theorem Sound.tallies_delete (hs : g.Sound config) (id : String) :
    Tallies g.settled (g.delete config id) :=
  hs.settled.tallies_unlinkNode id

theorem Sound.counted_insert (hs : g.Sound config) (hc : g.Counted) (id : String) {v : Embedding}
    {level : ℕ} (hbreadth : 0 < config.buildBreadth) (hfew : g.ids.length < 0x8000000000000000)
    (hnext : (g.insert config id v level).ids.length < 0x8000000000000000) :
    (g.insert config id v level).Counted := by
  have hid : id ∉ (g.delete config id).ids := fun hmem => ((mem_ids_delete hs).mp hmem).2 rfl
  have hleft : (g.delete config id).Counted := hs.settled.counted_unlinkNode hc id hfew
  exact (hs.delete id).counted_linkNode hleft hid hbreadth v level hnext

theorem Sound.counted_delete (hs : g.Sound config) (hc : g.Counted) (id : String)
    (hfew : g.ids.length < 0x8000000000000000) : (g.delete config id).Counted :=
  hs.settled.counted_unlinkNode hc id hfew

/-- The entries of a graph as arrows from one node to another. -/
def arrows (g : Graph) : Finset (ℕ × String × String) :=
  (Finset.range (VectorIndex.maxLevel + 1) ×ˢ g.ids.toFinset ×ˢ g.ids.toFinset).filter fun e =>
    e.2.2 ∈ g.neighbors e.1 e.2.1

/-- The layer and the two ends of an arrow, whichever way it points. -/
def ends (e : ℕ × String × String) : ℕ × Sym2 String := (e.1, s(e.2.1, e.2.2))

/-- The links of a graph: a layer with the two nodes that are neighbours there. -/
def links (g : Graph) : Finset (ℕ × Sym2 String) := g.arrows.image ends

theorem mem_arrows (hw : g.Wired) (hf : g.Fits config) :
    (layer, a, b) ∈ g.arrows ↔ b ∈ g.neighbors layer a := by
  rw [arrows, Finset.mem_filter]
  constructor
  · exact And.right
  · intro hb
    have hplace := (hw.on (hw.symm hb)).mem_places hf
    rw [places, Finset.mem_product] at hplace
    refine ⟨?_, hb⟩
    rw [Finset.mem_product, Finset.mem_product, List.mem_toFinset (a := b)]
    exact ⟨hplace.1, hplace.2, (hw.on hb).1⟩

theorem ends_eq_iff {x y : String} {l : ℕ} :
    ends (l, x, y) = ends (layer, a, b) ↔ l = layer ∧ (x = a ∧ y = b ∨ x = b ∧ y = a) := by
  rw [ends, ends, Prod.mk.injEq, Sym2.eq_iff]

theorem mem_links (hw : g.Wired) (hf : g.Fits config) :
    (layer, s(a, b)) ∈ g.links ↔ b ∈ g.neighbors layer a := by
  rw [links, Finset.mem_image]
  constructor
  · rintro ⟨⟨l, x, y⟩, harrow, hends⟩
    have hy := (mem_arrows hw hf).mp harrow
    obtain ⟨rfl, ⟨rfl, rfl⟩ | ⟨rfl, rfl⟩⟩ := ends_eq_iff.mp hends
    · exact hy
    · exact hw.symm hy
  · intro hb
    exact ⟨(layer, a, b), (mem_arrows hw hf).mpr hb, rfl⟩

theorem card_arrows (hw : g.Wired) (hf : g.Fits config) : g.arrows.card = g.entries := by
  have hstart : ∀ e ∈ g.arrows, (e.1, e.2.1) ∈ g.places := by
    rintro ⟨l, i, n⟩ he
    have hn := (mem_arrows hw hf).mp he
    exact hw.mem_places hf l i (List.ne_nil_of_mem hn)
  rw [Finset.card_eq_sum_card_fiberwise hstart, entries]
  refine Finset.sum_congr rfl ?_
  rintro ⟨l, i⟩ -
  have hfiber : (g.arrows.filter fun e => (e.1, e.2.1) = (l, i)) =
      (g.neighbors l i).toFinset.image fun n => (l, i, n) := by
    ext ⟨l', i', n⟩
    simp only [Finset.mem_filter, Finset.mem_image, mem_arrows hw hf, List.mem_toFinset, Prod.mk.injEq]
    constructor
    · rintro ⟨hn, rfl, rfl⟩
      exact ⟨n, hn, rfl, rfl, rfl⟩
    · rintro ⟨m, hm, rfl, rfl, rfl⟩
      exact ⟨hm, rfl, rfl⟩
  have hinjective : Function.Injective fun n : String => (l, i, n) := by
    intro m n heq
    exact congrArg (fun e => e.2.2) heq
  rw [hfiber, Finset.card_image_of_injective _ hinjective,
    List.toFinset_card_of_nodup (hw.nodup l i)]

theorem card_filter_ends (hw : g.Wired) (hf : g.Fits config) {z : ℕ × Sym2 String}
    (hz : z ∈ g.links) : (g.arrows.filter fun e => ends e = z).card = 2 := by
  obtain ⟨⟨l, i, n⟩, harrow, rfl⟩ := Finset.mem_image.mp hz
  have hn := (mem_arrows hw hf).mp harrow
  have hne : (l, i, n) ≠ (l, n, i) := by
    intro heq
    have hin : i = n := congrArg (fun e => e.2.1) heq
    exact hw.irrefl (hin ▸ hn)
  rw [Finset.card_eq_two]
  refine ⟨(l, i, n), (l, n, i), hne, ?_⟩
  ext ⟨l', x, y⟩
  simp only [Finset.mem_filter, Finset.mem_insert, Finset.mem_singleton, ends_eq_iff, Prod.mk.injEq]
  constructor
  · rintro ⟨-, rfl, hxy | hxy⟩
    · exact .inl ⟨rfl, hxy⟩
    · exact .inr ⟨rfl, hxy⟩
  · rintro (⟨rfl, rfl, rfl⟩ | ⟨rfl, rfl, rfl⟩)
    · exact ⟨harrow, rfl, .inl ⟨rfl, rfl⟩⟩
    · exact ⟨(mem_arrows hw hf).mpr (hw.symm hn), rfl, .inr ⟨rfl, rfl⟩⟩

theorem entries_eq_two_mul (hw : g.Wired) (hf : g.Fits config) : g.entries = 2 * g.links.card := by
  have hfibers := Finset.card_eq_sum_card_image ends g.arrows
  have htwo := Finset.sum_const_nat (s := g.links) (m := 2) fun z hz => card_filter_ends hw hf hz
  rw [← card_arrows hw hf, hfibers, Nat.mul_comm]
  exact htwo

end Graph

end HybridSearch
