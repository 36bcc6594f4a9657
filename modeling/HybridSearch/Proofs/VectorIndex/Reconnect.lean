import HybridSearch.Proofs.VectorIndex.RoundTrip

/-!
# Nodes that a delete leaves behind

The neighbours of a node that is taken out are linked among themselves, each to the nearest of the others
that has room. So a node is left without neighbours only when none of the others has room for it.
-/
namespace HybridSearch

namespace Graph

variable {config : VectorConfig} {g : Graph} {capacity layer : Nat} {former : List String} {id : String}

theorem full_of_nearestPeer {current peers : List String} {best : Option Candidate}
    (h : g.nearestPeer capacity layer id current peers best = none) :
    best = none ∧ ∀ peer ∈ peers, peer ≠ id → peer ∉ current →
      capacity ≤ (g.neighbors layer peer).length := by
  induction peers generalizing best with
  | nil => exact ⟨h, fun _ hpeer => absurd hpeer List.not_mem_nil⟩
  | cons first rest ih =>
    rw [nearestPeer] at h
    split at h
    · next hskip =>
      obtain ⟨hbest, hrest⟩ := ih h
      refine ⟨hbest, List.forall_mem_cons.mpr ⟨fun hne hnew => ?_, hrest⟩⟩
      exact absurd hskip (by simp [hne, hnew])
    · split at h
      · next hfull =>
        obtain ⟨hbest, hrest⟩ := ih h
        exact ⟨hbest, List.forall_mem_cons.mpr ⟨fun _ _ => hfull, hrest⟩⟩
      · -- a peer with room is found, itself or a nearer one
        obtain ⟨hnearer, -⟩ := ih h
        unfold Draft.nearer at hnearer
        grind

theorem full_of_reconnect (hcapacity : 0 < capacity)
    (hempty : (reconnect capacity layer former g id).neighbors layer id = []) :
    ∀ peer ∈ former, peer ≠ id → capacity ≤ (g.neighbors layer peer).length := by
  have hbefore : g.neighbors layer id = [] := by
    have hprefix := prefix_reconnect capacity layer former g id layer id
    rw [hempty] at hprefix
    exact List.prefix_nil.mp hprefix
  rw [reconnect, hbefore, List.length_nil, if_neg (Nat.not_le_of_lt hcapacity)] at hempty
  split at hempty
  · next hnone =>
    intro peer hpeer hne
    exact (full_of_nearestPeer hnone).2 peer hpeer hne List.not_mem_nil
  · next found hfound =>
    have hlinked : found.id ∈ (g.link layer id found.id).neighbors layer id :=
      mem_link.mpr (.inr ⟨rfl, .inl ⟨rfl, rfl⟩⟩)
    rw [hempty] at hlinked
    cases hlinked

/-- Lists only grow in a repair, so a node that is left without neighbours had none at its turn, and the
others, which were full then, are full in the end. -/
theorem full_of_repair (hcapacity : 0 < capacity) (hid : id ∈ former)
    (hempty : (g.repair capacity layer former).neighbors layer id = []) :
    ∀ peer ∈ former, peer ≠ id →
      capacity ≤ ((g.repair capacity layer former).neighbors layer peer).length := by
  obtain ⟨before, after, hsplit⟩ := List.append_of_mem hid
  let turn := before.foldl (reconnect capacity layer former) g
  have hrepair : g.repair capacity layer former =
      after.foldl (reconnect capacity layer former) (reconnect capacity layer former turn id) := by
    refine (congrArg (fun ids => ids.foldl (reconnect capacity layer former) g) hsplit).trans ?_
    exact List.foldl_append
  have hafter := prefix_foldl_reconnect capacity layer former after
    (reconnect capacity layer former turn id) layer
  intro peer hpeer hne
  have hturn : (reconnect capacity layer former turn id).neighbors layer id = [] := by
    have hprefix := hafter id
    rw [← hrepair, hempty] at hprefix
    exact List.prefix_nil.mp hprefix
  calc capacity
    _ ≤ (turn.neighbors layer peer).length := full_of_reconnect hcapacity hturn peer hpeer hne
    _ ≤ ((reconnect capacity layer former turn id).neighbors layer peer).length :=
      (prefix_reconnect capacity layer former turn id layer peer).length_le
    _ ≤ ((g.repair capacity layer former).neighbors layer peer).length := by
      rw [hrepair]
      exact (hafter peer).length_le

/-- The lists of a layer are left as they are while other layers are unlinked and repaired. -/
theorem neighbors_unlinkLayers_of_lt (hw : g.Wired) (config : VectorConfig) (id : String) {layers : Nat}
    (hlayer : layer < layers) : (unlinkLayers config g id layers).neighbors layer =
      (unlinkLayer config id (unlinkLayers config g id layer) layer).neighbors layer := by
  induction layers with
  | zero => omega
  | succ layers ih =>
    rcases Nat.lt_succ_iff_lt_or_eq.mp hlayer with hbelow | rfl
    · have hwired := (rewires_unlinkLayers hw config id layers).wired hw
      rw [unlinkLayers_succ, ← ih hbelow]
      exact (rewires_unlinkLayer hwired config id layers).neighbors_of_not (by omega)
    · rw [unlinkLayers_succ]

/-- On each layer a delete does what taking the node out of this layer does, from the lists that it has before. -/
theorem Sound.neighbors_delete (hs : g.Sound config) (hid : id ∈ g.ids) (layer : Nat) :
    ∃ h : Graph, h.Wired ∧ h.neighbors layer = g.neighbors layer ∧
      (g.delete config id).neighbors layer = (unlinkLayer config id h layer).neighbors layer := by
  have hw := hs.settled.wired
  have hdelete : (g.delete config id).neighbors =
      (unlinkLayers config g.settled id (g.level id + 1)).neighbors := neighbors_unlinkNode hid
  by_cases hlevel : layer ≤ g.level id
  · have hbelow := rewires_unlinkLayers hw config id layer
    refine ⟨unlinkLayers config g.settled id layer, hbelow.wired hw, hbelow.neighbors_of_not (by omega), ?_⟩
    rw [hdelete]
    exact neighbors_unlinkLayers_of_lt hw config id (Nat.lt_succ_of_le hlevel)
  · -- above its level the node has no list to take it out of
    have hall := rewires_unlinkLayers hw config id (g.level id + 1)
    have hkept : (unlinkLayers config g.settled id (g.level id + 1)).neighbors layer = g.neighbors layer :=
      hall.neighbors_of_not (by omega)
    have hnil : g.neighbors layer id = [] :=
      hw.eq_nil_of_unlisted fun _ hlisted => hlevel (hw.on hlisted).2
    refine ⟨unlinkLayers config g.settled id (g.level id + 1), hall.wired hw, hkept, ?_⟩
    rw [hdelete, unlinkLayer, hkept, hnil]
    exact hkept.symm

/-- After a delete a neighbour that the node had on a layer is without neighbours there only if all the
others that it had are full. -/
theorem Sound.full_of_delete (hs : g.Sound config) (hcapacity : 0 < config.capacity layer) {n : String}
    (hn : n ∈ g.neighbors layer id) (hempty : (g.delete config id).neighbors layer n = []) :
    ∀ peer ∈ g.neighbors layer id, peer ≠ n →
      config.capacity layer ≤ ((g.delete config id).neighbors layer peer).length := by
  obtain ⟨h, -, hformer, hdelete⟩ := hs.neighbors_delete (hs.wired.on (hs.wired.symm hn)).1 layer
  rw [hdelete, unlinkLayer, hformer] at hempty ⊢
  exact full_of_repair hcapacity hn hempty

end Graph

namespace VectorIndex

variable {config : VectorConfig} {ix : VectorIndex} {store : StoreHandle} {g : Graph}

/-- What a draft shows of the nodes that a deleted one had next to it on a layer: each has a neighbour
there unless all the others are full, so at most one of them has none. -/
structure Reconnected (config : VectorConfig) (d : Draft) (layer : Nat) (former : List String) : Prop where
  linked : ∀ n ∈ former, ∃ ids, d.neighbors layer n = .ok ids ∧ (ids ≠ [] ∨
    ∀ peer ∈ former, peer ≠ n →
      ∃ others, d.neighbors layer peer = .ok others ∧ config.capacity layer ≤ others.length)
  unique : ∀ a ∈ former, ∀ b ∈ former, d.neighbors layer a = .ok [] → d.neighbors layer b = .ok [] →
    a = b

theorem capacity_pos (h : config.Accepted) (layer : Nat) : 0 < config.capacity layer := by
  have hwidth := h.width.1
  rw [VectorConfig.capacity]
  split <;> omega

theorem Ready.reconnected (h : Ready ix store g) {store' : StoreHandle} {id : String}
    (hnext : Ready ix store' (g.delete ix.config id)) (layer : Nat) :
    Reconnected ix.config (Draft.start ix.config store') layer (g.neighbors layer id) := by
  have hafter : ∀ n, (Draft.start ix.config store').neighbors layer n =
      .ok ((g.delete ix.config id).neighbors layer n) :=
    (hnext.holds.shows_start hnext.gettable hnext.scannable).neighbors layer
  have hcapacity := capacity_pos h.accepted layer
  have hfull : ∀ {n}, n ∈ g.neighbors layer id → (g.delete ix.config id).neighbors layer n = [] →
      ∀ peer ∈ g.neighbors layer id, peer ≠ n →
        ix.config.capacity layer ≤ ((g.delete ix.config id).neighbors layer peer).length :=
    fun hn hempty => h.holds.sound.full_of_delete hcapacity hn hempty
  refine ⟨fun n hn => ⟨_, hafter n, ?_⟩, fun a ha b hb hemptyA hemptyB => ?_⟩
  · by_cases hempty : (g.delete ix.config id).neighbors layer n = []
    · exact .inr fun peer hpeer hne => ⟨_, hafter peer, hfull hn hempty peer hpeer hne⟩
    · exact .inl hempty
  · have hnilA := Except.ok.inj ((hafter a).symm.trans hemptyA)
    have hnilB := Except.ok.inj ((hafter b).symm.trans hemptyB)
    refine Decidable.byContradiction fun hne => ?_
    have hroom := hfull ha hnilA b hb (Ne.symm hne)
    rw [hnilB, List.length_nil] at hroom
    omega

/-- Deleting an embedding succeeds while the store does not fail, and reconnects the nodes that it was next
to, as far as they have room. -/
theorem reconnected_of_delete (h : Reached config ix store) {id : String} (hid : checkId id = .ok ())
    {outcome : Outcome Bool} (hcall : ix.delete { store with faults := {} } id = outcome) (layer : Nat)
    {former : List String} (hformer : (Draft.start config store).neighbors layer id = .ok former)
    (htwo : 2 ≤ former.length) :
    outcome.result = .ok true ∧ Reconnected config (Draft.start config outcome.store) layer former := by
  obtain ⟨rfl, g, hready⟩ := h.ready
  have hbefore := (hready.holds.shows_start hready.gettable hready.scannable).neighbors layer id
  obtain rfl : g.neighbors layer id = former := Except.ok.inj (hbefore.symm.trans hformer)
  have hmem : id ∈ g.ids := by
    obtain ⟨n, hn⟩ := List.exists_mem_of_length_pos (Nat.lt_of_lt_of_le Nat.zero_lt_two htwo)
    exact (hready.holds.sound.wired.on (hready.holds.sound.wired.symm hn)).1
  rcases (hready.withWriteFault none).delete_cases id with
    ⟨fault, hrefused, -⟩ | ⟨-, hmissing, -⟩ | ⟨fault, -, -, hfault, -⟩ | ⟨store', -, -, -, hcase, -, hnext⟩
  · rw [hid] at hrefused
    cases hrefused
  · exact absurd hmem hmissing
  · cases hfault
  · obtain rfl := hcall.symm.trans hcase
    exact ⟨rfl, hready.reconnected hnext layer⟩

/-- Embeddings on a line: three at 1, -1 and 1/4 that are next to the one at 0, and one at 3/8 that is next
to the third of them only. -/
@[irreducible]
def crowded : VectorIndex × StoreHandle :=
  narrow.insertAll { content := ByteMap.empty }
    [("a", [⟨0⟩]), ("x", [⟨0x3ff0000000000000⟩]), ("y", [⟨0xbff0000000000000⟩]),
      ("h", [⟨0x3fd0000000000000⟩]), ("b", [⟨0x3fd8000000000000⟩])]

theorem reached_crowded : Reached narrowConfig crowded.1 crowded.2 := by
  unfold crowded
  exact reached_narrow.insertAll _

/-- What is left when the third one is taken out. -/
@[irreducible]
def uncrowded : Outcome Bool := crowded.1.delete { crowded.2 with faults := {} } "h"

theorem neighbors_crowded :
    (Draft.start narrowConfig crowded.2).neighbors 0 "h" = .ok ["a", "b"] :=
  ok_of_toOption (by decide +kernel)

theorem reconnected_uncrowded :
    (Draft.start narrowConfig crowded.2).neighbors 0 "h" = .ok ["a", "b"] ∧
      uncrowded.result = .ok true ∧
      Reconnected narrowConfig (Draft.start narrowConfig uncrowded.store) 0 ["a", "b"] :=
  ⟨neighbors_crowded, reconnected_of_delete reached_crowded (ok_of_toOption (by decide +kernel))
    (by rw [uncrowded]) 0 neighbors_crowded (by decide)⟩

/-- A former neighbour with a full list has no room for one that has lost its only neighbour. -/
theorem not_reconnected : ¬∀ (config : VectorConfig) (ix : VectorIndex) (store : StoreHandle),
    Reached config ix store →
    ∀ (id : String) (outcome : Outcome Bool),
      ix.delete { store with faults := {} } id = outcome → outcome.result = .ok true →
      ∀ (layer : Nat) (former : List String),
        (Draft.start config store).neighbors layer id = .ok former → 2 ≤ former.length →
        ∀ n ∈ former, ∃ ids, (Draft.start config outcome.store).neighbors layer n = .ok ids ∧ ids ≠ [] := by
  intro h
  have hdeleted : uncrowded.result = .ok true := ok_of_toOption (by decide +kernel)
  obtain ⟨ids, hids, hne⟩ := h narrowConfig crowded.1 crowded.2 reached_crowded "h" uncrowded
    (by rw [uncrowded]) hdeleted 0 ["a", "b"] neighbors_crowded (by decide) "b" (by decide)
  have hleft : (Draft.start narrowConfig uncrowded.store).neighbors 0 "b" = .ok [] :=
    ok_of_toOption (by decide +kernel)
  exact hne (Except.ok.inj (hids.symm.trans hleft))

end VectorIndex

end HybridSearch
