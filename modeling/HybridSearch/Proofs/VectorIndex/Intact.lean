import HybridSearch.Proofs.VectorIndex.Index

/-!
# The stored graph stays intact

What an index reads from its store after any calls: neighbours are mutual, distinct and on their layer,
each node has its embedding, and nothing that is stored names a node that is not there.
-/
namespace HybridSearch.VectorIndex

/-- The graph that is stored under the settings of an index, as the index reads it. -/
structure Intact (config : VectorConfig) (store : StoreHandle) : Prop where
  symmetric : ∀ layer a b, ∃ ofA ofB, (Draft.start config store).neighbors layer a = .ok ofA ∧
    (Draft.start config store).neighbors layer b = .ok ofB ∧ (b ∈ ofA ↔ a ∈ ofB)
  distinct : ∀ layer a, ∃ ids, (Draft.start config store).neighbors layer a = .ok ids ∧
    a ∉ ids ∧ ids.Nodup
  layered : ∀ layer a b ids, (Draft.start config store).neighbors layer a = .ok ids → b ∈ ids →
    (∃ level, (Draft.start config store).level a = .ok (some level) ∧ layer ≤ level) ∧
      ∃ level, (Draft.start config store).level b = .ok (some level) ∧ layer ≤ level
  embedded : ∀ id, (store.content.find? ((KeySpace.ofPrefix config.keyPrefix).vector id)).isSome =
    (store.content.find? ((KeySpace.ofPrefix config.keyPrefix).node id)).isSome
  decodable : ∀ id bytes,
    store.content.find? ((KeySpace.ofPrefix config.keyPrefix).vector id) = some bytes →
      ∃ v, Embedding.decode bytes config.dimension = .ok v ∧ v.length = config.dimension
  keys_present : ∀ key value, key.startsWith (KeySpace.ofPrefix config.keyPrefix).lead = true →
    store.content.find? key = some value →
      key = (KeySpace.ofPrefix config.keyPrefix).entryPoint ∨
      key = (KeySpace.ofPrefix config.keyPrefix).count ∨
      ∃ id, (store.content.find? ((KeySpace.ofPrefix config.keyPrefix).node id)).isSome = true ∧
        (key = (KeySpace.ofPrefix config.keyPrefix).vector id ∨
          key = (KeySpace.ofPrefix config.keyPrefix).node id ∨
          ∃ layer, key = (KeySpace.ofPrefix config.keyPrefix).neighbors layer id)
  lists_present : ∀ layer a b ids, (Draft.start config store).neighbors layer a = .ok ids → b ∈ ids →
    (store.content.find? ((KeySpace.ofPrefix config.keyPrefix).node b)).isSome = true

variable {config : VectorConfig} {store : StoreHandle} {g : Graph}

theorem Holds.find?_node (h : Holds config store.content g) (id : String) :
    store.content.find? ((KeySpace.ofPrefix config.keyPrefix).node id) =
      if id ∈ g.ids then some (Record.level (g.level id)) else none :=
  h.found (.node id)

theorem Holds.find?_vector (h : Holds config store.content g) (id : String) :
    store.content.find? ((KeySpace.ofPrefix config.keyPrefix).vector id) =
      if id ∈ g.ids then some (Embedding.encode (g.vector id)) else none :=
  h.found (.vector id)

theorem Holds.isSome_node (h : Holds config store.content g) {id : String} :
    (store.content.find? ((KeySpace.ofPrefix config.keyPrefix).node id)).isSome = true ↔ id ∈ g.ids := by
  rw [h.find?_node]
  split
  · next hid => simp [hid]
  · next hid => simp [hid]

theorem Holds.intact (h : Holds config store.content g) (hget : store.faults.get = none)
    (hscan : store.faults.scan = none) : Intact config store := by
  have hshows := h.shows_start hget hscan
  have hw := h.sound.wired
  have hlevel : ∀ {layer a}, g.On layer a →
      ∃ level, (Draft.start config store).level a = .ok (some level) ∧ layer ≤ level := by
    intro layer a hon
    refine ⟨g.level a, ?_, hon.2⟩
    rw [hshows.level]
    exact congrArg Except.ok (if_pos hon.1)
  have hread : ∀ {layer a ids}, (Draft.start config store).neighbors layer a = .ok ids →
      ids = g.neighbors layer a := by
    intro layer a ids hids
    rw [hshows.neighbors] at hids
    exact (Except.ok.inj hids).symm
  refine ⟨fun layer a b => ?_, fun layer a => ?_, fun layer a b ids hids hb => ?_, fun id => ?_,
    fun id bytes hbytes => ?_, fun key value hlead hvalue => ?_, fun layer a b ids hids hb => ?_⟩
  · exact ⟨_, _, hshows.neighbors layer a, hshows.neighbors layer b, hw.symm, hw.symm⟩
  · exact ⟨_, hshows.neighbors layer a, hw.irrefl, hw.nodup layer a⟩
  · rw [hread hids] at hb
    exact ⟨hlevel (hw.on (hw.symm hb)), hlevel (hw.on hb)⟩
  · rw [h.find?_vector, h.find?_node]
    split <;> rfl
  · rw [h.find?_vector] at hbytes
    split at hbytes
    · next hid =>
      have hlength : (g.vector id).length = config.dimension := hshows.length_vector hid
      refine ⟨g.vector id, ?_, hlength⟩
      rw [← Option.some_inj.mp hbytes, ← hlength]
      exact Embedding.decode_encode _
    · cases hbytes
  · obtain ⟨name, rfl⟩ := h.named key value hlead hvalue
    rw [h.found] at hvalue
    cases name with
    | vector id =>
      rw [Graph.stored] at hvalue
      split at hvalue
      · next hid => exact .inr (.inr ⟨id, h.isSome_node.mpr hid, .inl rfl⟩)
      · cases hvalue
    | node id =>
      rw [Graph.stored] at hvalue
      split at hvalue
      · next hid => exact .inr (.inr ⟨id, h.isSome_node.mpr hid, .inr (.inl rfl)⟩)
      · cases hvalue
    | neighbors layer id =>
      rw [Graph.stored] at hvalue
      split at hvalue
      · cases hvalue
      · next hne =>
        obtain ⟨n, hn⟩ := List.exists_mem_of_ne_nil _ hne
        have hid : id ∈ g.ids := (hw.on (hw.symm hn)).1
        exact .inr (.inr ⟨id, h.isSome_node.mpr hid, .inr (.inr ⟨layer, rfl⟩)⟩)
    | entryPoint => exact .inl rfl
    | count => exact .inr (.inl rfl)
  · rw [hread hids] at hb
    exact h.isSome_node.mpr (hw.on hb).1

/-- In every state that an index reaches, its stored graph is intact. -/
theorem intact_of_reached {ix : VectorIndex} (h : Reached config ix store) : Intact config store := by
  obtain ⟨hconfig, g, hready⟩ := h.ready
  rw [← hconfig]
  exact hready.holds.intact hready.gettable hready.scannable

theorem intact_smallTwo : smallTwo.result.isOk = true ∧ Intact smallConfig smallTwo.store :=
  ⟨by decide +kernel, intact_of_reached reached_smallTwo⟩

end HybridSearch.VectorIndex
