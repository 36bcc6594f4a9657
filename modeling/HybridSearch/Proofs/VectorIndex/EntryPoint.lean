import HybridSearch.Proofs.VectorIndex.Intact

/-!
# The entry point

A stored graph has an entry point exactly when it has nodes, and no node stands higher. A node that is
taken out hands the entry point on to the highest of those that are left, of several to the one whose id
comes first; a node that is put in takes it over only when it is higher than that one.
-/
namespace HybridSearch

namespace Graph

variable {config : VectorConfig} {g : Graph}

/-- A node that no other is higher than; those of the same level come after it. -/
structure Top (g : Graph) (e : EntryPoint) : Prop where
  mem : e.id ∈ g.ids
  level : g.level e.id = e.level
  highest : ∀ id ∈ g.ids, g.level id ≤ e.level
  first : ∀ id ∈ g.ids, g.level id = e.level → id = e.id ∨ String.byteOrder e.id id = .lt

theorem first_of_foldl_higher (level : String → Nat) {ids : List String} {best e : EntryPoint}
    (hsorted : (best.id :: ids).Pairwise fun a b => String.byteOrder a b = .lt)
    (he : ids.foldl (fun best id => Draft.higher best ⟨id, level id⟩) (some best) = some e) :
    (best.level = e.level → e = best) ∧
      ∀ id ∈ ids, level id = e.level → id = e.id ∨ String.byteOrder e.id id = .lt := by
  induction ids generalizing best with
  | nil =>
    have hsame : best = e := Option.some_inj.mp he
    simp [hsame]
  | cons id ids ih =>
    have hbefore : String.byteOrder best.id id = .lt :=
      (List.pairwise_cons.mp hsorted).1 id List.mem_cons_self
    have hrest : (id :: ids).Pairwise fun a b => String.byteOrder a b = .lt :=
      (List.pairwise_cons.mp hsorted).2
    rw [List.foldl_cons] at he
    by_cases hhigher : best.level < level id
    · rw [Draft.higher, if_pos hhigher] at he
      obtain ⟨e', he', -, hbound, -⟩ := foldl_higher level ids ⟨id, level id⟩
      obtain rfl : e' = e := Option.some_inj.mp (he'.symm.trans he)
      obtain ⟨hself, hfirst⟩ := ih hrest he
      refine ⟨fun hequal => ?_, fun i hi hlevel => ?_⟩
      · have hle : level id ≤ e'.level := hbound
        omega
      · rcases List.mem_cons.mp hi with rfl | hi
        · rw [hself hlevel]
          exact .inl rfl
        · exact hfirst i hi hlevel
    · rw [Draft.higher, if_neg hhigher] at he
      have hskip : (best.id :: ids).Pairwise fun a b => String.byteOrder a b = .lt :=
        hsorted.sublist (List.Sublist.cons_cons best.id (List.sublist_cons_self id ids))
      obtain ⟨e', he', -, hbound, -⟩ := foldl_higher level ids best
      obtain rfl : e' = e := Option.some_inj.mp (he'.symm.trans he)
      obtain ⟨hself, hfirst⟩ := ih hskip he
      refine ⟨hself, fun i hi hlevel => ?_⟩
      rcases List.mem_cons.mp hi with rfl | hi
      · have hequal : best.level = e'.level := by omega
        rw [hself hequal]
        exact .inr hbefore
      · exact hfirst i hi hlevel

theorem top_highestNode (hf : g.Fits config) {e : EntryPoint} (he : g.highestNode = some e) :
    g.Top e := by
  rcases highestNode_cases g with ⟨-, hnone⟩ | ⟨e', he', hmem, hlevel, hhighest⟩
  · rw [hnone] at he
    cases he
  · obtain rfl : e' = e := Option.some_inj.mp (he'.symm.trans he)
    refine ⟨hmem, hlevel, hhighest, fun id hid hequal => ?_⟩
    have hsorted := hf.sorted
    rw [highestNode] at he
    cases hids : g.ids with
    | nil =>
      rw [hids] at hid
      cases hid
    | cons first ids =>
      rw [hids] at hid he hsorted
      have hfold : ids.foldl (fun best id => Draft.higher best ⟨id, g.level id⟩)
          (some ⟨first, g.level first⟩) = some e' := he
      obtain ⟨hself, hfirst⟩ := first_of_foldl_higher g.level hsorted hfold
      rcases List.mem_cons.mp hid with rfl | hid
      · rw [hself hequal]
        exact .inl rfl
      · exact hfirst id hid hequal

theorem level_unlinkNode (hw : g.Wired) (id : String) : (unlinkNode config g id).1.level = g.level := by
  have hremoved : (removeWired config g id).level = g.level := level_removeWired hw
  rw [unlinkNode]
  split
  · dsimp only
    split
    · exact hremoved
    · split <;> exact hremoved
  · rfl

theorem top_of_unlinkNode (hs : g.Sound config) {e : EntryPoint} (hentry : g.entry = some e)
    {next : EntryPoint} (hnext : (unlinkNode config g e.id).1.entry = some next) :
    (unlinkNode config g e.id).1.Top next := by
  have hremoved : (removeWired config g e.id).entry = some e := (entry_removeWired hs.wired).trans hentry
  have hunlinked : (unlinkNode config g e.id).1 =
      (removeWired config g e.id).setEntryPoint (removeWired config g e.id).highestNode := by
    rw [unlinkNode, if_pos (hs.rooted.present hentry).1]
    simp [hremoved]
  rw [hunlinked] at hnext ⊢
  obtain ⟨hmem, hlevel, hhighest, hfirst⟩ := top_highestNode (hs.removeWired e.id).1 hnext
  exact ⟨hmem, hlevel, hhighest, hfirst⟩

theorem entry_linkNode (hs : g.Sound config) (v : Embedding) (level : Nat) {id : String}
    (hid : id ∉ g.ids) (hbreadth : 0 < config.buildBreadth) :
    (linkNode config g id v level).entry = Draft.higher g.entry ⟨id, level⟩ := by
  rw [linkNode]
  cases hentry : g.entry with
  | none => rfl
  | some entry =>
    have same := (hs.rewires_linkBelow v level hid hbreadth hentry).sameNodes
    have hkept : (g.putNode id v level).entry = some entry := hentry
    dsimp only
    rw [Draft.higher]
    split
    · rfl
    · rw [same.entry, hkept]

end Graph

namespace VectorIndex

/-- The entry point that is stored under the settings of an index: there is one exactly when an embedding is
stored, and it names a node of the level that it records, which no stored node exceeds. -/
structure Anchored (config : VectorConfig) (store : StoreHandle) : Prop where
  exists_iff : (store.content.find? (KeySpace.ofPrefix config.keyPrefix).entryPoint).isSome = true ↔
    ∃ id, (store.content.find? ((KeySpace.ofPrefix config.keyPrefix).vector id)).isSome = true
  readable : ∃ entry, (Draft.start config store).entryPoint = .ok entry ∧
    entry.isSome = (store.content.find? (KeySpace.ofPrefix config.keyPrefix).entryPoint).isSome
  names : ∀ e, (Draft.start config store).entryPoint = .ok (some e) →
    (store.content.find? ((KeySpace.ofPrefix config.keyPrefix).vector e.id)).isSome = true ∧
      (Draft.start config store).level e.id = .ok (some e.level)
  highest : ∀ e, (Draft.start config store).entryPoint = .ok (some e) → ∀ id,
    (store.content.find? ((KeySpace.ofPrefix config.keyPrefix).node id)).isSome = true →
      ∃ level, (Draft.start config store).level id = .ok (some level) ∧ level ≤ e.level

/-- The highest node that a draft reads, of several the one whose id comes first; none when there is no
node. -/
def IsHighest (d : Draft) : Option EntryPoint → Prop
  | none => ∀ id, d.level id = .ok none
  | some n => d.level n.id = .ok (some n.level) ∧ ∀ id level, d.level id = .ok (some level) →
      level < n.level ∨ level = n.level ∧ (id = n.id ∨ String.byteOrder n.id id = .lt)

/-- What becomes of the entry point when its node is taken out, for good or to be put in anew: first it is
`next`, the highest of the nodes that are left. -/
structure HandsOn (config : VectorConfig) (ix : VectorIndex) (store : StoreHandle) (e : EntryPoint)
    (d : Draft) (next : Option EntryPoint) : Prop where
  unlinked : (Draft.start config store).unlinkNode config e.id = .ok (d, true)
  left : ∀ id, d.level id = if id = e.id then .ok none else (Draft.start config store).level id
  entryPoint : d.entryPoint = .ok next
  isHighest : IsHighest d next
  deleted : ∀ fault outcome, ix.delete { store with faults := { write := fault } } e.id = outcome →
    outcome.result = .ok true → (Draft.start config outcome.store).entryPoint = .ok next
  replaced : ∀ fault cancel v outcome,
    ix.insert { store with faults := { write := fault } } cancel e.id v = outcome →
    outcome.result = .ok () →
    (Draft.start config outcome.store).entryPoint = .ok (Draft.higher next ⟨e.id, ix.nextLevel⟩)

variable {config : VectorConfig} {store : StoreHandle} {g : Graph} {ix : VectorIndex}

theorem Holds.find?_entryPoint (h : Holds config store.content g) :
    store.content.find? (KeySpace.ofPrefix config.keyPrefix).entryPoint =
      g.entry.map Record.entryPoint :=
  h.found .entryPoint

theorem Holds.anchored (h : Holds config store.content g) (hget : store.faults.get = none)
    (hscan : store.faults.scan = none) : Anchored config store := by
  have hshows := h.shows_start hget hscan
  have hentry : (Draft.start config store).entryPoint = .ok g.entry := hshows.entryPoint
  have hlevel : ∀ {id}, id ∈ g.ids → (Draft.start config store).level id = .ok (some (g.level id)) := by
    intro id hid
    rw [hshows.level]
    exact congrArg Except.ok (if_pos hid)
  have hvector : ∀ id,
      (store.content.find? ((KeySpace.ofPrefix config.keyPrefix).vector id)).isSome = true ↔
        id ∈ g.ids := by
    intro id
    rw [h.find?_vector]
    split <;> simp [*]
  have hread : ∀ {e}, (Draft.start config store).entryPoint = .ok (some e) → g.entry = some e := by
    intro e he
    rw [hentry] at he
    exact Except.ok.inj he
  refine ⟨?_, ⟨g.entry, hentry, ?_⟩, fun e he => ?_, fun e he id hid => ?_⟩
  · rw [h.find?_entryPoint, Option.isSome_map]
    simp only [hvector]
    constructor
    · intro hsome
      obtain ⟨e, he⟩ := Option.isSome_iff_exists.mp hsome
      exact ⟨e.id, (h.sound.rooted.present he).1⟩
    · rintro ⟨id, hid⟩
      refine Option.isSome_iff_ne_none.mpr fun hnone => ?_
      rw [h.sound.rooted.empty hnone] at hid
      cases hid
  · rw [h.find?_entryPoint, Option.isSome_map]
  · obtain ⟨hmem, hrecorded⟩ := h.sound.rooted.present (hread he)
    exact ⟨(hvector e.id).mpr hmem, by rw [hlevel hmem, hrecorded]⟩
  · have hmem := h.isSome_node.mp hid
    exact ⟨g.level id, hlevel hmem, h.sound.rooted.highest (hread he) id hmem⟩

theorem isHighest_of_shows {d : Draft} (h : Draft.Shows config store d g)
    (hempty : g.entry = none → g.ids = []) (htop : ∀ {e}, g.entry = some e → g.Top e) :
    IsHighest d g.entry := by
  cases hentry : g.entry with
  | none =>
    intro id
    rw [h.level, hempty hentry]
    rfl
  | some n =>
    have hn := htop hentry
    refine ⟨?_, fun id level hlevel => ?_⟩
    · rw [h.level, if_pos hn.mem, hn.level]
    · rw [h.level] at hlevel
      have hfound := Except.ok.inj hlevel
      split at hfound
      · next hid =>
        obtain rfl := Option.some_inj.mp hfound
        rcases Nat.lt_or_eq_of_le (hn.highest id hid) with hlower | hequal
        · exact .inl hlower
        · exact .inr ⟨hequal, hn.first id hid hequal⟩
      · cases hfound

theorem Ready.entryPoint_start (h : Ready ix store g) :
    (Draft.start ix.config store).entryPoint = .ok g.entry :=
  (h.holds.shows_start h.gettable h.scannable).entryPoint

theorem Ready.handsOn (h : Ready ix store g) {e : EntryPoint} (hentry : g.entry = some e) :
    ∃ d, HandsOn ix.config ix store e d (g.delete ix.config e.id).entry := by
  have hsound := h.holds.sound
  have hstart := h.holds.shows_start h.gettable h.scannable
  obtain ⟨d, hunlink, hshows⟩ := hstart.unlinkNode hsound.settled e.id
  have hleft := hsound.delete e.id
  have hmem : e.id ∈ g.ids := (hsound.rooted.present hentry).1
  refine ⟨d, ?_, fun id => ?_, hshows.entryPoint, ?_, fun fault outcome houtcome hok => ?_,
    fun fault cancel v outcome houtcome hok => ?_⟩
  · have hremoved : decide (e.id ∈ g.settled.ids) = true := decide_eq_true hmem
    rw [hunlink, unlinkNode_removed, hremoved]
  · have hids : id ∈ (Graph.unlinkNode ix.config g.settled e.id).1.ids ↔ id ∈ g.ids ∧ id ≠ e.id :=
      Graph.mem_ids_delete hsound
    have hlevels : (Graph.unlinkNode ix.config g.settled e.id).1.level = g.level :=
      Graph.level_unlinkNode hsound.settled.wired e.id
    rw [hshows.level, hstart.level, hlevels]
    simp only [hids]
    by_cases hid : id = e.id
    · simp [hid]
    · simp only [hid, ne_eq, not_false_eq_true, and_true, if_false]
      rfl
  · exact isHighest_of_shows hshows hleft.rooted.empty (Graph.top_of_unlinkNode hsound.settled hentry)
  · subst houtcome
    exact ((h.withWriteFault fault).delete_of_ok hok).entryPoint_start
  · subst houtcome
    have hnew : e.id ∉ (g.delete ix.config e.id).ids :=
      fun hid => ((Graph.mem_ids_delete hsound).mp hid).2 rfl
    have hlinked : (g.insert ix.config e.id v ix.nextLevel).entry =
        Draft.higher (g.delete ix.config e.id).entry ⟨e.id, ix.nextLevel⟩ :=
      Graph.entry_linkNode hleft v ix.nextLevel hnew h.accepted.buildBreadth.1
    rw [← hlinked]
    exact ((h.withWriteFault fault).insert_of_ok hok).entryPoint_start

/-- In every state that an index reaches, its stored entry point is the highest node, and taking that node
out hands the entry point on to the highest of the nodes that are left. -/
theorem anchored_of_reached (h : Reached config ix store) :
    Anchored config store ∧ ∀ e, (Draft.start config store).entryPoint = .ok (some e) →
      ∃ d next, HandsOn config ix store e d next := by
  obtain ⟨rfl, g, hready⟩ := h.ready
  refine ⟨hready.holds.anchored hready.gettable hready.scannable, fun e he => ?_⟩
  rw [hready.entryPoint_start] at he
  obtain ⟨d, hd⟩ := hready.handsOn (Except.ok.inj he)
  exact ⟨d, _, hd⟩

theorem anchored_smallTwo :
    (Draft.start smallConfig smallTwo.store).entryPoint.toOption = some (some ⟨"a:\"", 0⟩) ∧
      Anchored smallConfig smallTwo.store ∧
      ∃ d next, HandsOn smallConfig smallTwo.index smallTwo.store ⟨"a:\"", 0⟩ d next := by
  have hfound : (Draft.start smallConfig smallTwo.store).entryPoint.toOption =
      some (some ⟨"a:\"", 0⟩) := by decide +kernel
  obtain ⟨hanchored, hhandsOn⟩ := anchored_of_reached reached_smallTwo
  refine ⟨hfound, hanchored, hhandsOn _ ?_⟩
  cases hentry : (Draft.start smallConfig smallTwo.store).entryPoint with
  | error e =>
    rw [hentry] at hfound
    cases hfound
  | ok entry =>
    rw [hentry] at hfound
    exact congrArg Except.ok (Option.some_inj.mp hfound)

end VectorIndex

end HybridSearch
