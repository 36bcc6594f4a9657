import HybridSearch.Proofs.VectorIndex.Confined
import HybridSearch.Proofs.VectorIndex.Gauges
import HybridSearch.Proofs.VectorIndex.Prefixes

/-!
# Replacing an embedding

An insert under an id that has an embedding does in one batch what a delete and an insert do in two. Between
the two batches only the pending figures are reset, which nothing looks at that is written; so the stores are
the same in the end. The gauges are the same as well, since a delete leaves no more entries than there were and
no gauge reaches its bounds on the way.
-/
namespace HybridSearch

namespace Graph

variable {config : VectorConfig} {g h : Graph} {id : String}

/-- Graphs that differ at most in the changes of figures that they have pending. -/
def CountsApart (g h : Graph) : Prop :=
  ∃ entries nodes, h = { g with adjacencyChange := entries, countChange := nodes }

theorem countsApart_settled (g : Graph) : CountsApart g g.settled := ⟨0, 0, rfl⟩

namespace CountsApart

theorem stored (hc : CountsApart g h) : h.stored = g.stored := by
  obtain ⟨entries, nodes, rfl⟩ := hc
  funext key
  cases key <;> rfl

theorem foldl {α : Type} {step : Graph → α → Graph}
    (hstep : ∀ {g h : Graph}, CountsApart g h → ∀ a, CountsApart (step g a) (step h a)) (xs : List α)
    (hc : CountsApart g h) : CountsApart (xs.foldl step g) (xs.foldl step h) := by
  induction xs generalizing g h with
  | nil => exact hc
  | cons x xs ih => exact ih (hstep hc x)

theorem putNode (hc : CountsApart g h) (id : String) (v : Embedding) (level : Nat) :
    CountsApart (g.putNode id v level) (h.putNode id v level) := by
  obtain ⟨entries, nodes, rfl⟩ := hc
  exact ⟨entries, nodes + 1, rfl⟩

theorem setEntryPoint (hc : CountsApart g h) (e : Option EntryPoint) :
    CountsApart (g.setEntryPoint e) (h.setEntryPoint e) := by
  obtain ⟨entries, nodes, rfl⟩ := hc
  exact ⟨entries, nodes, rfl⟩

theorem setNeighbors (hc : CountsApart g h) (layer : Nat) (id : String) (ids : List String) :
    CountsApart (g.setNeighbors layer id ids) (h.setNeighbors layer id ids) := by
  obtain ⟨entries, nodes, rfl⟩ := hc
  exact ⟨entries + ((ids.length : Int) - (g.neighbors layer id).length), nodes, rfl⟩

theorem neighbors (hc : CountsApart g h) : h.neighbors = g.neighbors := by
  obtain ⟨entries, nodes, rfl⟩ := hc
  rfl

theorem addNeighbor (hc : CountsApart g h) (layer : Nat) (a b : String) :
    CountsApart (g.addNeighbor layer a b) (h.addNeighbor layer a b) := by
  rw [Graph.addNeighbor, Graph.addNeighbor, hc.neighbors]
  split
  · exact hc
  · exact hc.setNeighbors layer a _

theorem dropNeighbor (hc : CountsApart g h) (layer : Nat) (a b : String) :
    CountsApart (g.dropNeighbor layer a b) (h.dropNeighbor layer a b) := by
  rw [Graph.dropNeighbor, Graph.dropNeighbor, hc.neighbors]
  split
  · exact hc
  · exact hc.setNeighbors layer a _

theorem link (hc : CountsApart g h) (layer : Nat) (a b : String) :
    CountsApart (g.link layer a b) (h.link layer a b) :=
  (hc.addNeighbor layer a b).addNeighbor layer b a

theorem unlink (hc : CountsApart g h) (layer : Nat) (a b : String) :
    CountsApart (g.unlink layer a b) (h.unlink layer a b) :=
  (hc.dropNeighbor layer a b).dropNeighbor layer b a

theorem searchLayer (hc : CountsApart g h) (query : Embedding) (cs : List Candidate)
    (breadth layer : Nat) : h.searchLayer query cs breadth layer = g.searchLayer query cs breadth layer := by
  obtain ⟨entries, nodes, rfl⟩ := hc
  rfl

theorem descend (hc : CountsApart g h) (query : Embedding) (bottom top : Nat) (cs : List Candidate) :
    h.descend query bottom top cs = g.descend query bottom top cs := by
  induction top generalizing cs with
  | zero => rfl
  | succ top ih => rw [Graph.descend, Graph.descend, hc.searchLayer, ih]

theorem dropExcess (hc : CountsApart g h) (layer : Nat) (id : String) (excess : Nat)
    (victims : List Candidate) : CountsApart (Graph.dropExcess layer id excess victims g)
      (Graph.dropExcess layer id excess victims h) := by
  induction victims generalizing excess g h with
  | nil => cases excess <;> exact hc
  | cons victim rest ih =>
    cases excess with
    | zero => exact hc
    | succ excess =>
      rw [Graph.dropExcess, Graph.dropExcess, hc.neighbors]
      split
      · exact ih (hc.unlink layer id victim.id) excess
      · exact ih hc (excess + 1)

theorem neighborDistances (hc : CountsApart g h) (id : String) (ids : List String) :
    h.neighborDistances id ids = g.neighborDistances id ids := by
  obtain ⟨entries, nodes, rfl⟩ := hc
  rfl

theorem shrink (hc : CountsApart g h) (capacity layer : Nat) (id : String) :
    CountsApart (g.shrink capacity layer id) (h.shrink capacity layer id) := by
  rw [Graph.shrink, Graph.shrink, hc.neighbors, hc.neighborDistances]
  split
  · exact hc
  · exact hc.dropExcess layer id _ _

theorem connect (hc : CountsApart g h) (capacity layer : Nat) (id n : String) :
    CountsApart (Graph.connect capacity layer id g n) (Graph.connect capacity layer id h n) :=
  (hc.link layer id n).shrink capacity layer n

theorem linkLayers (hc : CountsApart g h) (config : VectorConfig) (id : String) (v : Embedding)
    (layers : Nat) (cs : List Candidate) : CountsApart (Graph.linkLayers config id v layers g cs)
      (Graph.linkLayers config id v layers h cs) := by
  induction layers generalizing g h cs with
  | zero => exact hc
  | succ layer ih =>
    rw [Graph.linkLayers, Graph.linkLayers, linkLayer, linkLayer, hc.searchLayer]
    exact ih (CountsApart.foldl (fun hc n => hc.connect (config.capacity layer) layer id n) _ hc) _

theorem linkNode (hc : CountsApart g h) (config : VectorConfig) (id : String) (v : Embedding)
    (level : Nat) : CountsApart (Graph.linkNode config g id v level) (Graph.linkNode config h id v level) := by
  have hput := hc.putNode id v level
  have hentry : h.entry = g.entry := by
    obtain ⟨entries, nodes, rfl⟩ := hc
    rfl
  have hdistance : ∀ i, (h.putNode id v level).distance v i = (g.putNode id v level).distance v i := by
    intro i
    obtain ⟨entries, nodes, rfl⟩ := hc
    rfl
  rw [Graph.linkNode, Graph.linkNode, hentry]
  cases g.entry with
  | none => exact hput.setEntryPoint _
  | some entry =>
    dsimp only
    rw [linkBelow, linkBelow, hput.descend, hdistance]
    have hlinked := hput.linkLayers config id v (min level entry.level + 1)
      ((g.putNode id v level).descend v level entry.level
        [⟨(g.putNode id v level).distance v entry.id, entry.id⟩])
    split
    · exact hlinked.setEntryPoint _
    · exact hlinked

end CountsApart

/-- Putting a node back in place of itself comes to what taking it out and putting it in comes to. -/
theorem countsApart_insert_delete (hs : g.Sound config) (id : String) (v : Embedding) (level : Nat) :
    CountsApart (g.insert config id v level) ((g.delete config id).insert config id v level) := by
  have hgone : id ∉ (g.delete config id).settled.ids := fun hmem => ((mem_ids_delete hs).mp hmem).2 rfl
  have hunlinked : (Graph.unlinkNode config (g.delete config id).settled id).1 =
      (g.delete config id).settled := by
    rw [Graph.unlinkNode, if_neg hgone]
  rw [Graph.insert, Graph.insert, hunlinked]
  exact (countsApart_settled (g.delete config id)).linkNode config id v level

theorem adjacencyChange_addNeighbor_le (g : Graph) (layer : Nat) (a b : String) :
    (g.addNeighbor layer a b).adjacencyChange ≤ g.adjacencyChange + 1 := by
  rw [addNeighbor]
  split
  · omega
  · rw [setNeighbors, List.length_append, List.length_singleton]
    dsimp only
    omega

theorem adjacencyChange_link_le (g : Graph) (layer : Nat) (a b : String) :
    (g.link layer a b).adjacencyChange ≤ g.adjacencyChange + 2 := by
  have hfirst := adjacencyChange_addNeighbor_le g layer a b
  have hsecond := adjacencyChange_addNeighbor_le (g.addNeighbor layer a b) layer b a
  rw [link]
  omega

theorem adjacencyChange_dropNeighbor {layer : Nat} {a b : String} (hnodup : (g.neighbors layer a).Nodup)
    (hb : b ∈ g.neighbors layer a) : (g.dropNeighbor layer a b).adjacencyChange = g.adjacencyChange - 1 := by
  have hlength := length_filter_ne hnodup hb
  rw [dropNeighbor, if_neg (by omega), setNeighbors]
  dsimp only
  omega

theorem adjacencyChange_unlink (hw : g.Wired) {layer : Nat} {a b : String} (hb : b ∈ g.neighbors layer a) :
    (g.unlink layer a b).adjacencyChange = g.adjacencyChange - 2 := by
  have hne : a ≠ b := fun heq => hw.irrefl (heq ▸ hb)
  have hback : a ∈ (g.dropNeighbor layer a b).neighbors layer b :=
    mem_dropNeighbor.mpr ⟨hw.symm hb, fun h => hne h.2⟩
  have hnodup : ((g.dropNeighbor layer a b).neighbors layer b).Nodup := nodup_dropNeighbor (hw.nodup layer b)
  rw [unlink, adjacencyChange_dropNeighbor hnodup hback, adjacencyChange_dropNeighbor (hw.nodup layer a) hb]
  omega

theorem adjacencyChange_unlinkAll (hw : g.Wired) {layer : Nat} {ids : List String} (hnodup : ids.Nodup)
    (hids : ∀ n ∈ ids, n ∈ g.neighbors layer id) :
    (ids.foldl (fun g n => g.unlink layer id n) g).adjacencyChange = g.adjacencyChange - 2 * ids.length := by
  induction ids generalizing g with
  | nil => simp
  | cons n ids ih =>
    obtain ⟨hn, hnodup⟩ := List.nodup_cons.mp hnodup
    have hrest : ∀ m ∈ ids, m ∈ (g.unlink layer id n).neighbors layer id := by
      intro m hm
      have hnid : n ≠ id := fun heq => hw.irrefl (heq ▸ hids n List.mem_cons_self)
      refine mem_unlink.mpr ⟨hids m (List.mem_cons_of_mem _ hm), ?_⟩
      rintro ⟨-, ⟨-, rfl⟩ | ⟨rfl, -⟩⟩
      · exact hn hm
      · exact hnid rfl
    rw [List.foldl_cons, ih (hw.unlink layer id n) hnodup hrest,
      adjacencyChange_unlink hw (hids n List.mem_cons_self), List.length_cons]
    omega

theorem adjacencyChange_reconnect_le (capacity layer : Nat) (former : List String) (g : Graph) (n : String) :
    (reconnect capacity layer former g n).adjacencyChange ≤ g.adjacencyChange + 2 := by
  rw [reconnect]
  split
  · omega
  · split
    · omega
    · exact adjacencyChange_link_le _ _ _ _

theorem adjacencyChange_reconnectAll_le (capacity layer : Nat) (former ids : List String) (g : Graph) :
    (ids.foldl (reconnect capacity layer former) g).adjacencyChange ≤
      g.adjacencyChange + 2 * ids.length := by
  induction ids generalizing g with
  | nil => simp
  | cons n ids ih =>
    have hrest := ih (reconnect capacity layer former g n)
    have hfirst := adjacencyChange_reconnect_le capacity layer former g n
    rw [List.foldl_cons, List.length_cons]
    omega

theorem adjacencyChange_unlinkLayer_le (hw : g.Wired) (config : VectorConfig) (id : String) (layer : Nat) :
    (unlinkLayer config id g layer).adjacencyChange ≤ g.adjacencyChange := by
  have hcut := adjacencyChange_unlinkAll hw (hw.nodup layer id) fun n hn => hn
  have hrepaired := adjacencyChange_reconnectAll_le (config.capacity layer) layer (g.neighbors layer id)
    (g.neighbors layer id) ((g.neighbors layer id).foldl (fun g n => g.unlink layer id n) g)
  rw [unlinkLayer, repair]
  omega

theorem adjacencyChange_unlinkLayers_le (hw : g.Wired) (config : VectorConfig) (id : String) (layers : Nat) :
    (unlinkLayers config g id layers).adjacencyChange ≤ g.adjacencyChange := by
  induction layers with
  | zero => exact Int.le_refl _
  | succ layers ih =>
    have hwired := (rewires_unlinkLayers hw config id layers).wired hw
    rw [unlinkLayers_succ]
    exact (adjacencyChange_unlinkLayer_le hwired config id layers).trans ih

theorem adjacencyChange_unlinkNode_le (hw : g.Wired) (config : VectorConfig) (id : String) :
    (Graph.unlinkNode config g id).1.adjacencyChange ≤ g.adjacencyChange := by
  have hunlinked := adjacencyChange_unlinkLayers_le hw config id (g.level id + 1)
  rw [Graph.unlinkNode]
  split
  · dsimp only
    split
    · exact hunlinked
    · split <;> exact hunlinked
  · exact Int.le_refl _

theorem Sound.entries_delete_le (hs : g.Sound config) (id : String) :
    (g.delete config id).entries ≤ g.entries := by
  have hchange : (g.delete config id).adjacencyChange ≤ 0 :=
    adjacencyChange_unlinkNode_le hs.settled.wired config id
  have hentries := (hs.tallies_delete id).entries.trans (tallies_settled g).1
  rw [entriesBefore] at hentries
  omega

end Graph

namespace VectorIndex

variable {config : VectorConfig} {ix : VectorIndex} {store : StoreHandle} {g : Graph} {id : String}
  {v : Embedding}

/-- Stores that hold graphs with one stored form, and the same at the keys of others, are the same. -/
theorem Holds.content_eq {content content' : Store} {g' : Graph} (h : Holds config content g)
    (h' : Holds config content' g') (hstored : g'.stored = g.stored)
    (hother : ∀ key, ¬(keysOf config).Owns key → content'.find? key = content.find? key) :
    content' = content := by
  have hfind : ∀ key, content'.find? key = content.find? key := by
    intro key
    by_cases hnamed : ∃ name, key = (keysOf config).bytes name
    · obtain ⟨name, rfl⟩ := hnamed
      rw [h.found, h'.found, hstored]
    · by_cases hkey : (keysOf config).Owns key
      · -- a key under the prefix that names nothing is in neither store
        have hnone : ∀ {content : Store} {g : Graph}, Holds config content g → content.find? key = none :=
          fun hholds => Option.eq_none_iff_forall_ne_some.mpr fun value hvalue =>
            hnamed (hholds.named key value hkey.startsWith_lead hvalue)
        rw [hnone h, hnone h']
      · exact hother key hkey
  obtain ⟨entries, hentries⟩ := content
  obtain ⟨entries', hentries'⟩ := content'
  obtain rfl : entries' = entries := ByteMap.entries_ext hentries' hentries fun e => by
    rw [show entries' = (⟨entries', hentries'⟩ : Store).entries from rfl,
      show entries = (⟨entries, hentries⟩ : Store).entries from rfl, ByteMap.mem_entries_iff,
      ByteMap.mem_entries_iff, hfind]
  rfl

namespace Ready

/-- Replacing an embedding leaves the store that taking it out and putting the new one in leaves. -/
theorem replace (h : Ready ix store g) (hid : id ∈ g.ids) (hvalid : ix.validate id v = .ok ())
    (hfault : store.faults.write = none) :
    ∃ between after, Ready ix between (g.delete ix.config id) ∧
      Ready ix after (g.insert ix.config id v ix.nextLevel) ∧
      ix.insert store .never id v =
        ⟨.ok (), ix.afterInsert (g.insert ix.config id v ix.nextLevel), after⟩ ∧
      ix.delete store id = ⟨.ok true, ix.afterDelete (g.delete ix.config id), between⟩ ∧
      (ix.afterDelete (g.delete ix.config id)).insert between .never id v =
        ⟨.ok (), (ix.afterDelete (g.delete ix.config id)).afterInsert
          ((g.delete ix.config id).insert ix.config id v ix.nextLevel), after⟩ := by
  have hcheck := checkId_of_validate hvalid
  obtain ⟨after, hinsert, hafterFaults, hafterSync, hafter⟩ := h.insert_of_valid hvalid hfault
  obtain ⟨between, hdelete, hbetweenFaults, hbetween⟩ := h.delete_of_mem hcheck hid hfault
  have hmiddle : Ready (ix.afterDelete (g.delete ix.config id)) between (g.delete ix.config id) :=
    hbetween.of_config rfl
  have hvalid' : (ix.afterDelete (g.delete ix.config id)).validate id v = .ok () := hvalid
  obtain ⟨after', hinsert', hafterFaults', hafterSync', hafter'⟩ :=
    hmiddle.insert_of_valid hvalid' (hbetweenFaults ▸ hfault)
  have hcontent : after'.content = after.content := by
    refine Holds.content_eq hafter.holds hafter'.holds
      (Graph.countsApart_insert_delete h.holds.sound id v ix.nextLevel).stored fun key hkey => ?_
    have hdirect := (insert_confined ix .never id v).frame store hkey
    have hout := (delete_confined ix id).frame store hkey
    have hin := (insert_confined (ix.afterDelete (g.delete ix.config id)) .never id v).frame between hkey
    rw [hinsert] at hdirect
    rw [hdelete] at hout
    rw [hinsert'] at hin
    exact hin.trans (hout.trans hdirect.symm)
  have hsync : after'.lastSync = after.lastSync := hafterSync'.trans hafterSync.symm
  obtain rfl : after' = after := by
    cases after
    cases after'
    obtain rfl := hcontent
    obtain rfl := hsync
    rw [StoreHandle.mk.injEq]
    exact ⟨rfl, hafterFaults'.trans (hbetweenFaults.trans hafterFaults.symm), rfl⟩
  exact ⟨between, after', hbetween, hafter, hinsert, hdelete, hinsert'⟩

end Ready

/-- The figures that an index tells about itself. -/
structure SameGauges (ix ix' : VectorIndex) : Prop where
  vectorCount : ix'.vectorCount = ix.vectorCount
  adjacencyEntries : ix'.adjacencyEntries = ix.adjacencyEntries
  entryLevel : ix'.entryLevel = ix.entryLevel

theorem moveGauge_moveGauge {before between after : ℕ} {change change' change'' : ℤ}
    (hfirst : (between : ℤ) - change = before) (hlt : between < 0x10000000000000000)
    (hsecond : (after : ℤ) - change' = between) (hwhole : (after : ℤ) - change'' = before) :
    moveGauge (moveGauge before change) change' = moveGauge before change'' := by
  rw [moveGauge_eq hfirst hlt, moveGauge_eq_min hsecond, moveGauge_eq_min hwhole]

/-- Replacing an embedding moves the gauges to where taking it out and putting the new one in moves them. -/
theorem Tracks.replace (h : Tracks ix store g) (id : String) {v : Embedding}
    (hv : checkVector ix.config v = .ok ()) :
    SameGauges (ix.afterInsert (g.insert ix.config id v ix.nextLevel))
      ((ix.afterDelete (g.delete ix.config id)).afterInsert
        ((g.delete ix.config id).insert ix.config id v ix.nextLevel)) := by
  have hs := h.ready.holds.sound
  have hbreadth := h.ready.accepted.buildBreadth.1
  have hfew := h.length_ids_lt
  have hentries := h.ready.holds.entries_lt h.addressable
  have hfewer := Graph.length_delete_le hs id
  have hfewerEntries := hs.entries_delete_le id
  have hdelete := hs.tallies_delete id
  have hdirect := hs.tallies_insert id hbreadth ix.nextLevel_le hv
  have hindirect := (hs.delete id).tallies_insert id hbreadth ix.nextLevel_le hv
  obtain ⟨hentriesBefore, hidsBefore⟩ := Graph.tallies_settled g
  obtain ⟨hentriesBetween, hidsBetween⟩ := Graph.tallies_settled (g.delete ix.config id)
  -- the graphs have the same nodes and lists in the end
  obtain ⟨entries, nodes, hsame⟩ := Graph.countsApart_insert_delete hs id v ix.nextLevel
  have hids := hindirect.ids.trans hidsBetween
  have hlists := hindirect.entries.trans hentriesBetween
  have hentry : ((g.delete ix.config id).insert ix.config id v ix.nextLevel).entry =
      (g.insert ix.config id v ix.nextLevel).entry := by rw [hsame]
  have hidsAfter : ((g.delete ix.config id).insert ix.config id v ix.nextLevel).ids =
      (g.insert ix.config id v ix.nextLevel).ids := by rw [hsame]
  have hentriesAfter : ((g.delete ix.config id).insert ix.config id v ix.nextLevel).entries =
      (g.insert ix.config id v ix.nextLevel).entries := by
    rw [hsame]
    rfl
  rw [Graph.idsBefore, hidsAfter] at hids
  rw [Graph.entriesBefore, hentriesAfter] at hlists
  refine ⟨?_, ?_, congrArg (Option.map EntryPoint.level) hentry⟩
  · exact moveGauge_moveGauge (h.gauged.vectorCount ▸ hdelete.ids.trans hidsBefore) (by omega) hids
      (h.gauged.vectorCount ▸ hdirect.ids.trans hidsBefore)
  · exact moveGauge_moveGauge (h.gauged.adjacencyEntries ▸ hdelete.entries.trans hentriesBefore) (by omega)
      hlists (h.gauged.adjacencyEntries ▸ hdirect.entries.trans hentriesBefore)

/-- In every state of an index that is alone under its prefix, whatever samples come next and whatever the
store does about writes, replacing an embedding leaves the store and the gauges that a delete and an insert of
the same level leave. -/
theorem replace_eq_delete_insert (h : Alone config ix store) (samples : List Binary64)
    (fault : Option StoreFault) (hid : ix.contains store id = .ok true) (hvalid : ix.validate id v = .ok ()) :
    let fresh : VectorIndex := { ix with samples }
    let under : StoreHandle := { store with faults := { write := fault } }
    let replaced := fresh.insert under .never id v
    let removed := fresh.delete under id
    let inserted := removed.index.insert removed.store .never id v
    inserted.store = replaced.store ∧ SameGauges replaced.index inserted.index ∧
      (fault = none → replaced.result = .ok () ∧ removed.result = .ok true ∧ inserted.result = .ok ()) := by
  obtain ⟨rfl, g, htracks⟩ := h.tracks
  have hmem : id ∈ g.ids := by
    rw [htracks.ready.contains_eq] at hid
    exact of_decide_eq_true (Except.ok.inj hid)
  have hfresh : Tracks { ix with samples } { store with faults := { write := fault } } g :=
    (htracks.withWriteFault fault).congr rfl
      ⟨htracks.gauged.vectorCount, htracks.gauged.adjacencyEntries, htracks.gauged.entryLevel⟩
  have hcheck := checkVector_of_validate hvalid
  dsimp only
  cases fault with
  | none =>
    obtain ⟨between, after, -, -, hreplaced, hremoved, hinserted⟩ := hfresh.ready.replace hmem hvalid rfl
    rw [hreplaced, hremoved]
    dsimp only
    rw [hinserted]
    exact ⟨rfl, hfresh.replace id hcheck, fun _ => ⟨rfl, rfl, rfl⟩⟩
  | some fault =>
    -- nothing is taken out, so the same insert is tried twice
    rcases hfresh.ready.delete_cases id with
      ⟨cause, -, hcase⟩ | ⟨-, -, hcase⟩ | ⟨cause, -, -, -, hcase⟩ | ⟨after, -, -, hfaults, -⟩
    · rw [hcase]
      exact ⟨rfl, ⟨rfl, rfl, rfl⟩, fun h => nomatch h⟩
    · rw [hcase]
      exact ⟨rfl, ⟨rfl, rfl, rfl⟩, fun h => nomatch h⟩
    · rw [hcase]
      exact ⟨rfl, ⟨rfl, rfl, rfl⟩, fun h => nomatch h⟩
    · cases hfaults

/-- The second of two embeddings replaced by another one. -/
theorem replace_smallTwo : Alone smallConfig smallTwo.index smallTwo.store ∧
    smallTwo.index.contains smallTwo.store "b" = .ok true ∧
    smallTwo.index.validate "b" [Binary64.zero] = .ok () ∧
    ∃ replaced removed inserted,
      { smallTwo.index with samples := [Binary64.one] }.insert { smallTwo.store with faults := {} } .never "b"
        [Binary64.zero] = replaced ∧
      { smallTwo.index with samples := [Binary64.one] }.delete { smallTwo.store with faults := {} } "b" =
        removed ∧
      removed.index.insert removed.store .never "b" [Binary64.zero] = inserted ∧
      (replaced.result = .ok () ∧ removed.result = .ok true ∧ inserted.result = .ok ()) ∧
      inserted.store = replaced.store ∧ SameGauges replaced.index inserted.index ∧
      removed.index.vectorCount = 1 ∧ replaced.index.vectorCount = 2 := by
  have hid : smallTwo.index.contains smallTwo.store "b" = .ok true := ok_of_toOption (by decide +kernel)
  have hvalid : smallTwo.index.validate "b" [Binary64.zero] = .ok () := ok_of_toOption (by decide +kernel)
  obtain ⟨hstore, hgauges, hresults⟩ :=
    replace_eq_delete_insert alone_smallTwo [Binary64.one] none hid hvalid
  exact ⟨alone_smallTwo, hid, hvalid, _, _, _, rfl, rfl, rfl, hresults rfl, hstore, hgauges,
    by decide +kernel, by decide +kernel⟩

end VectorIndex

end HybridSearch
