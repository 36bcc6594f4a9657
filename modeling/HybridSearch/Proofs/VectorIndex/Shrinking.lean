import HybridSearch.Proofs.VectorIndex.Change

/-!
# What a list gives up

A list beyond its capacity gives up its farthest neighbours, one after the other until it is short enough, but
none that would be left without a link. Whether a neighbour has another link is not changed by what was given up
before it, so all that goes can be told from the lists at the start.
-/
namespace HybridSearch

theorem map_filter_eq_self {α ε : Type} {p : α → Bool} (hp : ∀ a, p a = true) (x : Except ε (List α)) :
    (x.map fun as => as.filter p) = x := by
  cases x with
  | error e => rfl
  | ok as => exact congrArg Except.ok (List.filter_eq_self.mpr fun a _ => hp a)

theorem map_filter_filter {α ε : Type} {p q r : α → Bool} (h : ∀ a, (q a && p a) = r a)
    (x : Except ε (List α)) :
    ((x.map fun as => as.filter p).map fun as => as.filter q) = x.map fun as => as.filter r := by
  cases x with
  | error e => rfl
  | ok as => exact congrArg Except.ok (List.filter_filter.trans (List.filter_congr fun a _ => h a))

namespace Draft

variable {d : Draft} {layer : Nat} {id : String} {lists : String → List String}

theorem get_put (d : Draft) (key value other : Bytes) :
    (d.put key value).get other = if other = key then .ok (some value) else d.get other := by
  rw [get, put, ByteMap.find?_insert]
  split_ifs <;> rfl

theorem get_delete (d : Draft) (key other : Bytes) :
    (d.delete key).get other = if other = key then .ok none else d.get other := by
  rw [get, delete, ByteMap.find?_insert]
  split_ifs <;> rfl

theorem neighborsKey_inj {k : KeySpace} {l m : Nat} {i j : String} :
    k.neighbors l i = k.neighbors m j ↔ l = m ∧ i = j := by
  have h : k.bytes (.neighbors l i) = k.bytes (.neighbors m j) ↔ _ := KeySpace.bytes_inj
  rwa [GraphKey.neighbors.injEq] at h

theorem neighbors_put (d : Draft) (layer : Nat) (id : String) (ids : List String) (l : Nat) (i : String) :
    (d.put (d.keys.neighbors layer id) (Record.neighbors ids)).neighbors l i =
      if l = layer ∧ i = id then .ok ids else d.neighbors l i := by
  have hget := d.get_put (d.keys.neighbors layer id) (Record.neighbors ids) (d.keys.neighbors l i)
  simp only [neighborsKey_inj] at hget
  rw [neighbors, neighbors, show (d.put _ _).keys = d.keys from rfl, hget]
  split_ifs
  · simp [bind, Except.bind, readable]
  · rfl

theorem neighbors_delete (d : Draft) (layer : Nat) (id : String) (l : Nat) (i : String) :
    (d.delete (d.keys.neighbors layer id)).neighbors l i =
      if l = layer ∧ i = id then .ok [] else d.neighbors l i := by
  have hget := d.get_delete (d.keys.neighbors layer id) (d.keys.neighbors l i)
  simp only [neighborsKey_inj] at hget
  rw [neighbors, neighbors, show (d.delete _).keys = d.keys from rfl, hget]
  split_ifs <;> rfl

theorem exists_setNeighbors {before : List String} (h : d.neighbors layer id = .ok before)
    (ids : List String) : ∃ d', d.setNeighbors layer id ids = .ok d' ∧
      ∀ l i, d'.neighbors l i = if l = layer ∧ i = id then .ok ids else d.neighbors l i := by
  rw [setNeighbors, h]
  refine ⟨_, rfl, fun l i => ?_⟩
  cases ids with
  | nil => exact d.neighbors_delete layer id l i
  | cons n ids => exact d.neighbors_put layer id (n :: ids) l i

theorem exists_dropNeighbor {ids : List String} (h : d.neighbors layer id = .ok ids) (n : String) :
    ∃ d', d.dropNeighbor layer id n = .ok d' ∧ ∀ l i, d'.neighbors l i =
      (d.neighbors l i).map fun ids => ids.filter fun m => ¬(l = layer ∧ i = id ∧ m = n) := by
  rw [dropNeighbor, h]
  dsimp only [bind, Except.bind]
  split_ifs with hnone
  · refine ⟨d, rfl, fun l i => ?_⟩
    by_cases hself : l = layer ∧ i = id
    · obtain ⟨rfl, rfl⟩ := hself
      have hall := List.length_filter_eq_length_iff.mp hnone
      rw [h]
      refine congrArg Except.ok (List.filter_eq_self.mpr fun m hm => ?_).symm
      simpa using hall m hm
    · exact (map_filter_eq_self (by grind) _).symm
  · obtain ⟨d', hd', hlists⟩ := exists_setNeighbors h (ids.filter fun m => m != n)
    refine ⟨d', hd', fun l i => ?_⟩
    rw [hlists]
    split_ifs with hself
    · obtain ⟨rfl, rfl⟩ := hself
      rw [h]
      exact congrArg Except.ok (List.filter_congr fun m _ => by grind)
    · exact (map_filter_eq_self (by grind) _).symm

/-- A node and some others are taken out of the lists of each other on a layer, and nothing else is taken out of
any list. -/
def Unlinks (layer : Nat) (id : String) (others : List String) (d d' : Draft) : Prop :=
  ∀ l i, d'.neighbors l i = (d.neighbors l i).map fun ids => ids.filter fun n =>
    ¬(l = layer ∧ (i = id ∧ n ∈ others ∨ i ∈ others ∧ n = id))

theorem unlinks_nil (d : Draft) (layer : Nat) (id : String) : Unlinks layer id [] d d :=
  fun _ _ => (map_filter_eq_self (by simp) _).symm

theorem Unlinks.trans {d₁ d₂ : Draft} {some others : List String} (h : Unlinks layer id some d d₁)
    (h' : Unlinks layer id others d₁ d₂) : Unlinks layer id (some ++ others) d d₂ := by
  intro l i
  rw [h' l i, h l i]
  exact map_filter_filter (fun n => by grind) _

theorem Unlinks.neighbors_of_notMem {d' : Draft} {others : List String} (h : Unlinks layer id others d d')
    {l : Nat} {i : String} (hid : i ≠ id) (hi : i ∉ others) : d'.neighbors l i = d.neighbors l i := by
  rw [h l i]
  exact map_filter_eq_self (by simp [hid, hi]) _

theorem exists_unlink {ids ids' : List String} {n : String} (h : d.neighbors layer id = .ok ids)
    (h' : d.neighbors layer n = .ok ids') :
    ∃ d', d.unlink layer id n = .ok d' ∧ Unlinks layer id [n] d d' := by
  obtain ⟨d₁, hd₁, hfirst⟩ := exists_dropNeighbor h n
  have hread : d₁.neighbors layer n = .ok (ids'.filter fun m => ¬(layer = layer ∧ n = id ∧ m = n)) := by
    rw [hfirst, h']
    rfl
  obtain ⟨d₂, hd₂, hsecond⟩ := exists_dropNeighbor hread id
  refine ⟨d₂, by rw [unlink, hd₁]; exact hd₂, fun l i => ?_⟩
  rw [hsecond l i, hfirst l i]
  exact map_filter_filter (fun m => by grind) _

/-- Those that are given up of some neighbours in turn: as many as are in excess, of those with more than one
neighbour. -/
def givenUp (lists : String → List String) (excess : Nat) (ids : List String) : List String :=
  (ids.filter fun n => 1 < (lists n).length).take excess

theorem exists_dropExcess {victims : List Candidate} {own : List String} (excess : Nat)
    (hown : d.neighbors layer id = .ok own) (hlists : ∀ c ∈ victims, d.neighbors layer c.id = .ok (lists c.id))
    (hid : id ∉ victims.map fun c => c.id) (hnodup : (victims.map fun c => c.id).Nodup) :
    ∃ d', dropExcess layer id excess victims d = .ok d' ∧
      Unlinks layer id (givenUp lists excess (victims.map fun c => c.id)) d d' := by
  induction victims generalizing d excess own with
  | nil => cases excess <;> exact ⟨d, rfl, unlinks_nil d layer id⟩
  | cons victim rest ih =>
    cases excess with
    | zero => exact ⟨d, rfl, unlinks_nil d layer id⟩
    | succ excess =>
      obtain ⟨hvictim, hrest⟩ := List.forall_mem_cons.mp hlists
      rw [List.map_cons] at hid hnodup ⊢
      obtain ⟨hne, hid⟩ := List.ne_and_not_mem_of_not_mem_cons hid
      obtain ⟨hnew, hnodup⟩ := List.nodup_cons.mp hnodup
      rw [dropExcess, hvictim]
      dsimp only [bind, Except.bind]
      split_ifs with hmore
      · obtain ⟨d₁, hd₁, hunlinks⟩ := exists_unlink hown hvictim
        -- the lists of those whose turn is yet to come are as they were
        have hkept : ∀ c ∈ rest, d₁.neighbors layer c.id = .ok (lists c.id) := by
          intro c hc
          have hmem : c.id ∈ rest.map fun c => c.id := List.mem_map_of_mem hc
          rw [hunlinks.neighbors_of_notMem (fun heq => hid (heq ▸ hmem))
            fun heq => hnew (List.mem_singleton.mp heq ▸ hmem)]
          exact hrest c hc
        have hleft := hunlinks layer id
        rw [hown] at hleft
        obtain ⟨d₂, hd₂, hothers⟩ := ih excess hleft hkept hid hnodup
        refine ⟨d₂, by rw [hd₁]; exact hd₂, ?_⟩
        have hcut := hunlinks.trans hothers
        rwa [givenUp, List.filter_cons_of_pos (by simpa using hmore), List.take_succ_cons]
      · obtain ⟨d', hd', hunlinks⟩ := ih (excess + 1) hown hrest hid hnodup
        refine ⟨d', hd', ?_⟩
        rwa [givenUp, List.filter_cons_of_neg (by simpa using hmore)]

theorem givenUp_sublist (lists : String → List String) (excess : Nat) (ids : List String) :
    (givenUp lists excess ids).Sublist ids :=
  (List.take_sublist _ _).trans List.filter_sublist

theorem length_givenUp {excess : Nat} {ids : List String} {n : String} (hn : n ∈ ids)
    (hmore : 1 < (lists n).length) (hkept : n ∉ givenUp lists excess ids) :
    (givenUp lists excess ids).length = excess := by
  rw [givenUp] at hkept ⊢
  refine List.length_take_of_le (Nat.le_of_not_le fun hle => hkept ?_)
  rw [List.take_of_length_le hle]
  exact List.mem_filter.mpr ⟨hn, decide_eq_true hmore⟩

theorem length_left_le {ids gone : List String} (hgone : gone.Nodup) (hsub : gone ⊆ ids) :
    (ids.filter fun n => n ∉ gone).length + gone.length ≤ ids.length := by
  have htaken : gone.length ≤ (ids.filter fun n => !decide (n ∉ gone)).length :=
    hgone.length_le_of_subset fun n hn => List.mem_filter.mpr ⟨hsub hn, by simpa using hn⟩
  have hsplit := List.length_eq_length_filter_add (l := ids) fun n => decide (n ∉ gone)
  omega

/-- The neighbours of a node with their distances to it, the nearest first. -/
structure ByDistance (d : Draft) (id : String) (ids : List String) (near : List Candidate) : Prop where
  ascending : Candidate.Ascending near
  mem_iff : ∀ c, c ∈ near ↔ c.id ∈ ids ∧ d.distanceBetween id c.id = .ok c.distance

theorem exists_neighborDistances {ids : List String}
    (h : ∀ n ∈ ids, ∃ x, d.distanceBetween id n = .ok x) :
    ∃ cs, d.neighborDistances id ids = .ok cs ∧ cs.map (fun c => c.id) = ids ∧
      ∀ c ∈ cs, d.distanceBetween id c.id = .ok c.distance := by
  induction ids with
  | nil => exact ⟨[], rfl, rfl, fun _ hc => nomatch hc⟩
  | cons n ids ih =>
    obtain ⟨⟨x, hx⟩, hrest⟩ := List.forall_mem_cons.mp h
    obtain ⟨cs, hcs, hids, htrue⟩ := ih hrest
    refine ⟨⟨x, n⟩ :: cs, ?_, by rw [List.map_cons, hids], List.forall_mem_cons.mpr ⟨hx, htrue⟩⟩
    rw [neighborDistances_cons, hx, hcs]
    rfl

theorem byDistance_sort {cs : List Candidate} (hnodup : (cs.map fun c => c.id).Nodup)
    (htrue : ∀ c ∈ cs, d.distanceBetween id c.id = .ok c.distance) :
    d.ByDistance id (cs.map fun c => c.id) (Candidate.sort cs) where
  ascending := Candidate.ascending_sort (List.Pairwise.of_map _ (fun a b => mt (congrArg _)) hnodup)
  mem_iff c := by
    rw [Candidate.mem_sort]
    refine ⟨fun hc => ⟨List.mem_map_of_mem hc, htrue c hc⟩, fun ⟨hid, hdistance⟩ => ?_⟩
    obtain ⟨e, he, heq⟩ := List.mem_map.mp hid
    have hsame : e.distance = c.distance :=
      Except.ok.inj ((htrue e he).symm.trans ((congrArg _ heq).trans hdistance))
    obtain rfl : e = c := by
      cases e
      cases c
      simp_all
    exact he

/-- The lists of a layer, when they can be read and are those of a graph: links go both ways, and no node is
linked to itself or twice to another. -/
structure Undirected (d : Draft) (layer : Nat) (lists : String → List String) : Prop where
  reads : ∀ i, d.neighbors layer i = .ok (lists i)
  symm : ∀ i, ∀ n ∈ lists i, i ∈ lists n
  irrefl : ∀ i, i ∉ lists i
  nodup : ∀ i, (lists i).Nodup

/-- If a list is too long for its capacity then what is left of it could not be given up. -/
theorem Undirected.eq_singleton (h : d.Undirected layer lists) {order : List String}
    (horder : order.Perm (lists id)) {capacity : Nat}
    (hlong : capacity < ((lists id).filter fun n =>
      n ∉ givenUp lists ((lists id).length - capacity) order).length)
    {n : String} (hn : n ∈ lists id) (hkept : n ∉ givenUp lists ((lists id).length - capacity) order) :
    lists n = [id] := by
  have hsub := givenUp_sublist lists ((lists id).length - capacity) order
  have hleft := length_left_le (hsub.nodup (horder.nodup_iff.mpr (h.nodup id)))
    fun m hm => horder.subset (hsub.subset hm)
  have hone : ¬1 < (lists n).length := by
    intro hmore
    have hlength := length_givenUp (horder.mem_iff.mpr hn) hmore hkept
    omega
  have hback : id ∈ lists n := h.symm id n hn
  obtain ⟨m, hm⟩ := List.length_eq_one_iff.mp
    (Nat.le_antisymm (Nat.le_of_not_lt hone) (List.length_pos_of_mem hback))
  rw [hm, List.mem_singleton] at hback
  rw [hm, hback]

theorem perm_reverse_sort {ids : List String} {cs : List Candidate} (hids : (cs.map fun c => c.id) = ids) :
    ((Candidate.sort cs).reverse.map fun c => c.id).Perm ids := by
  rw [← hids]
  exact ((List.reverse_perm _).trans (Candidate.sort_perm cs)).map _

theorem Undirected.exists_shrink (h : d.Undirected layer lists) {cs : List Candidate}
    (hcs : d.neighborDistances id (lists id) = .ok cs) (hids : (cs.map fun c => c.id) = lists id)
    (capacity : Nat) :
    ∃ d', d.shrink capacity layer id = .ok d' ∧
      Unlinks layer id (givenUp lists ((lists id).length - capacity)
        ((Candidate.sort cs).reverse.map fun c => c.id)) d d' := by
  have horder := perm_reverse_sort hids
  rw [shrink, h.reads]
  dsimp only [bind, Except.bind]
  split_ifs with hfits
  · rw [Nat.sub_eq_zero_of_le hfits]
    exact ⟨d, rfl, unlinks_nil d layer id⟩
  · rw [hcs]
    exact exists_dropExcess _ (h.reads id) (fun c _ => h.reads c.id)
      (fun hmem => h.irrefl id (horder.mem_iff.mp hmem)) (horder.nodup_iff.mpr (h.nodup id))

/-- Shrinking the list of a node takes as many neighbours off as there are beyond the capacity, from the farthest
to the nearest of those with more than one neighbour, at both ends and nowhere else. If the list is still too long
then its owner is the only neighbour of all that are left in it. -/
theorem Undirected.shrink_unlinks (h : d.Undirected layer lists)
    (hvectors : ∀ n, n = id ∨ n ∈ lists id → ∃ v, d.vector n = .ok v) (capacity : Nat) :
    ∃ near, d.ByDistance id (lists id) near ∧ ∃ d', d.shrink capacity layer id = .ok d' ∧
      Unlinks layer id (givenUp lists ((lists id).length - capacity) (near.reverse.map fun c => c.id)) d d' ∧
      ∀ left, d'.neighbors layer id = .ok left → capacity < left.length →
        ∀ n ∈ left, d'.neighbors layer n = .ok [id] := by
  have hdistances : ∀ n ∈ lists id, ∃ x, d.distanceBetween id n = .ok x := by
    intro n hn
    obtain ⟨v, hv⟩ := hvectors id (.inl rfl)
    obtain ⟨w, hw⟩ := hvectors n (.inr hn)
    rw [distanceBetween, hv]
    exact ⟨d.metric.distance v w, by show d.distance v n = _; rw [distance, hw]; rfl⟩
  obtain ⟨cs, hcs, hids, htrue⟩ := exists_neighborDistances hdistances
  have hnear := byDistance_sort (hids ▸ h.nodup id) htrue
  rw [hids] at hnear
  obtain ⟨d', hd', hunlinks⟩ := h.exists_shrink hcs hids capacity
  refine ⟨_, hnear, d', hd', hunlinks, fun left hleft hlong n hn => ?_⟩
  have horder := perm_reverse_sort hids
  have hself : id ∉ givenUp lists ((lists id).length - capacity)
      ((Candidate.sort cs).reverse.map fun c => c.id) :=
    fun hmem => h.irrefl id (horder.subset ((givenUp_sublist _ _ _).subset hmem))
  have hown := hunlinks layer id
  rw [hleft, h.reads] at hown
  obtain rfl : left = (lists id).filter fun n => n ∉ givenUp lists ((lists id).length - capacity)
      ((Candidate.sort cs).reverse.map fun c => c.id) :=
    (Except.ok.inj hown).trans (List.filter_congr fun m _ => by grind)
  obtain ⟨hn, hkept⟩ := List.mem_filter.mp hn
  have hkept := of_decide_eq_true hkept
  rw [hunlinks.neighbors_of_notMem (ne_of_mem_of_not_mem hn (h.irrefl id)) hkept, h.reads,
    h.eq_singleton horder hlong hn hkept]

/-- The lists of a hub with three neighbours: two of them are linked to each other, the third is linked to
nothing else. -/
def hubLists (id : String) : List String :=
  if id = "h" then ["a", "b", "c"]
  else if id = "a" then ["h", "b"]
  else if id = "b" then ["h", "a"]
  else if id = "c" then ["h"]
  else []

/-- The neighbours are on a line with the hub, the third farthest away. -/
def hub : Draft :=
  let base : Draft := Draft.start { dimension := 1, metric := .euclidean } { content := ByteMap.empty }
  let placed := [("h", ⟨0⟩), ("a", ⟨0x3ff0000000000000⟩), ("b", ⟨0x4000000000000000⟩),
    ("c", ⟨0x4008000000000000⟩)].foldl (fun d e => d.put (d.keys.vector e.1) (Embedding.encode [e.2])) base
  ["h", "a", "b", "c"].foldl
    (fun d id => d.put (d.keys.neighbors 0 id) (Record.neighbors (hubLists id))) placed

theorem undirected_hub : hub.Undirected 0 hubLists where
  reads i := by
    have hvector : ∀ (d : Draft) (id : String) (value : Bytes),
        (d.put (d.keys.vector id) value).neighbors 0 i = d.neighbors 0 i := by
      intro d id value
      have hne : d.keys.bytes (.neighbors 0 i) ≠ d.keys.bytes (.vector id) := by
        simp [KeySpace.bytes_inj]
      have hget := d.get_put (d.keys.bytes (.vector id)) value (d.keys.bytes (.neighbors 0 i))
      rw [if_neg hne] at hget
      exact congrArg (· >>= _) hget
    have hbase : (Draft.start { dimension := 1, metric := .euclidean }
        { content := ByteMap.empty }).neighbors 0 i = .ok [] := rfl
    simp only [hub, List.foldl_cons, List.foldl_nil, neighbors_put, hvector, hbase, true_and]
    rw [hubLists]
    split_ifs <;> simp_all [hubLists]
  symm i n hn := by
    simp only [hubLists] at hn ⊢
    split_ifs at hn <;> grind
  irrefl i := by
    simp only [hubLists]
    split_ifs <;> grind
  nodup i := by
    simp only [hubLists]
    split_ifs <;> decide

def hubNeighbors : List Candidate :=
  [⟨⟨0x3ff0000000000000⟩, "a"⟩, ⟨⟨0x4000000000000000⟩, "b"⟩, ⟨⟨0x4008000000000000⟩, "c"⟩]

/-- The farthest neighbour of the hub keeps its only link, the others are given up, the farther one first. -/
theorem shrink_unlinks_hub :
    hub.Undirected 0 hubLists ∧ (∀ n, n = "h" ∨ n ∈ hubLists "h" → ∃ v, hub.vector n = .ok v) ∧
    ∃ d', hub.shrink 0 0 "h" = .ok d' ∧ Unlinks 0 "h" ["b", "a"] hub d' ∧
      d'.neighbors 0 "h" = .ok ["c"] ∧ d'.neighbors 0 "c" = .ok ["h"] := by
  have hvectors : ∀ n, n = "h" ∨ n ∈ hubLists "h" → ∃ v, hub.vector n = .ok v := by
    have hlist : hubLists "h" = ["a", "b", "c"] := rfl
    rw [hlist]
    rintro n (rfl | hn)
    · exact ⟨[⟨0⟩], ok_of_toOption (by decide +kernel)⟩
    · simp only [List.mem_cons, List.not_mem_nil, or_false] at hn
      rcases hn with rfl | rfl | rfl
      · exact ⟨[⟨0x3ff0000000000000⟩], ok_of_toOption (by decide +kernel)⟩
      · exact ⟨[⟨0x4000000000000000⟩], ok_of_toOption (by decide +kernel)⟩
      · exact ⟨[⟨0x4008000000000000⟩], ok_of_toOption (by decide +kernel)⟩
  obtain ⟨near, hnear, d', hd', hunlinks, hleft⟩ := undirected_hub.shrink_unlinks hvectors 0
  have horder : hub.ByDistance "h" (hubLists "h")
      (Candidate.sort hubNeighbors) := by
    have hnodup : (hubNeighbors.map fun c => c.id).Nodup := by decide
    refine byDistance_sort hnodup ?_
    simp only [hubNeighbors, List.forall_mem_cons]
    exact ⟨ok_of_toOption (by decide +kernel), ok_of_toOption (by decide +kernel),
      ok_of_toOption (by decide +kernel), nofun⟩
  obtain rfl := Candidate.ascending_ext hnear.ascending horder.ascending fun c =>
    (hnear.mem_iff c).trans (horder.mem_iff c).symm
  have hgone : Unlinks 0 "h" ["b", "a"] hub d' := hunlinks
  have hown : d'.neighbors 0 "h" = .ok ["c"] := by
    rw [hgone, undirected_hub.reads]
    rfl
  exact ⟨undirected_hub, hvectors, d', hd', hgone, hown, hleft _ hown (by decide) "c" (by decide)⟩

end Draft

end HybridSearch
