import HybridSearch.Proofs.VectorIndex.Graph
import HybridSearch.Proofs.VectorIndex.LayerSearch

/-!
# Wired graphs

In a wired graph neighbours are mutual, distinct, never the node itself, and both ends of a link are
nodes that reach up to its layer. Linking and unlinking keep a graph wired, and all that an insert or a
delete does to the neighbour lists of a layer is a sequence of these two edits.
-/
namespace HybridSearch

namespace Graph

structure Wired (g : Graph) : Prop where
  symm : ∀ {layer a b}, b ∈ g.neighbors layer a → a ∈ g.neighbors layer b
  irrefl : ∀ {layer a}, a ∉ g.neighbors layer a
  nodup : ∀ layer a, (g.neighbors layer a).Nodup
  on : ∀ {layer a b}, b ∈ g.neighbors layer a → g.On layer b

theorem Wired.eq_nil_of_unlisted {g : Graph} (hw : g.Wired) {layer : Nat} {id : String}
    (h : ∀ i, id ∉ g.neighbors layer i) : g.neighbors layer id = [] :=
  List.eq_nil_iff_forall_not_mem.mpr fun n hn => h n (hw.symm hn)

/-- Graphs that differ in their neighbour lists only. -/
structure SameNodes (g h : Graph) : Prop where
  metric : h.metric = g.metric
  ids : h.ids = g.ids
  level : h.level = g.level
  vector : h.vector = g.vector
  entry : h.entry = g.entry
  count : h.count = g.count
  countChange : h.countChange = g.countChange

namespace SameNodes

theorem refl (g : Graph) : SameNodes g g := ⟨rfl, rfl, rfl, rfl, rfl, rfl, rfl⟩

theorem trans {f g h : Graph} (hfg : SameNodes f g) (hgh : SameNodes g h) : SameNodes f h :=
  ⟨hgh.metric.trans hfg.metric, hgh.ids.trans hfg.ids, hgh.level.trans hfg.level,
    hgh.vector.trans hfg.vector, hgh.entry.trans hfg.entry, hgh.count.trans hfg.count,
    hgh.countChange.trans hfg.countChange⟩

variable {g h : Graph}

theorem on_iff (same : SameNodes g h) {layer : Nat} {id : String} : h.On layer id ↔ g.On layer id := by
  rw [On, On, same.ids, same.level]

theorem distance (same : SameNodes g h) : h.distance = g.distance := by
  funext query id
  rw [Graph.distance, Graph.distance, same.metric, same.vector]

end SameNodes

theorem sameNodes_setNeighbors (g : Graph) (layer : Nat) (id : String) (ids : List String) :
    SameNodes g (g.setNeighbors layer id ids) :=
  ⟨rfl, rfl, rfl, rfl, rfl, rfl, rfl⟩

theorem sameNodes_addNeighbor (g : Graph) (layer : Nat) (a b : String) :
    SameNodes g (g.addNeighbor layer a b) := by
  rw [addNeighbor]
  split
  · exact SameNodes.refl g
  · exact sameNodes_setNeighbors g layer a _

theorem sameNodes_dropNeighbor (g : Graph) (layer : Nat) (a b : String) :
    SameNodes g (g.dropNeighbor layer a b) := by
  rw [dropNeighbor]
  split
  · exact SameNodes.refl g
  · exact sameNodes_setNeighbors g layer a _

theorem sameNodes_link (g : Graph) (layer : Nat) (a b : String) : SameNodes g (g.link layer a b) :=
  (sameNodes_addNeighbor g layer a b).trans (sameNodes_addNeighbor _ layer b a)

theorem sameNodes_unlink (g : Graph) (layer : Nat) (a b : String) : SameNodes g (g.unlink layer a b) :=
  (sameNodes_dropNeighbor g layer a b).trans (sameNodes_dropNeighbor _ layer b a)

theorem neighbors_addNeighbor (g : Graph) (layer : Nat) (a b : String) (l : Nat) (i : String) :
    (g.addNeighbor layer a b).neighbors l i =
      if (l = layer ∧ i = a) ∧ b ∉ g.neighbors layer a then g.neighbors l i ++ [b]
      else g.neighbors l i := by
  rw [addNeighbor]
  by_cases hb : b ∈ g.neighbors layer a
  · simp [hb]
  · by_cases hi : l = layer ∧ i = a
    · obtain ⟨rfl, rfl⟩ := hi
      simp [hb, setNeighbors]
    · simp [hb, hi, setNeighbors]

theorem neighbors_dropNeighbor (g : Graph) (layer : Nat) (a b : String) (l : Nat) (i : String) :
    (g.dropNeighbor layer a b).neighbors l i =
      if l = layer ∧ i = a then (g.neighbors l i).filter fun n => n != b else g.neighbors l i := by
  rw [dropNeighbor]
  by_cases hi : l = layer ∧ i = a
  · obtain ⟨rfl, rfl⟩ := hi
    simp only [and_self, if_true]
    split
    · next hlength => exact (List.filter_eq_self.mpr (List.length_filter_eq_length_iff.mp hlength)).symm
    · simp [setNeighbors]
  · simp only [hi, if_false]
    split
    · rfl
    · simp [setNeighbors, hi]

theorem mem_addNeighbor {g : Graph} {layer : Nat} {a b : String} {l : Nat} {i n : String} :
    n ∈ (g.addNeighbor layer a b).neighbors l i ↔
      n ∈ g.neighbors l i ∨ (l = layer ∧ i = a) ∧ n = b := by
  rw [neighbors_addNeighbor]
  split
  · next h => simp [h.1]
  · next h =>
    refine ⟨.inl, ?_⟩
    rintro (hn | ⟨⟨rfl, rfl⟩, rfl⟩)
    · exact hn
    · simpa using h

theorem mem_dropNeighbor {g : Graph} {layer : Nat} {a b : String} {l : Nat} {i n : String} :
    n ∈ (g.dropNeighbor layer a b).neighbors l i ↔
      n ∈ g.neighbors l i ∧ ¬((l = layer ∧ i = a) ∧ n = b) := by
  rw [neighbors_dropNeighbor]
  split
  · next h => simp [h]
  · next h => simp [h]

theorem prefix_addNeighbor (g : Graph) (layer : Nat) (a b : String) (l : Nat) (i : String) :
    g.neighbors l i <+: (g.addNeighbor layer a b).neighbors l i := by
  rw [neighbors_addNeighbor]
  split
  · exact List.prefix_append _ _
  · exact List.prefix_rfl

theorem prefix_link (g : Graph) (layer : Nat) (a b : String) (l : Nat) (i : String) :
    g.neighbors l i <+: (g.link layer a b).neighbors l i :=
  (prefix_addNeighbor g layer a b l i).trans (prefix_addNeighbor _ layer b a l i)

theorem mem_link {g : Graph} {layer : Nat} {a b : String} {l : Nat} {i n : String} :
    n ∈ (g.link layer a b).neighbors l i ↔
      n ∈ g.neighbors l i ∨ l = layer ∧ (i = a ∧ n = b ∨ i = b ∧ n = a) := by
  rw [link, mem_addNeighbor, mem_addNeighbor]
  grind

theorem neighbors_unlink (g : Graph) (layer : Nat) (a b : String) (l : Nat) (i : String) :
    (g.unlink layer a b).neighbors l i =
      (g.neighbors l i).filter fun n => ¬(l = layer ∧ (i = a ∧ n = b ∨ i = b ∧ n = a)) := by
  have hdrop : ∀ (h : Graph) (a b : String), (h.dropNeighbor layer a b).neighbors l i =
      (h.neighbors l i).filter fun n => ¬((l = layer ∧ i = a) ∧ n = b) := by
    intro h a b
    rw [neighbors_dropNeighbor]
    split
    · next htouched => exact List.filter_congr fun n _ => by simp [htouched, bne, beq_eq_decide]
    · next huntouched => exact (List.filter_eq_self.mpr fun n _ => by simp [huntouched]).symm
  rw [unlink, hdrop, hdrop, List.filter_filter]
  refine List.filter_congr fun n _ => ?_
  grind

theorem mem_unlink {g : Graph} {layer : Nat} {a b : String} {l : Nat} {i n : String} :
    n ∈ (g.unlink layer a b).neighbors l i ↔
      n ∈ g.neighbors l i ∧ ¬(l = layer ∧ (i = a ∧ n = b ∨ i = b ∧ n = a)) := by
  rw [neighbors_unlink, List.mem_filter, decide_eq_true_iff]

theorem nodup_addNeighbor {g : Graph} {layer : Nat} {a b : String} {l : Nat} {i : String}
    (h : (g.neighbors l i).Nodup) : ((g.addNeighbor layer a b).neighbors l i).Nodup := by
  rw [neighbors_addNeighbor]
  split
  · next hadd =>
    obtain ⟨⟨rfl, rfl⟩, hb⟩ := hadd
    refine List.nodup_append.mpr ⟨h, by simp, fun x hx y hy => ?_⟩
    obtain rfl := List.mem_singleton.mp hy
    exact fun heq => hb (heq ▸ hx)
  · exact h

theorem nodup_dropNeighbor {g : Graph} {layer : Nat} {a b : String} {l : Nat} {i : String}
    (h : (g.neighbors l i).Nodup) : ((g.dropNeighbor layer a b).neighbors l i).Nodup := by
  rw [neighbors_dropNeighbor]
  split
  · exact h.filter _
  · exact h

theorem Wired.link {g : Graph} (h : g.Wired) {layer : Nat} {a b : String} (hne : a ≠ b)
    (ha : g.On layer a) (hb : g.On layer b) : (g.link layer a b).Wired where
  symm hn := by
    rw [mem_link] at hn ⊢
    rcases hn with hn | ⟨hl, hn⟩
    · exact .inl (h.symm hn)
    · exact .inr ⟨hl, by grind⟩
  irrefl hn := by
    rcases mem_link.mp hn with hn | ⟨-, hn⟩
    · exact h.irrefl hn
    · grind
  nodup l i := nodup_addNeighbor (nodup_addNeighbor (h.nodup l i))
  on hn := by
    rw [(sameNodes_link g layer a b).on_iff]
    rcases mem_link.mp hn with hn | ⟨rfl, ⟨-, rfl⟩ | ⟨-, rfl⟩⟩
    · exact h.on hn
    · exact hb
    · exact ha

theorem Wired.unlink {g : Graph} (h : g.Wired) (layer : Nat) (a b : String) :
    (g.unlink layer a b).Wired where
  symm hn := by
    rw [mem_unlink] at hn ⊢
    exact ⟨h.symm hn.1, fun hcut => hn.2 (by grind)⟩
  irrefl hn := h.irrefl (mem_unlink.mp hn).1
  nodup l i := nodup_dropNeighbor (nodup_dropNeighbor (h.nodup l i))
  on hn := by
    rw [(sameNodes_unlink g layer a b).on_iff]
    exact h.on (mem_unlink.mp hn).1

/-- A graph reached by linking different nodes and by unlinking, all on some of the layers. -/
inductive Rewires (layers : Nat → Prop) (g : Graph) : Graph → Prop
  | refl : Rewires layers g g
  | link {h : Graph} {layer : Nat} {a b : String} (hrewires : Rewires layers g h)
      (hlayer : layers layer) (hne : a ≠ b) (ha : g.On layer a) (hb : g.On layer b) :
      Rewires layers g (h.link layer a b)
  | unlink {h : Graph} {layer : Nat} (a b : String) (hrewires : Rewires layers g h)
      (hlayer : layers layer) : Rewires layers g (h.unlink layer a b)

namespace Rewires

variable {layers : Nat → Prop} {g h : Graph}

theorem sameNodes (r : Rewires layers g h) : SameNodes g h := by
  induction r with
  | refl => exact SameNodes.refl g
  | link _ _ _ _ _ ih => exact ih.trans (sameNodes_link _ _ _ _)
  | unlink a b _ _ ih => exact ih.trans (sameNodes_unlink _ _ _ _)

theorem wired (r : Rewires layers g h) (hw : g.Wired) : h.Wired := by
  induction r with
  | refl => exact hw
  | link hprev _ hne ha hb ih =>
    exact ih.link hne (hprev.sameNodes.on_iff.mpr ha) (hprev.sameNodes.on_iff.mpr hb)
  | unlink a b _ _ ih => exact ih.unlink _ a b

theorem trans {k : Graph} (hgh : Rewires layers g h) (hhk : Rewires layers h k) :
    Rewires layers g k := by
  induction hhk with
  | refl => exact hgh
  | link _ hlayer hne ha hb ih =>
    exact ih.link hlayer hne (hgh.sameNodes.on_iff.mp ha) (hgh.sameNodes.on_iff.mp hb)
  | unlink a b _ hlayer ih => exact ih.unlink a b hlayer

theorem mono {more : Nat → Prop} (hmore : ∀ l, layers l → more l) (r : Rewires layers g h) :
    Rewires more g h := by
  induction r with
  | refl => exact .refl
  | link _ hlayer hne ha hb ih => exact ih.link (hmore _ hlayer) hne ha hb
  | unlink a b _ hlayer ih => exact ih.unlink a b (hmore _ hlayer)

theorem neighbors_of_not (r : Rewires layers g h) {l : Nat} (hl : ¬layers l) :
    h.neighbors l = g.neighbors l := by
  induction r with
  | refl => rfl
  | @link _ layer _ _ _ hlayer _ _ _ ih =>
    have hne : l ≠ layer := fun heq => hl (heq ▸ hlayer)
    rw [← ih]
    funext i
    simp [Graph.link, neighbors_addNeighbor, hne]
  | @unlink _ layer a b _ hlayer ih =>
    have hne : l ≠ layer := fun heq => hl (heq ▸ hlayer)
    rw [← ih]
    funext i
    simp [Graph.unlink, neighbors_dropNeighbor, hne]

theorem foldl {α : Type} {step : Graph → α → Graph} {xs : List α} (hw : g.Wired)
    (hstep : ∀ h, h.Wired → SameNodes g h → ∀ x ∈ xs, Rewires layers h (step h x)) :
    Rewires layers g (xs.foldl step g) := by
  have hall : ∀ ys : List α, (∀ y ∈ ys, y ∈ xs) → ∀ h, Rewires layers g h →
      Rewires layers g (ys.foldl step h) := by
    intro ys
    induction ys with
    | nil => exact fun _ h r => r
    | cons y ys ih =>
      intro hys h r
      refine ih (fun z hz => hys z (List.mem_cons_of_mem _ hz)) _ (r.trans ?_)
      exact hstep h (r.wired hw) r.sameNodes y (hys y List.mem_cons_self)
  exact hall xs (fun _ hx => hx) g .refl

end Rewires

theorem rewires_link {g : Graph} {layer : Nat} {a b : String} (hne : a ≠ b) (ha : g.On layer a)
    (hb : g.On layer b) : Rewires (· = layer) g (g.link layer a b) :=
  .link .refl rfl hne ha hb

theorem rewires_unlink (g : Graph) (layer : Nat) (a b : String) :
    Rewires (· = layer) g (g.unlink layer a b) :=
  .unlink a b .refl rfl

theorem rewires_dropExcess (layer : Nat) (id : String) (excess : Nat) (victims : List Candidate)
    (g : Graph) : Rewires (· = layer) g (dropExcess layer id excess victims g) := by
  induction victims generalizing excess g with
  | nil =>
    cases excess <;> exact .refl
  | cons victim rest ih =>
    cases excess with
    | zero => exact .refl
    | succ excess =>
      rw [dropExcess]
      split
      · exact (rewires_unlink g layer id victim.id).trans (ih excess _)
      · exact ih (excess + 1) g

theorem rewires_shrink (g : Graph) (capacity layer : Nat) (id : String) :
    Rewires (· = layer) g (g.shrink capacity layer id) := by
  rw [shrink]
  split
  · exact .refl
  · exact rewires_dropExcess _ _ _ _ _

theorem rewires_connect {g : Graph} {capacity layer : Nat} {id neighbor : String} (hne : id ≠ neighbor)
    (hid : g.On layer id) (hneighbor : g.On layer neighbor) :
    Rewires (· = layer) g (connect capacity layer id g neighbor) :=
  (rewires_link hne hid hneighbor).trans (rewires_shrink _ _ _ _)

theorem nearestPeer_mem {g : Graph} {capacity layer : Nat} {id : String} {current : List String}
    {peers : List String} {best : Option Candidate} {found : Candidate}
    (h : g.nearestPeer capacity layer id current peers best = some found) :
    best = some found ∨ found.id ∈ peers ∧ found.id ≠ id ∧ found.id ∉ current ∧
      (g.neighbors layer found.id).length < capacity := by
  induction peers generalizing best with
  | nil => exact .inl h
  | cons peer rest ih =>
    rw [nearestPeer] at h
    split at h
    · rcases ih h with hbest | ⟨hmem, hrest⟩
      · exact .inl hbest
      · exact .inr ⟨List.mem_cons_of_mem _ hmem, hrest⟩
    · next hpeer =>
      split at h
      · rcases ih h with hbest | ⟨hmem, hrest⟩
        · exact .inl hbest
        · exact .inr ⟨List.mem_cons_of_mem _ hmem, hrest⟩
      · next hroom =>
        rcases ih h with hbest | ⟨hmem, hrest⟩
        · have hcases : best = some found ∨ found = ⟨g.distanceBetween id peer, peer⟩ := by
            unfold Draft.nearer at hbest
            split at hbest
            · exact .inr (Option.some_inj.mp hbest).symm
            · split at hbest
              · exact .inr (Option.some_inj.mp hbest).symm
              · exact .inl hbest
          rcases hcases with hbest | rfl
          · exact .inl hbest
          · refine .inr ⟨List.mem_cons_self, fun heq => hpeer (.inl heq), fun hin => ?_,
              Nat.lt_of_not_le hroom⟩
            exact hpeer (.inr (by simpa using hin))
        · exact .inr ⟨List.mem_cons_of_mem _ hmem, hrest⟩

/-- The turn of a former neighbour: it stays as it is, or it gets a link to a peer, and both have room for it. -/
theorem reconnect_cases (capacity layer : Nat) (former : List String) (g : Graph) (id : String) :
    reconnect capacity layer former g id = g ∨ ∃ peer ∈ former, id ≠ peer ∧
      (g.neighbors layer id).length < capacity ∧ (g.neighbors layer peer).length < capacity ∧
      reconnect capacity layer former g id = g.link layer id peer := by
  rw [reconnect]
  split
  · exact .inl rfl
  · next hroom =>
    split
    · exact .inl rfl
    · next peer hpeer =>
      rcases nearestPeer_mem hpeer with hnone | ⟨hmem, hne, -, hpeerRoom⟩
      · cases hnone
      · exact .inr ⟨peer.id, hmem, hne.symm, Nat.lt_of_not_le hroom, hpeerRoom, rfl⟩

/-- What the links of a repair keep: each is between two of the former neighbours, and both have room for it. -/
theorem repair_induction {P : Graph → Prop} {g : Graph} {capacity layer : Nat} {former : List String}
    (hstart : P g) (hlink : ∀ h a b, P h → a ∈ former → b ∈ former → a ≠ b →
      (h.neighbors layer a).length < capacity → (h.neighbors layer b).length < capacity →
      P (h.link layer a b)) : P (g.repair capacity layer former) := by
  have hall : ∀ ids : List String, (∀ id ∈ ids, id ∈ former) → ∀ h, P h →
      P (ids.foldl (reconnect capacity layer former) h) := by
    intro ids
    induction ids with
    | nil => exact fun _ _ hh => hh
    | cons id ids ih =>
      intro hids h hh
      refine ih (fun j hj => hids j (List.mem_cons_of_mem _ hj)) _ ?_
      rcases reconnect_cases capacity layer former h id with
        hkept | ⟨peer, hpeer, hne, hroom, hpeerRoom, hlinked⟩
      · rw [hkept]
        exact hh
      · rw [hlinked]
        exact hlink h id peer hh (hids id List.mem_cons_self) hpeer hne hroom hpeerRoom
  exact hall former (fun _ hid => hid) g hstart

theorem rewires_reconnect {g : Graph} {capacity layer : Nat} {former : List String} {id : String}
    (hformer : ∀ n ∈ former, g.On layer n) (hid : id ∈ former) :
    Rewires (· = layer) g (reconnect capacity layer former g id) := by
  rcases reconnect_cases capacity layer former g id with hkept | ⟨peer, hpeer, hne, -, -, hlinked⟩
  · rw [hkept]
    exact .refl
  · rw [hlinked]
    exact rewires_link hne (hformer id hid) (hformer peer hpeer)

theorem rewires_repair {g : Graph} {capacity layer : Nat} {former : List String}
    (hformer : ∀ n ∈ former, g.On layer n) :
    Rewires (· = layer) g (g.repair capacity layer former) :=
  repair_induction .refl fun _ a b hrewires ha hb hne _ _ =>
    hrewires.link rfl hne (hformer a ha) (hformer b hb)

theorem rewires_unlinkAll (g : Graph) (layer : Nat) (id : String) (ids : List String) :
    Rewires (· = layer) g (ids.foldl (fun g n => g.unlink layer id n) g) := by
  induction ids generalizing g with
  | nil => exact .refl
  | cons n ids ih => exact (rewires_unlink g layer id n).trans (ih _)

theorem rewires_unlinkLayer {g : Graph} (hw : g.Wired) (config : VectorConfig) (id : String)
    (layer : Nat) : Rewires (· = layer) g (unlinkLayer config id g layer) := by
  have hunlinked := rewires_unlinkAll g layer id (g.neighbors layer id)
  refine hunlinked.trans (rewires_repair fun n hn => ?_)
  exact hunlinked.sameNodes.on_iff.mpr (hw.on hn)

theorem neighbors_unlinkAll (g : Graph) (layer : Nat) (id : String) (ids : List String) (l : Nat)
    (i : String) : (ids.foldl (fun g n => g.unlink layer id n) g).neighbors l i =
      (g.neighbors l i).filter fun n => ¬(l = layer ∧ (i = id ∧ n ∈ ids ∨ i ∈ ids ∧ n = id)) := by
  induction ids generalizing g with
  | nil => simp
  | cons m ids ih =>
    rw [List.foldl_cons, ih, neighbors_unlink, List.filter_filter]
    refine List.filter_congr fun n _ => ?_
    grind

theorem mem_unlinkAll {g : Graph} {layer : Nat} {id : String} {ids : List String} {l : Nat}
    {i n : String} : n ∈ (ids.foldl (fun g n => g.unlink layer id n) g).neighbors l i ↔
      n ∈ g.neighbors l i ∧ ¬(l = layer ∧ (i = id ∧ n ∈ ids ∨ i ∈ ids ∧ n = id)) := by
  rw [neighbors_unlinkAll, List.mem_filter, decide_eq_true_iff]

/-- Repairing links former neighbours among themselves, so no other node gets a new neighbour. -/
theorem mem_repair {capacity layer : Nat} {former : List String} {g : Graph} {l : Nat}
    {i n : String} : n ∈ (g.repair capacity layer former).neighbors l i →
      n ∈ g.neighbors l i ∨ l = layer ∧ i ∈ former ∧ n ∈ former := by
  refine repair_induction (P := fun h => n ∈ h.neighbors l i →
    n ∈ g.neighbors l i ∨ l = layer ∧ i ∈ former ∧ n ∈ former) .inl fun h a b hh ha hb _ _ _ hn => ?_
  rcases mem_link.mp hn with hn | ⟨hl, ⟨rfl, rfl⟩ | ⟨rfl, rfl⟩⟩
  · exact hh hn
  · exact .inr ⟨hl, ha, hb⟩
  · exact .inr ⟨hl, hb, ha⟩

theorem prefix_reconnect (capacity layer : Nat) (former : List String) (g : Graph) (id : String) (l : Nat)
    (i : String) : g.neighbors l i <+: (reconnect capacity layer former g id).neighbors l i := by
  rcases reconnect_cases capacity layer former g id with hkept | ⟨peer, -, -, -, -, hlinked⟩
  · simp [hkept]
  · rw [hlinked]
    exact prefix_link _ _ _ _ _ _

/-- Repairing takes nothing out of a list; what it adds goes to the end. -/
theorem prefix_foldl_reconnect (capacity layer : Nat) (former ids : List String) (g : Graph) (l : Nat)
    (i : String) :
    g.neighbors l i <+: (ids.foldl (reconnect capacity layer former) g).neighbors l i := by
  induction ids generalizing g with
  | nil => exact List.prefix_rfl
  | cons id ids ih => exact (prefix_reconnect capacity layer former g id l i).trans (ih _)

theorem neighbors_unlinkLayer {g : Graph} (hw : g.Wired) (config : VectorConfig) (id : String)
    (layer : Nat) : (unlinkLayer config id g layer).neighbors layer id = [] := by
  refine List.eq_nil_iff_forall_not_mem.mpr fun n hn => ?_
  rcases mem_repair hn with hn | ⟨-, hin, -⟩
  · rw [mem_unlinkAll] at hn
    exact hn.2 ⟨rfl, .inl ⟨rfl, hn.1⟩⟩
  · exact hw.irrefl hin

theorem unlinkLayers_succ (config : VectorConfig) (g : Graph) (id : String) (layers : Nat) :
    unlinkLayers config g id (layers + 1) =
      unlinkLayer config id (unlinkLayers config g id layers) layers := by
  rw [unlinkLayers, List.range_succ, List.foldl_append]
  rfl

theorem rewires_unlinkLayers {g : Graph} (hw : g.Wired) (config : VectorConfig) (id : String)
    (layers : Nat) : Rewires (· < layers) g (unlinkLayers config g id layers) := by
  induction layers with
  | zero => exact .refl
  | succ layers ih =>
    rw [unlinkLayers_succ]
    refine (ih.mono fun l hl => by omega).trans ?_
    exact (rewires_unlinkLayer (ih.wired hw) config id layers).mono fun l hl => by omega

theorem neighbors_unlinkLayers {g : Graph} (hw : g.Wired) (config : VectorConfig) (id : String)
    {layers l : Nat} (hl : l < layers) : (unlinkLayers config g id layers).neighbors l id = [] := by
  induction layers with
  | zero => omega
  | succ layers ih =>
    have hbelow := (rewires_unlinkLayers hw config id layers).wired hw
    rw [unlinkLayers_succ]
    rcases Nat.lt_succ_iff_lt_or_eq.mp hl with hl | rfl
    · rw [(rewires_unlinkLayer hbelow config id layers).neighbors_of_not (by omega), ih hl]
    · exact neighbors_unlinkLayer hbelow config id l

theorem notMem_unlinkLayers {g : Graph} (hw : g.Wired) (config : VectorConfig) (id : String)
    (l : Nat) (i : String) :
    id ∉ (unlinkLayers config g id (g.level id + 1)).neighbors l i := by
  intro hn
  have hr := rewires_unlinkLayers hw config id (g.level id + 1)
  have hw' := hr.wired hw
  have hlevel : l < g.level id + 1 := by
    have := ((hr.sameNodes.on_iff).mp (hw'.on hn)).2
    omega
  have hback := hw'.symm hn
  rw [neighbors_unlinkLayers hw config id hlevel] at hback
  simp at hback

theorem neighbors_unlinkNode {g : Graph} {config : VectorConfig} {id : String} (hid : id ∈ g.ids) :
    (unlinkNode config g id).1.neighbors = (unlinkLayers config g id (g.level id + 1)).neighbors := by
  rw [unlinkNode, if_pos hid]
  dsimp only
  split
  · rfl
  · split <;> rfl

end Graph

end HybridSearch
