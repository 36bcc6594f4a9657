import HybridSearch.Store.Handle

/-!
# What a store holds

A store is determined by what its keys look up. Writing a change decides the look-up of its key and
leaves all others; a scan gives exactly the entries whose keys start with the bytes that are asked for.
-/
namespace HybridSearch

namespace Bytes

theorem startsWith_iff {key lead : Bytes} : key.startsWith lead = true ↔ lead <+: key := by
  induction lead generalizing key with
  | nil => cases key <;> simp [startsWith]
  | cons b bs ih =>
    cases key with
    | nil => simp [startsWith]
    | cons a as =>
      simp only [startsWith, Bool.and_eq_true, beq_iff_eq, ih, List.cons_prefix_cons]
      exact and_congr_left fun _ => eq_comm

theorem startsWith_append (lead rest : Bytes) : (lead ++ rest).startsWith lead = true :=
  startsWith_iff.mpr (List.prefix_append lead rest)

theorem order_append_ne_lt (lead rest : Bytes) : order (lead ++ rest) lead ≠ .lt := by
  induction lead with
  | nil => cases rest <;> simp [order]
  | cons b bs ih => simpa [order] using ih

theorem order_append_append (lead x y : Bytes) : order (lead ++ x) (lead ++ y) = order x y := by
  induction lead with
  | nil => rfl
  | cons b bs ih => simpa [order] using ih

theorem order_append_lt {lead key : Bytes} (hfrom : order key lead ≠ .lt)
    (hno : key.startsWith lead = false) (rest : Bytes) : order (lead ++ rest) key = .lt := by
  induction lead generalizing key with
  | nil => simp [startsWith] at hno
  | cons b bs ih =>
    cases key with
    | nil => simp [order] at hfrom
    | cons a as =>
      simp only [order] at hfrom
      split at hfrom
      · exact absurd rfl hfrom
      · split at hfrom
        · next hlt => simp [order, hlt]
        · next h1 h2 =>
          have hab : a = b := UInt8.toNat_inj.mp (by omega)
          subst hab
          simp only [startsWith, beq_self_eq_true, Bool.true_and] at hno
          simpa [order] using ih hfrom hno

end Bytes

namespace ByteMap

variable {α : Type}

theorem mem_of_findIn {key : Bytes} {value : α} {entries : List (Bytes × α)}
    (h : findIn key entries = some value) : (key, value) ∈ entries := by
  induction entries with
  | nil => simp [findIn] at h
  | cons first rest ih =>
    obtain ⟨k, v⟩ := first
    rw [findIn] at h
    split at h
    · next hk => simp_all
    · exact List.mem_cons_of_mem _ (ih h)

theorem findIn_of_mem {key : Bytes} {value : α} {entries : List (Bytes × α)}
    (hs : Ascending entries) (h : (key, value) ∈ entries) : findIn key entries = some value := by
  induction entries with
  | nil => simp at h
  | cons first rest ih =>
    obtain ⟨k, v⟩ := first
    have hfirst := (List.pairwise_cons.mp hs).1
    rw [findIn]
    rcases List.mem_cons.mp h with heq | h
    · simp_all
    · have hne : k ≠ key := by
        rintro rfl
        exact Bytes.order_lt_irrefl k (hfirst _ h)
      rw [if_neg hne]
      exact ih (List.Pairwise.of_cons hs) h

theorem mem_entries_iff {m : ByteMap α} {key : Bytes} {value : α} :
    (key, value) ∈ m.entries ↔ m.find? key = some value :=
  ⟨findIn_of_mem m.ascending, mem_of_findIn⟩

theorem findIn_insertIn (key other : Bytes) (value : α) (entries : List (Bytes × α)) :
    findIn other (insertIn key value entries) =
      if other = key then some value else findIn other entries := by
  induction entries with
  | nil => simp [insertIn, findIn, eq_comm]
  | cons first rest ih =>
    obtain ⟨k, v⟩ := first
    rw [insertIn]
    split
    · simp [findIn, eq_comm]
    · next heq =>
      obtain rfl := Bytes.eq_of_order heq
      by_cases h : key = other <;> simp [findIn, h, eq_comm]
    · next hgt =>
      have hne : key ≠ k := by
        rintro rfl
        rw [Bytes.order_self] at hgt
        cases hgt
      by_cases h : k = other
      · subst h
        simp [findIn, Ne.symm hne]
      · simp [findIn, h, ih]

@[simp]
theorem find?_empty (key : Bytes) : (empty : ByteMap α).find? key = none := rfl

theorem find?_insert (m : ByteMap α) (key other : Bytes) (value : α) :
    (m.insert key value).find? other = if other = key then some value else m.find? other :=
  findIn_insertIn key other value m.entries

theorem find?_erase (m : ByteMap α) (key other : Bytes) :
    (m.erase key).find? other = if other = key then none else m.find? other := by
  have hm : ∀ value, (m.erase key).find? other = some value ↔
      other ≠ key ∧ m.find? other = some value := by
    intro value
    rw [← mem_entries_iff, ← mem_entries_iff]
    simp [erase, and_comm]
  split
  · next h => exact Option.eq_none_iff_forall_ne_some.mpr fun v hv => ((hm v).mp hv).1 h
  · next h => exact Option.ext fun v => by rw [hm]; exact and_iff_right h

theorem nodup_of_ascending {entries : List (Bytes × α)} (h : Ascending entries) : entries.Nodup := by
  refine List.Pairwise.imp (fun {a b} hlt => ?_) h
  rintro rfl
  exact Bytes.order_lt_irrefl _ hlt

theorem entries_ext {a b : List (Bytes × α)} (ha : Ascending a) (hb : Ascending b)
    (h : ∀ e, e ∈ a ↔ e ∈ b) : a = b := by
  have hp : a.Perm b :=
    (List.perm_ext_iff_of_nodup (nodup_of_ascending ha) (nodup_of_ascending hb)).mpr h
  refine hp.eq_of_pairwise (fun x y _ _ hxy hyx => ?_) ha hb
  exact absurd (Bytes.order_lt_trans hxy hyx) (Bytes.order_lt_irrefl _)

theorem takeWhile_eq_filter {lead : Bytes} {entries : List (Bytes × α)} (hs : Ascending entries)
    (hfrom : ∀ e ∈ entries, Bytes.order e.1 lead ≠ .lt) :
    entries.takeWhile (fun e => e.1.startsWith lead) =
      entries.filter fun e => e.1.startsWith lead := by
  induction entries with
  | nil => rfl
  | cons first rest ih =>
    have hrest := ih (List.Pairwise.of_cons hs) fun e he => hfrom e (List.mem_cons_of_mem _ he)
    cases hl : first.1.startsWith lead with
    | true => simp [hl, hrest]
    | false =>
      have hlater : ∀ e ∈ rest, e.1.startsWith lead = false := by
        refine fun e he => Bool.eq_false_iff.mpr fun hc => ?_
        obtain ⟨tail, htail⟩ := Bytes.startsWith_iff.mp hc
        have hlt := Bytes.order_append_lt (hfrom first List.mem_cons_self) hl tail
        rw [htail] at hlt
        exact Bytes.order_lt_irrefl _
          (Bytes.order_lt_trans hlt ((List.pairwise_cons.mp hs).1 e he))
      have hnone : rest.filter (fun e => e.1.startsWith lead) = [] :=
        List.filter_eq_nil_iff.mpr fun e he => by simp [hlater e he]
      simp [hl, hnone]

theorem scan_eq_filter (m : ByteMap α) (lead : Bytes) :
    m.scan lead = m.entries.filter fun e => e.1.startsWith lead := by
  have hdrop : ∀ {entries : List (Bytes × α)}, Ascending entries →
      (∀ e ∈ entries.dropWhile (fun e => Bytes.order e.1 lead == .lt),
        Bytes.order e.1 lead ≠ .lt) ∧
      (entries.dropWhile fun e => Bytes.order e.1 lead == .lt).filter
        (fun e => e.1.startsWith lead) = entries.filter fun e => e.1.startsWith lead := by
    intro entries hs
    induction entries with
    | nil => simp
    | cons first rest ih =>
      by_cases hlt : Bytes.order first.1 lead = .lt
      · have hno : first.1.startsWith lead = false := by
          refine Bool.eq_false_iff.mpr fun hc => ?_
          obtain ⟨tail, htail⟩ := Bytes.startsWith_iff.mp hc
          exact Bytes.order_append_ne_lt lead tail (htail ▸ hlt)
        simpa [hlt, hno] using ih (List.Pairwise.of_cons hs)
      · have hkeep : (Bytes.order first.1 lead == .lt) = false := by simpa using hlt
        refine ⟨?_, by simp [hkeep]⟩
        rw [List.dropWhile_cons_of_neg (by simp [hkeep])]
        intro e he
        rcases List.mem_cons.mp he with rfl | he
        · exact hlt
        · intro hc
          exact hlt (Bytes.order_lt_trans ((List.pairwise_cons.mp hs).1 e he) hc)
  obtain ⟨hfrom, hfilter⟩ := hdrop m.ascending
  have hs : Ascending (m.startingAt lead) :=
    List.Pairwise.sublist (List.dropWhile_sublist _) m.ascending
  rw [scan, takeWhile_eq_filter hs hfrom]
  exact hfilter

theorem mem_scan_iff {m : ByteMap α} {lead key : Bytes} {value : α} :
    (key, value) ∈ m.scan lead ↔ key.startsWith lead = true ∧ m.find? key = some value := by
  rw [scan_eq_filter, List.mem_filter, mem_entries_iff, and_comm]

theorem ascending_scan (m : ByteMap α) (lead : Bytes) : Ascending (m.scan lead) := by
  rw [scan_eq_filter]
  exact List.Pairwise.filter _ m.ascending

theorem findIn_scan (m : ByteMap α) (lead key : Bytes) :
    findIn key (m.scan lead) = if key.startsWith lead = true then m.find? key else none := by
  refine Option.ext fun value => ?_
  have hmem : findIn key (m.scan lead) = some value ↔ (key, value) ∈ m.scan lead :=
    ⟨mem_of_findIn, findIn_of_mem (ascending_scan m lead)⟩
  rw [hmem, mem_scan_iff]
  split
  · next hlead => simp [hlead]
  · next hlead => simp [hlead]

end ByteMap

namespace Store

theorem find?_apply (s : Store) (c : Change) (key : Bytes) :
    (s.apply c).find? key = if key = c.1 then c.2 else s.find? key := by
  obtain ⟨k, value⟩ := c
  cases value with
  | none => exact ByteMap.find?_erase s k key
  | some v => exact ByteMap.find?_insert s k key v

theorem find?_write (s : Store) {batch : List Change} (hs : Ascending batch) (key : Bytes) :
    (s.write batch).find? key = (ByteMap.findIn key batch).getD (s.find? key) := by
  induction batch generalizing s with
  | nil => rfl
  | cons c rest ih =>
    obtain ⟨k, value⟩ := c
    have hlater := (List.pairwise_cons.mp hs).1
    rw [show s.write ((k, value) :: rest) = (s.apply (k, value)).write rest from rfl,
      ih (s.apply (k, value)) (List.Pairwise.of_cons hs), find?_apply, ByteMap.findIn]
    by_cases hk : k = key
    · subst hk
      have hnone : ByteMap.findIn k rest = none := by
        refine Option.eq_none_iff_forall_ne_some.mpr fun v hv => ?_
        exact Bytes.order_lt_irrefl k (hlater _ (ByteMap.mem_of_findIn hv))
      simp [hnone]
    · simp [hk, Ne.symm hk]

end Store

end HybridSearch
