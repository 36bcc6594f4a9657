import HybridSearch.Proofs.TextIndex.Catalogue
import HybridSearch.Proofs.TextIndex.Reading

/-!
# A tenant among others

What a tenant reads from the text index depends on its own rows and on the times of their last writes.
Writing or removing a document of another tenant, under an id that is none of the tenant's, leaves both as
they are.
-/
namespace HybridSearch

namespace TextTables

variable {t t' t'' : TextTables} {tenant id : String} {e : TextEntry}

def owns (t : TextTables) (tenant id : String) : Bool :=
  t.rows.any fun r => r.tenant == tenant && r.id == id

/-- Tables with the same documents of a tenant, last written at the same times. -/
structure SameFor (tenant : String) (t t' : TextTables) : Prop where
  rows : t'.rows.filter (fun r => r.tenant == tenant) = t.rows.filter fun r => r.tenant == tenant
  times : ∀ id, t.owns tenant id = true → t'.updatedAt id = t.updatedAt id

theorem owns_eq (t : TextTables) (tenant id : String) :
    t.owns tenant id = (t.rows.filter fun r => r.tenant == tenant).any fun r => r.id == id :=
  List.any_filter.symm

theorem SameFor.owns (h : SameFor tenant t t') (id : String) : t'.owns tenant id = t.owns tenant id := by
  rw [owns_eq, owns_eq, h.rows]

theorem SameFor.refl (tenant : String) (t : TextTables) : SameFor tenant t t := ⟨rfl, fun _ _ => rfl⟩

theorem SameFor.symm (h : SameFor tenant t t') : SameFor tenant t' t :=
  ⟨h.rows.symm, fun id hid => (h.times id ((h.owns id).symm.trans hid)).symm⟩

theorem SameFor.trans (h : SameFor tenant t t') (h' : SameFor tenant t' t'') : SameFor tenant t t'' :=
  ⟨h'.rows.trans h.rows, fun id hid => (h'.times id ((h.owns id).trans hid)).trans (h.times id hid)⟩

/-- Other rows than those of an id are all that a tenant has, unless the id is one of its own. -/
theorem filter_other (hid : t.owns tenant id = false) :
    ((t.rows.filter fun r => decide (r.id ≠ id)).filter fun r => r.tenant == tenant) =
      t.rows.filter fun r => r.tenant == tenant := by
  rw [List.filter_filter]
  refine List.filter_congr fun r hr => ?_
  have hnone := List.any_eq_false.mp hid r hr
  by_cases hsame : r.id = id
  · simpa [hsame] using hnone
  · simp [hsame]

theorem sameFor_put (hid : t.owns tenant e.id = false) (htenant : e.tenant ≠ tenant) (now : Int) :
    SameFor tenant t (t.put e now) where
  rows := by
    have hnew : (TextRow.ofEntry e).tenant ≠ tenant := htenant
    rw [put, List.filter_append, filter_other hid, List.filter_cons_of_neg (by simpa using hnew)]
    exact List.append_nil _
  times id howned := by
    have hne : id ≠ e.id := by
      rintro rfl
      rw [hid] at howned
      cases howned
    rw [updatedAt_eq, updatedAt_eq, listingOf_put_of_ne _ _ hne]

theorem sameFor_remove (hid : t.owns tenant id = false) : SameFor tenant t (t.remove id) where
  rows := filter_other hid
  times other howned := by
    have hne : other ≠ id := by
      rintro rfl
      rw [hid] at howned
      cases howned
    rw [updatedAt_eq, updatedAt_eq, listingOf_remove, if_neg hne]

end TextTables

namespace TextIndex

variable {ix ix' ix'' : TextIndex} {tenant id : String}

/-- Indexes that a tenant cannot tell apart. -/
structure SameFor (tenant : String) (ix ix' : TextIndex) : Prop where
  isOpen : ix'.isOpen = ix.isOpen
  tables : ix.tables.SameFor tenant ix'.tables

theorem SameFor.refl (tenant : String) (ix : TextIndex) : SameFor tenant ix ix := ⟨rfl, .refl _ _⟩

theorem SameFor.trans (h : SameFor tenant ix ix') (h' : SameFor tenant ix' ix'') :
    SameFor tenant ix ix'' :=
  ⟨h'.isOpen.trans h.isOpen, h.tables.trans h'.tables⟩

theorem sameFor_index {e : TextEntry} (hid : ix.tables.owns tenant e.id = false)
    (htenant : e.tenant ≠ tenant) (h : ix.index e = .ok ix') : SameFor tenant ix ix' := by
  rw [index] at h
  obtain ⟨-, -, h⟩ := exists_of_bind_ok h
  obtain ⟨-, -, h⟩ := exists_of_bind_ok h
  obtain rfl := Except.ok.inj h
  exact ⟨rfl, TextTables.sameFor_put hid htenant _⟩

theorem sameFor_delete {held : Bool} (hid : ix.tables.owns tenant id = false)
    (h : ix.delete id = .ok (ix', held)) : SameFor tenant ix ix' := by
  rw [delete] at h
  obtain ⟨-, -, h⟩ := exists_of_bind_ok h
  obtain ⟨rfl, rfl⟩ := Prod.mk.inj (Except.ok.inj h)
  exact ⟨rfl, TextTables.sameFor_remove hid⟩

theorem find?_own (hnamed : tenant ≠ "") (rows : List TextRow) (id : String) :
    (rows.find? fun r => r.id == id && belongsTo tenant r) =
      (rows.filter fun r => r.tenant == tenant).find? fun r => r.id == id := by
  rw [List.find?_filter]
  congr 1
  funext r
  have hempty : tenant.isEmpty = false := by simpa [String.isEmpty_iff] using hnamed
  rw [belongsTo, hempty, Bool.false_or, Bool.and_comm, Bool.decide_and, Bool.decide_eq_true,
    Bool.decide_eq_true]

theorem SameFor.document (h : SameFor tenant ix ix') (hnamed : tenant ≠ "") (id : String) :
    ix'.document id tenant = ix.document id tenant := by
  rw [TextIndex.document, TextIndex.document, ensureOpen, ensureOpen, h.isOpen, find?_own hnamed,
    find?_own hnamed, h.tables.rows]
  cases hfind : (ix.tables.rows.filter fun r => r.tenant == tenant).find? fun r => r.id == id with
  | none => rfl
  | some r =>
    have howned : ix.tables.owns tenant r.id = true := by
      rw [TextTables.owns_eq]
      exact List.any_eq_true.mpr ⟨r, List.mem_of_find?_eq_some hfind, beq_self_eq_true _⟩
    simp only [TextTables.entryOf, h.tables.times r.id howned]

theorem SameFor.hydrate (h : SameFor tenant ix ix') (hnamed : tenant ≠ "") (metric : Metric)
    (neighbors : List Neighbor) : ix'.hydrate tenant metric neighbors = ix.hydrate tenant metric neighbors := by
  induction neighbors with
  | nil => rfl
  | cons n rest ih => rw [TextIndex.hydrate, TextIndex.hydrate, h.document hnamed, ih]

def readNeighbor (ix : TextIndex) (tenant : String) (metric : Metric) (n : Neighbor) :
    Except EngineError Scored := do
  let entry ← (ix.document n.id tenant).mapError .text
  return ⟨← entry.document, metric.similarity n.distance⟩

theorem document_of_not_owned (hopen : ix.isOpen = true) (hnamed : tenant ≠ "")
    (hid : ix.tables.owns tenant id = false) : ix.document id tenant = .error (.notFound id) := by
  have hfind : ((ix.tables.rows.filter fun r => r.tenant == tenant).find? fun r => r.id == id) = none := by
    rw [TextTables.owns_eq] at hid
    exact List.find?_eq_none.mpr (List.any_eq_false.mp hid)
  rw [document, ensureOpen, if_pos hopen, find?_own hnamed, hfind]
  rfl

theorem document_ne_notFound (hnamed : tenant ≠ "") (hid : ix.tables.owns tenant id = true)
    (other : String) : ix.document id tenant ≠ .error (.notFound other) := by
  rw [TextTables.owns_eq] at hid
  obtain ⟨r, hfind⟩ := Option.isSome_iff_exists.mp ((List.find?_isSome.trans List.any_eq_true.symm).mpr hid)
  rw [document, ensureOpen, find?_own hnamed, hfind]
  intro h
  split at h
  · simp only [TextTables.entryOf] at h
    split at h <;> cases h
  · cases h

theorem hydrate_eq_mapM (hopen : ix.isOpen = true) (hnamed : tenant ≠ "") (metric : Metric)
    (neighbors : List Neighbor) : ix.hydrate tenant metric neighbors =
      (neighbors.filter fun n => ix.tables.owns tenant n.id).mapM (ix.readNeighbor tenant metric) := by
  induction neighbors with
  | nil => rfl
  | cons n rest ih =>
    rw [hydrate]
    cases hid : ix.tables.owns tenant n.id with
    | false =>
      rw [document_of_not_owned hopen hnamed hid, List.filter_cons_of_neg (by simp [hid]), ← ih]
    | true =>
      have hkept : ((n :: rest).filter fun n => ix.tables.owns tenant n.id) =
          n :: rest.filter fun n => ix.tables.owns tenant n.id := List.filter_cons_of_pos hid
      rw [hkept, List.mapM_cons, readNeighbor, ih]
      split
      · next hnone => exact absurd hnone (document_ne_notFound hnamed hid _)
      · next herror =>
        rw [herror]
        rfl
      · next entry hentry =>
        rw [hentry]
        simp only [bind_assoc]
        rfl

/-- A closed index hydrates nothing, and an open one no other neighbors than the tenant's own. -/
theorem hydrate_own (hnamed : tenant ≠ "") (metric : Metric) {neighbors : List Neighbor}
    (hne : neighbors ≠ []) : ix.hydrate tenant metric neighbors =
      ix.ensureOpen.mapError EngineError.text >>= fun _ =>
        ix.hydrate tenant metric (neighbors.filter fun n => ix.tables.owns tenant n.id) := by
  cases hopen : ix.isOpen with
  | true =>
    rw [hydrate_eq_mapM hopen hnamed, hydrate_eq_mapM hopen hnamed, List.filter_filter, ensureOpen,
      if_pos hopen]
    simp only [Bool.and_self]
    rfl
  | false =>
    obtain ⟨n, rest, rfl⟩ := List.exists_cons_of_ne_nil hne
    have hclosed : ix.document n.id tenant = .error .closed := by
      rw [document, ensureOpen, hopen]
      rfl
    rw [hydrate, hclosed, ensureOpen, hopen]
    rfl

theorem hydrate_take (hopen : ix.isOpen = true) (hnamed : tenant ≠ "") {metric : Metric}
    {neighbors : List Neighbor} (hown : ∀ n ∈ neighbors, ix.tables.owns tenant n.id = true)
    {ranking : List Scored} (h : ix.hydrate tenant metric neighbors = .ok ranking) (k : Nat) :
    ix.hydrate tenant metric (neighbors.take k) = .ok (ranking.take k) ∧
      ranking.length = neighbors.length := by
  have hkept : ∀ ns : List Neighbor, (∀ n ∈ ns, ix.tables.owns tenant n.id = true) →
      ix.hydrate tenant metric ns = ns.mapM (ix.readNeighbor tenant metric) := by
    intro ns hns
    rw [hydrate_eq_mapM hopen hnamed, List.filter_eq_self.mpr hns]
  rw [hkept neighbors hown, mapM_ok_iff] at h
  rw [hkept _ fun n hn => hown n (List.mem_of_mem_take hn), mapM_ok_iff]
  exact ⟨List.forall₂_take k h, h.length_eq.symm⟩

end TextIndex

end HybridSearch
