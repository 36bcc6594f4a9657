import HybridSearch.Bytes

/-!
# Maps from byte strings, in key order

A map is a list of entries whose keys ascend bytewise, each key once, so a map has one form: maps that
look up the same are equal.
-/
namespace HybridSearch

/-- Entries in strictly ascending order of their keys. -/
def Ascending {α : Type} (entries : List (Bytes × α)) : Prop :=
  entries.Pairwise fun a b => Bytes.order a.1 b.1 = .lt

structure ByteMap (α : Type) where
  entries : List (Bytes × α)
  ascending : Ascending entries

namespace ByteMap

variable {α : Type}

def empty : ByteMap α := ⟨[], List.Pairwise.nil⟩

instance : Inhabited (ByteMap α) := ⟨empty⟩

def findIn (key : Bytes) : List (Bytes × α) → Option α
  | [] => none
  | (k, v) :: rest => if k = key then some v else findIn key rest

def insertIn (key : Bytes) (value : α) : List (Bytes × α) → List (Bytes × α)
  | [] => [(key, value)]
  | (k, v) :: rest =>
    match Bytes.order key k with
    | .lt => (key, value) :: (k, v) :: rest
    | .eq => (key, value) :: rest
    | .gt => (k, v) :: insertIn key value rest

theorem key_of_mem_insertIn {key : Bytes} {value : α} {entries : List (Bytes × α)}
    {e : Bytes × α} (h : e ∈ insertIn key value entries) : e.1 = key ∨ e ∈ entries := by
  induction entries with
  | nil => simp_all [insertIn]
  | cons first rest ih =>
    obtain ⟨k, v⟩ := first
    rw [insertIn] at h
    split at h
    · rcases List.mem_cons.mp h with rfl | h
      · exact .inl rfl
      · exact .inr h
    · rcases List.mem_cons.mp h with rfl | h
      · exact .inl rfl
      · exact .inr (List.mem_cons_of_mem _ h)
    · rcases List.mem_cons.mp h with rfl | h
      · exact .inr List.mem_cons_self
      · exact (ih h).imp id (List.mem_cons_of_mem _)

theorem ascending_insertIn (key : Bytes) (value : α) {entries : List (Bytes × α)}
    (h : Ascending entries) : Ascending (insertIn key value entries) := by
  induction entries with
  | nil => exact List.pairwise_singleton _ _
  | cons first rest ih =>
    obtain ⟨k, v⟩ := first
    have hrest := List.Pairwise.of_cons h
    have hk := (List.pairwise_cons.mp h).1
    rw [insertIn]
    split
    · next hlt =>
      refine List.pairwise_cons.mpr ⟨fun e he => ?_, h⟩
      rcases List.mem_cons.mp he with rfl | he
      · exact hlt
      · exact Bytes.order_lt_trans hlt (hk e he)
    · next heq =>
      refine List.pairwise_cons.mpr ⟨fun e he => ?_, hrest⟩
      rw [Bytes.eq_of_order heq]
      exact hk e he
    · next hgt =>
      refine List.pairwise_cons.mpr ⟨fun e he => ?_, ih hrest⟩
      rcases key_of_mem_insertIn he with rfl | he
      · exact Bytes.order_lt_iff_gt.mpr hgt
      · exact hk e he

def find? (m : ByteMap α) (key : Bytes) : Option α := findIn key m.entries

def insert (m : ByteMap α) (key : Bytes) (value : α) : ByteMap α :=
  ⟨insertIn key value m.entries, ascending_insertIn key value m.ascending⟩

def erase (m : ByteMap α) (key : Bytes) : ByteMap α :=
  ⟨m.entries.filter fun e => decide (e.1 ≠ key), List.Pairwise.filter _ m.ascending⟩

def size (m : ByteMap α) : Nat := m.entries.length

/-- The entries from a key on. -/
def startingAt (m : ByteMap α) (key : Bytes) : List (Bytes × α) :=
  m.entries.dropWhile fun e => Bytes.order e.1 key == .lt

/-- The entries whose keys start with `lead`: they stand together in key order, from `lead` on. -/
def scan (m : ByteMap α) (lead : Bytes) : List (Bytes × α) :=
  (m.startingAt lead).takeWhile fun e => e.1.startsWith lead

end ByteMap

end HybridSearch
