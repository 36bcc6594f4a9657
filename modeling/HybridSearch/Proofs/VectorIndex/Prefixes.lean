import HybridSearch.Proofs.VectorIndex.Ownership

/-!
# Which prefixes share keys

A key is a prefix, a word for what the key is for, and for most of the words an id, which may be any text.
So two prefixes share keys when one of them goes on where a key of the other has its id. These are the only
ones: what is left of a word behind its first letters begins like no word.
-/
namespace HybridSearch

namespace KeySpace

def openWords : List String := ["vector:", "meta:", "neighbors:"]

def closedWords : List String := ["entrypoint", "count"]

/-- The prefix of one index begins like a key of the other that has an id. -/
def Nested (k l : KeySpace) : Prop :=
  ∃ word ∈ openWords, ∃ rest, k.lead = l.lead ++ Bytes.ofString word ++ rest

/-- One prefix goes on behind the other like a key that has an id. -/
def NestedPrefix (p q : String) : Prop := ∃ word ∈ openWords, ∃ rest, p = q ++ word ++ rest

theorem nestedPrefix_iff {p q : String} :
    NestedPrefix p q ↔ ∃ word ∈ openWords, (q ++ word).toList <+: p.toList := by
  refine exists_congr fun word => and_congr_right fun _ => ⟨?_, ?_⟩
  · rintro ⟨rest, rfl⟩
    rw [String.toList_append (s := q ++ word)]
    exact List.prefix_append _ _
  · rintro ⟨rest, hrest⟩
    refine ⟨String.ofList rest, String.toList_injective ?_⟩
    rw [String.toList_append, String.toList_ofList, hrest]

instance (p q : String) : Decidable (NestedPrefix p q) := decidable_of_iff _ nestedPrefix_iff.symm

theorem nested_ofPrefix {p q : String} : (ofPrefix p).Nested (ofPrefix q) ↔ NestedPrefix p q := by
  constructor
  · rintro ⟨word, hword, rest, hlead⟩
    have htext : Bytes.ofString p = Bytes.ofString (q ++ word) ++ rest := by
      rw [Bytes.ofString_append]
      exact hlead
    obtain ⟨text, rfl⟩ := Bytes.exists_text_of_append htext
    rw [← Bytes.ofString_append] at htext
    exact ⟨word, hword, text, Bytes.ofString_injective htext⟩
  · rintro ⟨word, hword, rest, rfl⟩
    exact ⟨word, hword, Bytes.ofString rest, by simp [ofPrefix, Bytes.ofString_append]⟩

theorem ofPrefix_injective {p q : String} (h : ofPrefix p = ofPrefix q) : p = q :=
  Bytes.ofString_injective (congrArg lead h)

def Apart (k l : KeySpace) : Prop := ∀ key, k.Owns key → ¬l.Owns key

variable {k l : KeySpace} {key : Bytes}

theorem owns_iff : k.Owns key ↔
    (∃ word ∈ openWords, k.lead ++ Bytes.ofString word <+: key) ∨
      ∃ word ∈ closedWords, key = k.lead ++ Bytes.ofString word := by
  simp [Owns, openWords, closedWords, Bytes.startsWith_iff, vectorLead, nodeLead, neighborsLead,
    entryPoint, count, or_assoc]

/-- A key of an index is its prefix and a word, and goes on behind the word only where an id may stand. -/
theorem Owns.word (h : k.Owns key) : ∃ word ∈ openWords ++ closedWords,
    k.lead ++ Bytes.ofString word <+: key ∧
      (word ∈ openWords ∨ key = k.lead ++ Bytes.ofString word) := by
  rcases owns_iff.mp h with ⟨word, hword, hkey⟩ | ⟨word, hword, rfl⟩
  · exact ⟨word, List.mem_append_left _ hword, hkey, .inl hword⟩
  · exact ⟨word, List.mem_append_right _ hword, List.prefix_rfl, .inr rfl⟩

theorem Owns.startsWith_lead (h : k.Owns key) : key.startsWith k.lead = true := by
  obtain ⟨word, -, hword, -⟩ := h.word
  exact Bytes.startsWith_iff.mpr ((List.prefix_append _ _).trans hword)

/-- No word begins with what a word has behind its first letters, nor the other way round. -/
theorem not_prefix_rest : ∀ word ∈ openWords ++ closedWords, ∀ other ∈ openWords ++ closedWords,
    ∀ n ∈ List.range (Bytes.ofString word).length, n ≠ 0 →
      ¬(Bytes.ofString word).drop n <+: Bytes.ofString other ∧
        ¬Bytes.ofString other <+: (Bytes.ofString word).drop n := by
  decide +kernel

theorem word_ne_nil : ∀ word ∈ openWords ++ closedWords, Bytes.ofString word ≠ [] := by decide +kernel

theorem nested_of_append {rest : Bytes} (hlead : k.lead = l.lead ++ rest) (hrest : rest ≠ [])
    (hk : k.Owns key) (hl : l.Owns key) : k.Nested l := by
  obtain ⟨word, hword, ⟨tail, rfl⟩, -⟩ := hk.word
  obtain ⟨other, hother, hprefix, hend⟩ := hl.word
  rw [hlead, List.append_assoc, List.append_assoc] at hprefix hend
  rw [List.prefix_append_right_inj] at hprefix
  have hstart : rest <+: rest ++ (Bytes.ofString word ++ tail) := List.prefix_append _ _
  rcases Nat.lt_or_ge rest.length (Bytes.ofString other).length with hshort | hlong
  · -- the longer prefix ends within a word of the shorter one, whose letters left begin no word
    obtain ⟨left, hleft⟩ := List.prefix_of_prefix_length_le hstart hprefix (Nat.le_of_lt hshort)
    have hapart := not_prefix_rest other hother word hword rest.length (List.mem_range.mpr hshort)
      fun hzero => hrest (List.length_eq_zero_iff.mp hzero)
    rw [← hleft, List.drop_left] at hapart
    rw [← hleft, List.prefix_append_right_inj] at hprefix
    rcases List.prefix_or_prefix_of_prefix hprefix (List.prefix_append _ tail) with h | h
    · exact absurd h hapart.1
    · exact absurd h hapart.2
  · rcases hend with hopen | hclosed
    · obtain ⟨inside, hinside⟩ := List.prefix_of_prefix_length_le hprefix hstart hlong
      exact ⟨other, hopen, inside, by rw [hlead, ← hinside, List.append_assoc]⟩
    · have hlength := congrArg List.length (List.append_cancel_left hclosed)
      have hnonempty := List.length_pos_iff.mpr (word_ne_nil word hword)
      rw [List.length_append, List.length_append] at hlength
      omega

theorem apart_of_not_nested (hne : k ≠ l) (hkl : ¬k.Nested l) (hlk : ¬l.Nested k) : k.Apart l := by
  intro key hk hl
  have hlead : k.lead ≠ l.lead := fun h => hne (by cases k; cases l; exact congrArg mk h)
  obtain ⟨word, -, hkword, -⟩ := hk.word
  obtain ⟨other, -, hlword, -⟩ := hl.word
  have hkprefix : k.lead <+: key := (List.prefix_append _ _).trans hkword
  have hlprefix : l.lead <+: key := (List.prefix_append _ _).trans hlword
  rcases List.prefix_or_prefix_of_prefix hkprefix hlprefix with ⟨rest, h⟩ | ⟨rest, h⟩
  · exact hlk (nested_of_append h.symm (fun hnil => hlead (by simpa [hnil] using h)) hl hk)
  · exact hkl (nested_of_append h.symm (fun hnil => hlead (by simpa [hnil] using h.symm)) hk hl)

end KeySpace

end HybridSearch
