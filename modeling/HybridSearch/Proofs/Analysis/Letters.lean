import HybridSearch.Analysis.Tokenizer
import HybridSearch.Tenant

/-!
# Tokenizers that keep letters

A tokenizer that is told about further token characters, but not about separators or categories, takes
every ASCII letter and digit for a part of a token. A tenant id has one of these, so it has a token.
-/
namespace HybridSearch.Analysis

/-- A specification that neither makes a character a separator nor chooses the categories. -/
def KeepsClasses (spec : String) : Prop :=
  ∀ words, specWords? spec = some words → ∀ word ∈ words,
    word.toLower ≠ "separators" ∧ word.toLower ≠ "categories"

theorem runs_some_ne_nil (starts continues : Char → Bool) (run cs : List Char) :
    runs starts continues (some run) cs ≠ [] := by
  induction cs generalizing run with
  | nil => exact List.cons_ne_nil _ _
  | cons c cs ih =>
    rw [runs]
    split
    · exact ih (c :: run)
    · exact List.cons_ne_nil _ _

theorem runs_ne_nil {starts continues : Char → Bool} {cs : List Char}
    (h : ∃ c ∈ cs, starts c = true) : runs starts continues none cs ≠ [] := by
  induction cs with
  | nil =>
    obtain ⟨c, hc, -⟩ := h
    cases hc
  | cons d cs ih =>
    rw [runs]
    by_cases hd : starts d = true
    · rw [if_pos hd]
      exact runs_some_ne_nil starts continues [d] cs
    · rw [if_neg hd]
      apply ih
      obtain ⟨c, hc, hstarts⟩ := h
      rcases List.mem_cons.mp hc with rfl | hmem
      · exact absurd hstarts hd
      · exact ⟨c, hmem, hstarts⟩

/-- The categories are the usual ones, and no ASCII character has been made a separator. -/
structure UnicodeOptions.KeepsLetters (o : UnicodeOptions) : Prop where
  categories : o.categories = ({} : UnicodeOptions).categories
  ascii : ∀ entry ∈ o.ascii, entry.2 = true

def BaseTokenizer.KeepsLetters : BaseTokenizer → Prop
  | .unicode o => o.KeepsLetters
  | .ascii overrides => ∀ entry ∈ overrides, entry.2 = true

theorem classOf_default :
    ∀ n < 0x80, Text.isAsciiAlphanumeric (Char.ofNat n) = true →
      ({} : UnicodeOptions).classOf (Char.ofNat n) = true := by
  decide +kernel

theorem getD_lookup {overrides : List (Char × Bool)} (h : ∀ entry ∈ overrides, entry.2 = true)
    {c : Char} {otherwise : Bool} (hc : otherwise = true) :
    (overrides.lookup c).getD otherwise = true := by
  induction overrides with
  | nil => exact hc
  | cons entry overrides ih =>
    obtain ⟨hentry, hrest⟩ := List.forall_mem_cons.mp h
    obtain ⟨d, isToken⟩ := entry
    rw [List.lookup_cons]
    split
    · exact hentry
    · exact ih hrest

theorem UnicodeOptions.KeepsLetters.isTokenChar {o : UnicodeOptions} (h : o.KeepsLetters) {c : Char}
    (hc : Text.isAsciiAlphanumeric c = true) : o.isTokenChar c = true := by
  have hlow := Text.toNat_lt_of_isAsciiAlphanumeric hc
  have hclass : o.classOf c = true := by
    have husual := classOf_default c.toNat hlow
    rw [Char.ofNat_toNat] at husual
    rw [UnicodeOptions.classOf, h.categories]
    exact husual hc
  rw [UnicodeOptions.isTokenChar, if_pos (by simpa [isAscii] using hlow)]
  exact getD_lookup h.ascii hclass

theorem isAsciiTokenChar_of_letter {overrides : List (Char × Bool)}
    (h : ∀ entry ∈ overrides, entry.2 = true) {c : Char} (hc : Text.isAsciiAlphanumeric c = true) :
    isAsciiTokenChar overrides c = true := by
  rw [isAsciiTokenChar, Bool.or_eq_true]
  exact .inr (getD_lookup h hc)

theorem BaseTokenizer.KeepsLetters.tokens_ne_nil {b : BaseTokenizer} (h : b.KeepsLetters)
    {cs : List Char} (hcs : ∃ c ∈ cs, Text.isAsciiAlphanumeric c = true) : b.tokens cs ≠ [] := by
  obtain ⟨c, hmem, hc⟩ := hcs
  cases b with
  | unicode o =>
    rw [BaseTokenizer.tokens, ne_eq, List.map_eq_nil_iff]
    exact runs_ne_nil ⟨c, hmem, UnicodeOptions.KeepsLetters.isTokenChar h hc⟩
  | ascii overrides =>
    rw [BaseTokenizer.tokens, ne_eq, List.map_eq_nil_iff]
    exact runs_ne_nil ⟨c, hmem, isAsciiTokenChar_of_letter h hc⟩

theorem UnicodeOptions.KeepsLetters.override {o : UnicodeOptions} (h : o.KeepsLetters) (c : Char) :
    (o.override true c).KeepsLetters := by
  rw [UnicodeOptions.override]
  split
  · exact ⟨h.categories, List.forall_mem_cons.mpr ⟨rfl, h.ascii⟩⟩
  · split
    · exact ⟨h.categories, h.ascii⟩
    · exact h

theorem UnicodeOptions.KeepsLetters.foldl_override {o : UnicodeOptions} (h : o.KeepsLetters)
    (cs : List Char) : (cs.foldl (UnicodeOptions.override true) o).KeepsLetters := by
  induction cs generalizing o with
  | nil => exact h
  | cons c cs ih => exact ih (h.override c)

theorem keepsLetters_unicodeArgument {o o' : UnicodeOptions} (h : o.KeepsLetters)
    {a : String × String} (hname : a.1 ≠ "separators") (ho : unicodeArgument? o a = some o') :
    o'.KeepsLetters := by
  rw [unicodeArgument?] at ho
  split at ho
  · obtain ⟨removal, -, rfl⟩ := Option.map_eq_some_iff.mp ho
    exact ⟨h.categories, h.ascii⟩
  · obtain rfl := Option.some.inj ho
    exact h.foldl_override _
  · next hseparators => exact absurd hseparators hname
  · obtain rfl := Option.some.inj ho
    exact h
  · cases ho

theorem keepsLetters_unicodeArguments {pairs : List (String × String)} {o o' : UnicodeOptions}
    (h : o.KeepsLetters) (hnames : ∀ a ∈ pairs, a.1 ≠ "separators")
    (ho : pairs.foldlM unicodeArgument? o = some o') : o'.KeepsLetters := by
  induction pairs generalizing o with
  | nil =>
    obtain rfl := Option.some.inj ho
    exact h
  | cons a pairs ih =>
    obtain ⟨hname, hrest⟩ := List.forall_mem_cons.mp hnames
    rw [List.foldlM_cons] at ho
    obtain ⟨next, hnext, ho⟩ := Option.bind_eq_some_iff.mp ho
    exact ih (keepsLetters_unicodeArgument h hname hnext) hrest ho

theorem keepsLetters_asciiArgument {overrides overrides' : List (Char × Bool)}
    (h : ∀ entry ∈ overrides, entry.2 = true) {a : String × String} (hname : a.1 ≠ "separators")
    (ho : asciiArgument? overrides a = some overrides') : ∀ entry ∈ overrides', entry.2 = true := by
  rw [asciiArgument?] at ho
  split at ho
  · obtain rfl := Option.some.inj ho
    intro entry hentry
    rcases List.mem_append.mp hentry with hnew | hold
    · obtain ⟨c, -, rfl⟩ := List.mem_map.mp (List.mem_reverse.mp hnew)
      rfl
    · exact h entry hold
  · next hseparators => exact absurd hseparators hname
  · cases ho

theorem keepsLetters_asciiArguments {pairs : List (String × String)}
    {overrides overrides' : List (Char × Bool)} (h : ∀ entry ∈ overrides, entry.2 = true)
    (hnames : ∀ a ∈ pairs, a.1 ≠ "separators")
    (ho : pairs.foldlM asciiArgument? overrides = some overrides') :
    ∀ entry ∈ overrides', entry.2 = true := by
  induction pairs generalizing overrides with
  | nil =>
    obtain rfl := Option.some.inj ho
    exact h
  | cons a pairs ih =>
    obtain ⟨hname, hrest⟩ := List.forall_mem_cons.mp hnames
    rw [List.foldlM_cons] at ho
    obtain ⟨next, hnext, ho⟩ := Option.bind_eq_some_iff.mp ho
    exact ih (keepsLetters_asciiArgument h hname hnext) hrest ho

theorem mem_of_argumentPairs? {words : List String} {pairs : List (String × String)}
    (h : argumentPairs? words = some pairs) {a : String × String} (ha : a ∈ pairs) :
    ∃ word ∈ words, a.1 = word.toLower := by
  induction words using argumentPairs?.induct generalizing pairs with
  | case1 =>
    obtain rfl := Option.some.inj h
    cases ha
  | case2 word => cases h
  | case3 name value rest ih =>
    rw [argumentPairs?] at h
    obtain ⟨others, hothers, rfl⟩ := Option.map_eq_some_iff.mp h
    rcases List.mem_cons.mp ha with rfl | hmem
    · exact ⟨name, List.mem_cons_self, rfl⟩
    · obtain ⟨word, hword, hname⟩ := ih hothers hmem
      exact ⟨word, List.mem_cons_of_mem _ (List.mem_cons_of_mem _ hword), hname⟩

theorem keepsLetters_baseOf {name : String} {arguments : List String} {b : BaseTokenizer}
    (h : baseOf name arguments = .ok b)
    (hwords : ∀ word ∈ arguments, word.toLower ≠ "separators" ∧ word.toLower ≠ "categories") :
    b.KeepsLetters := by
  have hnames : ∀ {pairs}, argumentPairs? arguments = some pairs →
      ∀ a ∈ pairs, a.1 ≠ "separators" ∧ a.1 ≠ "categories" := by
    intro pairs hpairs a ha
    obtain ⟨word, hword, hname⟩ := mem_of_argumentPairs? hpairs ha
    rw [hname]
    exact hwords word hword
  simp only [baseOf] at h
  split at h
  · cases h
  · cases h
  · next base hbuilt =>
    obtain rfl := Except.ok.inj h
    split at hbuilt
    · have hsome := Option.some.inj hbuilt
      obtain ⟨pairs, hpairs, hsome⟩ := Option.bind_eq_some_iff.mp hsome
      obtain ⟨start, hstart, hsome⟩ := Option.bind_eq_some_iff.mp hsome
      obtain ⟨o, ho, hbase⟩ := Option.bind_eq_some_iff.mp hsome
      obtain rfl := Option.some.inj hbase
      have husual : start.KeepsLetters := by
        have hnone : pairs.reverse.lookup "categories" = none := by
          rw [List.lookup_eq_none_iff]
          intro a ha
          rw [bne_iff_ne]
          exact ((hnames hpairs a (List.mem_reverse.mp ha)).2).symm
        rw [withCategories?, hnone] at hstart
        obtain rfl := Option.some.inj hstart
        exact ⟨rfl, by simp⟩
      exact keepsLetters_unicodeArguments husual (fun a ha => (hnames hpairs a ha).1) ho
    · have hsome := Option.some.inj hbuilt
      obtain ⟨pairs, hpairs, hsome⟩ := Option.bind_eq_some_iff.mp hsome
      obtain ⟨overrides, ho, hbase⟩ := Option.bind_eq_some_iff.mp hsome
      obtain rfl := Option.some.inj hbase
      exact keepsLetters_asciiArguments (by simp) (fun a ha => (hnames hpairs a ha).1) ho
    · cases hbuilt

theorem keepsLetters_ofSpec {spec : String} {t : Tokenizer} (h : Tokenizer.ofSpec spec = .ok t)
    (hspec : KeepsClasses spec) : t.base.KeepsLetters := by
  have husual : BaseTokenizer.KeepsLetters (.unicode {}) := ⟨rfl, by simp⟩
  rw [Tokenizer.ofSpec] at h
  split at h
  · cases h
  · obtain rfl := Except.ok.inj h
    exact husual
  · next name arguments hwords =>
    have harguments := (List.forall_mem_cons.mp (hspec _ hwords)).2
    by_cases hstems : name.toLower = "porter"
    · rw [if_pos hstems] at h
      cases arguments with
      | nil =>
        dsimp only at h
        split at h
        · next base hbase =>
          obtain rfl := Except.ok.inj h
          exact keepsLetters_baseOf hbase harguments
        · cases h
      | cons below arguments =>
        dsimp only at h
        split at h
        · next base hbase =>
          obtain rfl := Except.ok.inj h
          exact keepsLetters_baseOf hbase (List.forall_mem_cons.mp harguments).2
        · cases h
    · rw [if_neg hstems] at h
      cases hbase : baseOf name arguments with
      | error fault =>
        rw [hbase] at h
        cases h
      | ok base =>
        rw [hbase] at h
        obtain rfl := Except.ok.inj h
        exact keepsLetters_baseOf hbase harguments

theorem tokens_tenant_ne_nil {spec : String} {t : Tokenizer} (h : Tokenizer.ofSpec spec = .ok t)
    (hspec : KeepsClasses spec) {tenant : String} (htenant : Tenant.isValid tenant = true) :
    t.tokens tenant ≠ [] := by
  have hletter : ∃ c ∈ tenant.toList, Text.isAsciiAlphanumeric c = true := by
    simp only [Tenant.isValid, Bool.and_eq_true] at htenant
    exact List.any_eq_true.mp htenant.1.2
  have hbase := (keepsLetters_ofSpec h hspec).tokens_ne_nil hletter
  rw [Tokenizer.tokens, ne_eq, List.map_eq_nil_iff]
  split
  · rw [List.map_eq_nil_iff]
    exact hbase
  · exact hbase

end HybridSearch.Analysis
