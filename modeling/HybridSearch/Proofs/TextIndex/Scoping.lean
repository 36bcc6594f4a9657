import HybridSearch.Proofs.Analysis.Letters
import HybridSearch.Proofs.TextIndex.Tenants

/-!
# Searching in one tenant

A search in a tenant adds a phrase to the expression, made of the tokens of the tenant's name, and compares
the names. Every row of the tenant contains that phrase, so the phrase hides no row — unless the name has no
token at all: then nothing is found. The tokenizers that keep letters find a token in every name.
-/
namespace HybridSearch

variable {tenant : String} {r : TextRow}

theorem Phrase.startsAt_self (tokens : List Analysis.Token) :
    Phrase.startsAt false tokens tokens = true := by
  induction tokens with
  | nil => rfl
  | cons token tokens ih =>
    cases tokens with
    | nil => simp [Phrase.startsAt]
    | cons next tokens =>
      rw [Phrase.startsAt]
      · simpa using ih
      · simp

theorem Phrase.occursIn_own {t : Analysis.Tokenizer} (h : t.tokens r.tenant ≠ []) :
    Phrase.occursIn ⟨t.tokens r.tenant, false, .tenant⟩ (RowTokens.ofRow t r) = true := by
  obtain ⟨token, tokens, htokens⟩ := List.exists_cons_of_ne_nil h
  have hstarts := Phrase.startsAt_self (t.tokens r.tenant)
  rw [Phrase.occursIn, decide_eq_true_eq, Phrase.occurrences]
  dsimp only [RowTokens.ofRow]
  rw [htokens] at hstarts ⊢
  rw [Phrase.occurrencesIn, if_pos hstarts]
  omega

namespace RowFilter

variable {t : Analysis.Tokenizer} {e : Query.Expression}

theorem accepts_scoped (hnamed : tenant ≠ "") (row : RowTokens) :
    (ofExpression t e tenant).accepts row =
      ((ofExpression t e "").accepts row && (!(t.tokens tenant).isEmpty &&
        Phrase.occursIn ⟨t.tokens tenant, false, .tenant⟩ row)) := by
  have hsome : (ofExpression t e tenant).tenant = some ⟨t.tokens tenant, false, .tenant⟩ :=
    if_neg fun hempty => hnamed (String.isEmpty_iff.mp hempty)
  have hscoped : (ofExpression t e tenant).matchesTenant row =
      (!(t.tokens tenant).isEmpty && Phrase.occursIn ⟨t.tokens tenant, false, .tenant⟩ row) := by
    rw [matchesTenant, hsome]
    rfl
  have hunscoped : (ofExpression t e "").matchesTenant row = true := rfl
  rw [accepts, accepts, hscoped, hunscoped, Bool.and_true]
  rfl

/-- On the rows of the tenant, the phrase asks for no more than that the name has a token. -/
theorem accepts_scoped_own (hnamed : tenant ≠ "") (htenant : r.tenant = tenant) :
    (ofExpression t e tenant).accepts (RowTokens.ofRow t r) = true ↔
      (ofExpression t e "").accepts (RowTokens.ofRow t r) = true ∧ t.tokens tenant ≠ [] := by
  subst htenant
  rw [accepts_scoped hnamed, Bool.and_eq_true, Bool.and_eq_true, Bool.not_eq_true',
    List.isEmpty_eq_false_iff]
  constructor
  · rintro ⟨hunscoped, hsome, -⟩
    exact ⟨hunscoped, hsome⟩
  · rintro ⟨hunscoped, hsome⟩
    exact ⟨hunscoped, hsome, Phrase.occursIn_own hsome⟩

end RowFilter

namespace TextIndex

variable {ix : TextIndex} {t : TextTables} {e : Query.Expression}

theorem mem_rankedRows_iff :
    (∃ score, (r, score) ∈ rankedRows t e tenant) ↔
      r ∈ t.rows ∧ (RowFilter.ofExpression t.tokenizer e tenant).accepts
        (RowTokens.ofRow t.tokenizer r) = true ∧ belongsTo tenant r = true := by
  rw [rankedRows]
  simp only [List.mem_mergeSort, List.mem_map, List.mem_filter, Bool.and_eq_true]
  constructor
  · rintro ⟨score, found, ⟨⟨row, hrow, rfl⟩, haccepts, hbelongs⟩, heq⟩
    obtain rfl : row = r := congrArg Prod.fst heq
    exact ⟨hrow, haccepts, hbelongs⟩
  · rintro ⟨hrow, haccepts, hbelongs⟩
    exact ⟨_, _, ⟨⟨r, hrow, rfl⟩, haccepts, hbelongs⟩, rfl⟩

theorem belongsTo_iff (hnamed : tenant ≠ "") : belongsTo tenant r = true ↔ r.tenant = tenant := by
  constructor
  · intro h
    exact tenant_of_belongsTo h hnamed
  · rintro rfl
    rw [belongsTo, beq_self_eq_true, Bool.or_true]

/-- Narrowing to a tenant keeps exactly its rows, as long as its name has a token. -/
theorem mem_rankedRows_scoped (hnamed : tenant ≠ "") :
    (∃ score, (r, score) ∈ rankedRows t e tenant) ↔
      (∃ score, (r, score) ∈ rankedRows t e "") ∧ r.tenant = tenant ∧
        t.tokenizer.tokens tenant ≠ [] := by
  rw [mem_rankedRows_iff, mem_rankedRows_iff, belongsTo_iff hnamed]
  constructor
  · rintro ⟨hrow, haccepts, htenant⟩
    obtain ⟨hunscoped, hsome⟩ := (RowFilter.accepts_scoped_own hnamed htenant).mp haccepts
    exact ⟨⟨hrow, hunscoped, rfl⟩, htenant, hsome⟩
  · rintro ⟨⟨hrow, hunscoped, -⟩, htenant, hsome⟩
    exact ⟨hrow, (RowFilter.accepts_scoped_own hnamed htenant).mpr ⟨hunscoped, hsome⟩, htenant⟩

theorem length_rankedRows : (rankedRows t e tenant).length =
    (t.rows.map fun r => (r, RowTokens.ofRow t.tokenizer r)).countP fun r =>
      (RowFilter.ofExpression t.tokenizer e tenant).accepts r.2 && belongsTo tenant r.1 := by
  rw [rankedRows, List.length_mergeSort, List.length_map, List.countP_eq_length_filter]

theorem length_rankedRows_le : (rankedRows t e tenant).length ≤ t.rows.length := by
  rw [length_rankedRows]
  exact Nat.le_trans List.countP_le_length (Nat.le_of_eq (List.length_map _))

theorem length_rankedRows_scoped_le (hnamed : tenant ≠ "") :
    (rankedRows t e tenant).length ≤ (rankedRows t e "").length := by
  rw [length_rankedRows, length_rankedRows]
  refine List.countP_mono_left fun row hrow hfound => ?_
  obtain ⟨haccepts, -⟩ := Bool.and_eq_true_iff.mp hfound
  rw [RowFilter.accepts_scoped hnamed] at haccepts
  exact Bool.and_eq_true_iff.mpr ⟨(Bool.and_eq_true_iff.mp haccepts).1, rfl⟩

variable {cancelled : Bool} {query : String} {limit : Nat} {hits : List TextHit}

def readHit (ix : TextIndex) (r : TextRow × Binary64) : Except TextError TextHit := do
  return ⟨← ix.tables.entryOf "read search row" r.1, r.2⟩

theorem search_ok_iff (htenant : tenant = "" ∨ Tenant.isValid tenant = true) :
    ix.search cancelled query tenant limit = .ok hits ↔
      Text.isBlank query.toList = false ∧ checkLimit limit = .ok () ∧
        ((Query.Expression.ofText? query = none ∧ hits = []) ∨
          ∃ e, Query.Expression.ofText? query = some e ∧ cancelled = false ∧ ix.isOpen = true ∧
            ((rankedRows ix.tables e tenant).take limit).mapM ix.readHit = .ok hits) := by
  have haccepted : (!tenant.isEmpty && !Tenant.isValid tenant) = false := by
    rcases htenant with rfl | hvalid
    · rfl
    · rw [hvalid, Bool.not_true, Bool.and_false]
  rw [search]
  cases hblank : Text.isBlank query.toList with
  | true =>
    constructor
    · intro h
      cases h
    · rintro ⟨hquery, -⟩
      cases hquery
  | false =>
    cases hlimit : checkLimit limit with
    | error fault =>
      constructor
      · intro h
        cases h
      · rintro ⟨-, hok, -⟩
        cases hok
    | ok _ =>
      simp only [haccepted, Bool.false_eq_true, if_false, true_and]
      cases he : Query.Expression.ofText? query with
      | none =>
        constructor
        · intro h
          exact .inl ⟨rfl, (Except.ok.inj h).symm⟩
        · rintro (⟨-, rfl⟩ | ⟨e, hsome, -⟩)
          · rfl
          · cases hsome
      | some e =>
        cases cancelled with
        | true =>
          constructor
          · intro h
            cases h
          · rintro (⟨hnone, -⟩ | ⟨-, -, hcancelled, -⟩)
            · cases hnone
            · cases hcancelled
        | false =>
          show (ix.ensureOpen >>= fun _ =>
            ((rankedRows ix.tables e tenant).take limit).mapM ix.readHit) = .ok hits ↔ _
          constructor
          · intro h
            obtain ⟨u, hopen, h⟩ := exists_of_bind_ok h
            refine .inr ⟨e, rfl, rfl, ?_, h⟩
            rw [ensureOpen] at hopen
            split at hopen
            · assumption
            · cases hopen
          · rintro (⟨hnone, -⟩ | ⟨e', hsome, -, hopen, h⟩)
            · cases hnone
            · obtain rfl := Option.some.inj hsome
              rw [ensureOpen, if_pos hopen]
              exact h

theorem exists_hit_iff (hall : (rankedRows ix.tables e tenant).length ≤ limit)
    (h : ((rankedRows ix.tables e tenant).take limit).mapM ix.readHit = .ok hits) {entry : TextEntry} :
    (∃ hit ∈ hits, hit.entry = entry) ↔
      ∃ r, (∃ score, (r, score) ∈ rankedRows ix.tables e tenant) ∧
        ix.tables.entryOf "read search row" r = .ok entry := by
  rw [List.take_of_length_le hall] at h
  constructor
  · rintro ⟨hit, hhit, rfl⟩
    obtain ⟨⟨r, score⟩, hr, hread⟩ := exists_of_mapM_ok h hhit
    obtain ⟨found, hfound, hpair⟩ := exists_of_bind_ok hread
    obtain rfl := Except.ok.inj hpair
    exact ⟨r, ⟨score, hr⟩, hfound⟩
  · rintro ⟨r, ⟨score, hr⟩, hentry⟩
    obtain ⟨hit, hhit, hread⟩ := exists_mem_of_mapM_ok h hr
    obtain ⟨found, hfound, hpair⟩ := exists_of_bind_ok hread
    obtain rfl := Except.ok.inj hpair
    rw [hentry] at hfound
    exact ⟨_, hhit, (Except.ok.inj hfound).symm⟩

/-- The rows that an expression finds in a tenant, as they stand in the table. -/
def foundIn (t : TextTables) (e : Query.Expression) (tenant : String) : List TextRow :=
  t.rows.filter fun r => (RowFilter.ofExpression t.tokenizer e tenant).accepts
    (RowTokens.ofRow t.tokenizer r) && belongsTo tenant r

theorem rankedRows_perm (t : TextTables) (e : Query.Expression) (tenant : String) :
    ((rankedRows t e tenant).map Prod.fst).Perm (foundIn t e tenant) := by
  rw [rankedRows]
  refine ((List.mergeSort_perm _ _).map _).trans (List.Perm.of_eq ?_)
  rw [List.map_map, List.filter_map, List.map_map]
  exact List.map_id _

theorem exists_search_perm (hopen : ix.isOpen = true) (htenant : tenant = "" ∨ Tenant.isValid tenant = true)
    (hquery : Text.isBlank query.toList = false) (hlimit : checkLimit limit = .ok ())
    (he : Query.Expression.ofText? query = some e) (hroom : ix.tables.rows.length ≤ limit)
    (hread : ∀ r ∈ ix.tables.rows, r.metadata?.isSome = true) :
    ∃ hits, ix.search false query tenant limit = .ok hits ∧
      (hits.map (·.entry.id)).Perm ((foundIn ix.tables e tenant).map (·.id)) := by
  have hall : (rankedRows ix.tables e tenant).length ≤ limit := Nat.le_trans length_rankedRows_le hroom
  obtain ⟨hits, hhits⟩ : ∃ hits, (rankedRows ix.tables e tenant).mapM ix.readHit = .ok hits := by
    refine exists_mapM_ok fun r hr => ?_
    obtain ⟨metadata, hmetadata⟩ := Option.isSome_iff_exists.mp (hread r.1 (mem_rankedRows hr).1)
    rw [readHit, TextTables.entryOf, hmetadata]
    exact ⟨_, rfl⟩
  have hids : hits.map (·.entry.id) = (rankedRows ix.tables e tenant).map (·.1.id) := by
    rw [← List.forall₂_eq_eq_eq, List.forall₂_map_left_iff, List.forall₂_map_right_iff]
    refine (mapM_ok_iff.mp hhits).flip.imp fun hit r hhit => ?_
    obtain ⟨entry, hentry, hpair⟩ := exists_of_bind_ok hhit
    obtain rfl := Except.ok.inj hpair
    exact id_entryOf hentry
  refine ⟨hits, (search_ok_iff htenant).mpr ⟨hquery, hlimit, .inr ⟨e, he, rfl, hopen, ?_⟩⟩, ?_⟩
  · rwa [List.take_of_length_le hall]
  · rw [hids]
    have hperm := (rankedRows_perm ix.tables e tenant).map (·.id)
    rwa [List.map_map] at hperm

/-- When a search of all tenants answers, with room for all that it finds, the search in a tenant answers
too. It finds the same documents as far as they are the tenant's, provided that the tokenizer finds a token
in the tenant's name, and none otherwise; a tokenizer that keeps letters finds one in every name. -/
theorem search_scoped {all : List TextHit} (htenant : Tenant.isValid tenant = true)
    (hroom : ∀ e, Query.Expression.ofText? query = some e →
      (rankedRows ix.tables e "").length ≤ limit)
    (h : ix.search cancelled query "" limit = .ok all) :
    ∃ mine, ix.search cancelled query tenant limit = .ok mine ∧
      (∀ entry, (∃ hit ∈ mine, hit.entry = entry) ↔
        (∃ hit ∈ all, hit.entry = entry) ∧ entry.tenant = tenant ∧
          ix.tables.tokenizer.tokens tenant ≠ []) ∧
      ∀ spec, Analysis.Tokenizer.ofSpec spec = .ok ix.tables.tokenizer → Analysis.KeepsClasses spec →
        ix.tables.tokenizer.tokens tenant ≠ [] := by
  have hnamed : tenant ≠ "" := by
    rintro rfl
    exact absurd htenant (by decide)
  have hletters : ∀ spec, Analysis.Tokenizer.ofSpec spec = .ok ix.tables.tokenizer →
      Analysis.KeepsClasses spec → ix.tables.tokenizer.tokens tenant ≠ [] :=
    fun spec hspec hkeeps => Analysis.tokens_tenant_ne_nil hspec hkeeps htenant
  obtain ⟨hquery, hlimit, hfound⟩ := (search_ok_iff (.inl rfl)).mp h
  rcases hfound with ⟨he, rfl⟩ | ⟨e, he, hcancelled, hopen, hrows⟩
  · refine ⟨[], (search_ok_iff (.inr htenant)).mpr ⟨hquery, hlimit, .inl ⟨he, rfl⟩⟩, ?_, hletters⟩
    intro entry
    simp
  · have hall := hroom e he
    have hmine := Nat.le_trans (length_rankedRows_scoped_le (t := ix.tables) (e := e) hnamed) hall
    -- a row that the tenant finds has been read for all tenants as well
    have hread : ∀ r ∈ rankedRows ix.tables e tenant, ∃ hit, ix.readHit r = .ok hit := by
      rintro ⟨r, score⟩ hr
      obtain ⟨⟨score', hr'⟩, -⟩ := (mem_rankedRows_scoped hnamed).mp ⟨score, hr⟩
      rw [List.take_of_length_le hall] at hrows
      obtain ⟨hit, -, hhit⟩ := exists_mem_of_mapM_ok hrows hr'
      obtain ⟨entry, hentry, -⟩ := exists_of_bind_ok hhit
      exact ⟨⟨entry, score⟩, by rw [readHit, hentry]; rfl⟩
    obtain ⟨mine, hscoped⟩ := exists_mapM_ok fun r hr => hread r (List.mem_of_mem_take hr)
    refine ⟨mine, (search_ok_iff (.inr htenant)).mpr
      ⟨hquery, hlimit, .inr ⟨e, he, hcancelled, hopen, hscoped⟩⟩, ?_, hletters⟩
    intro entry
    rw [exists_hit_iff hmine hscoped, exists_hit_iff hall hrows]
    constructor
    · rintro ⟨r, hr, hentry⟩
      obtain ⟨hunscoped, howner, hsome⟩ := (mem_rankedRows_scoped hnamed).mp hr
      exact ⟨⟨r, hunscoped, hentry⟩, (tenant_entryOf hentry).trans howner, hsome⟩
    · rintro ⟨⟨r, hunscoped, hentry⟩, howner, hsome⟩
      have hr : r.tenant = tenant := (tenant_entryOf hentry).symm.trans howner
      exact ⟨r, (mem_rankedRows_scoped hnamed).mpr ⟨hunscoped, hr, hsome⟩, hentry⟩

def refundEntry : TextEntry where
  id := "a"
  tenant := "t1"
  kind := "document"
  title := ""
  content := "refund policy"

def refundIndex (config : TextConfig) : Except TextError TextIndex := do
  let opened ← TextIndex.open config none 0
  opened.index refundEntry

/-- Two entries of one tenant and, between them, one of another. -/
def sharedEntries : List TextEntry :=
  let entry := { refundEntry with kind := "file", content := "refund" }
  [entry, { entry with id := "b", tenant := "t2" }, { entry with id := "c" }]

def sharedIndex : Except TextError TextIndex := do
  let opened ← TextIndex.open {} none 0
  sharedEntries.foldlM index opened

/-- Of three entries that are found in all tenants, two are found in their tenant. -/
theorem search_scoped_refund :
    ∃ ix all mine, sharedIndex = .ok ix ∧ ix.search false "refund" "" 10 = .ok all ∧
      (all.map (·.entry.id)).Perm ["a", "b", "c"] ∧ ix.search false "refund" "t1" 10 = .ok mine ∧
      (mine.map (·.entry.id)).Perm ["a", "c"] ∧
      ∀ entry, (∃ hit ∈ mine, hit.entry = entry) ↔
        (∃ hit ∈ all, hit.entry = entry) ∧ entry.tenant = "t1" ∧
          ix.tables.tokenizer.tokens "t1" ≠ [] := by
  have hfacts : (sharedIndex.toOption.bind fun ix => (Query.Expression.ofText? "refund").map fun e =>
      (ix.isOpen, ix.tables.rows.all (·.metadata?.isSome), ix.tables.rows.length,
        (foundIn ix.tables e "").map (·.id), (foundIn ix.tables e "t1").map (·.id))) =
          some (true, true, 3, ["a", "b", "c"], ["a", "c"]) := by decide +kernel
  obtain ⟨ix, hix, hfacts⟩ := Option.bind_eq_some_iff.mp hfacts
  obtain ⟨e, he, hfacts⟩ := Option.map_eq_some_iff.mp hfacts
  simp only [Prod.mk.injEq, List.all_eq_true] at hfacts
  obtain ⟨hopen, hread, hrows, hall, hown⟩ := hfacts
  have hvalid : Tenant.isValid "t1" = true := by decide
  have hroom : ix.tables.rows.length ≤ 10 := by omega
  obtain ⟨all, hunscoped, hallIds⟩ :=
    exists_search_perm hopen (.inl rfl) (by decide) rfl he hroom hread
  obtain ⟨own, hscoped, hownIds⟩ :=
    exists_search_perm hopen (.inr hvalid) (by decide) rfl he hroom hread
  obtain ⟨mine, hmine, hfound, -⟩ :=
    search_scoped hvalid (fun _ _ => Nat.le_trans length_rankedRows_le hroom) hunscoped
  obtain rfl : own = mine := Except.ok.inj (hscoped.symm.trans hmine)
  exact ⟨ix, all, own, ok_of_toOption hix, hunscoped, hall ▸ hallIds, hscoped, hown ▸ hownIds, hfound⟩

/-- Settings for which no character of the tenant is part of a token. -/
def separatingConfig : TextConfig := { tokenizer := "unicode61 separators t1" }

/-- The settings are accepted, and what a search of all tenants finds in the tenant, a search in the tenant
does not find. -/
theorem search_t1_empty :
    separatingConfig.validate = .ok () ∧ Tenant.isValid "t1" = true ∧
      ∃ ix all, refundIndex separatingConfig = .ok ix ∧ ix.search false "refund" "" 10 = .ok all ∧
        all.map (·.entry.tenant) = ["t1"] ∧ ix.search false "refund" "t1" 10 = .ok [] := by
  obtain ⟨u, hconfig⟩ := exists_of_isOk
    (show separatingConfig.validate.isOk = true by decide +kernel)
  -- both searches in one evaluation
  have hsearches : ((refundIndex separatingConfig).toOption.bind fun ix =>
      (ix.search false "refund" "" 10).toOption.bind fun all =>
        (ix.search false "refund" "t1" 10).toOption.map fun mine =>
          (all.map (·.entry.tenant), mine.length)) = some (["t1"], 0) := by decide +kernel
  obtain ⟨ix, hix, hsearches⟩ := Option.bind_eq_some_iff.mp hsearches
  obtain ⟨all, hsearch, hscoped⟩ := Option.bind_eq_some_iff.mp hsearches
  obtain ⟨mine, hmine, hboth⟩ := Option.map_eq_some_iff.mp hscoped
  obtain ⟨hall, hlength⟩ := Prod.mk.inj hboth
  obtain rfl := List.length_eq_zero_iff.mp hlength
  exact ⟨hconfig, by decide, ix, all, ok_of_toOption hix, ok_of_toOption hsearch, hall,
    ok_of_toOption hmine⟩

end TextIndex

end HybridSearch
