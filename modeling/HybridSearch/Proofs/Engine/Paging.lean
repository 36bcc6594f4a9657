import HybridSearch.Proofs.Engine.Current
import HybridSearch.Proofs.Engine.Execution
import HybridSearch.Proofs.Engine.Reachable
import HybridSearch.Proofs.TextIndex.Ranking

/-!
# Pages of a search

A page is cut from a ranking that is computed as far as the page reaches. The rankings of a full-text
search by different limits are beginnings of one another, so that its pages follow on from each other.
-/
namespace HybridSearch

namespace Indexes

variable (ranking : List Scored) (offset limit limit' : Nat)

theorem pageOf_take : pageOf ranking offset limit =
    ⟨(pageOf ranking offset (limit + limit')).hits.take limit,
      (pageOf ranking offset (limit + limit')).total⟩ := by
  rw [pageOf, pageOf]
  dsimp only
  rw [List.take_take, Nat.min_eq_left (Nat.le_add_right limit limit')]

theorem pageOf_drop : pageOf ranking (offset + limit) limit' =
    ⟨(pageOf ranking offset (limit + limit')).hits.drop limit,
      (pageOf ranking offset (limit + limit')).total⟩ := by
  rw [pageOf, pageOf]
  dsimp only
  rw [List.drop_take, Nat.add_sub_cancel_left, List.drop_drop]

theorem hits_pageOf_take :
    (pageOf (ranking.take (limit + offset)) offset limit).hits = (pageOf ranking offset limit).hits := by
  rw [pageOf, pageOf]
  dsimp only
  rw [List.drop_take, Nat.add_sub_cancel, List.take_take, Nat.min_self]

theorem pageOf_append : pageOf ranking offset (limit + limit') =
    ⟨(pageOf (ranking.take (limit + offset)) offset limit).hits ++
      (pageOf ranking (offset + limit) limit').hits,
      (pageOf ranking (offset + limit) limit').total⟩ := by
  rw [hits_pageOf_take, pageOf_take ranking offset limit limit', pageOf_drop, List.take_append_drop]

end Indexes

theorem TextIndex.checkLimit_min {n : Nat} (h : 1 ≤ n) : checkLimit (min n maxSearchLimit) = .ok () := by
  have hmost : 1 ≤ maxSearchLimit := by decide
  rw [checkLimit, if_pos (by omega)]

def SearchRequest.page (r : SearchRequest) (offset limit : Nat) : SearchRequest :=
  { r with offset, limit }

namespace Engine

variable {e : Engine} {cancelled : Bool} {r : SearchRequest} {nanos offset limit : Nat}

/-- The ids that a page shows, if it is answered. -/
def idsOf (answer : Except EngineError SearchPage) : Option (List String) :=
  answer.toOption.map fun p => p.hits.map fun s => s.document.id

def admits (e : Engine) (cancelled : Bool) : Except EngineError Unit :=
  if !e.isOpen then .error .shutDown else if cancelled then .error .cancelled else .ok ()

theorem admits_ok_iff : e.admits cancelled = .ok () ↔ e.isOpen = true ∧ cancelled = false := by
  rw [admits]
  cases e.isOpen <;> cases cancelled <;> simp

theorem ranked_page (ixs : Indexes) (config : EngineConfig) (r : SearchRequest)
    (offset limit window : Nat) :
    ixs.ranked config (r.page offset limit) window = ixs.ranked config r window := by
  cases r
  rfl

theorem search_fst (e : Engine) (cancelled : Bool) (r : SearchRequest) (nanos : Nat) :
    (e.search cancelled r nanos).1 =
      if !e.isOpen then .error .shutDown
      else (do
        let size ← e.config.pageSize r.limit
        if cancelled then .error .cancelled
        else
          (e.indexes.ranked e.config r (min (size + r.offset) maxSearchLimit)).1.map
            (Indexes.pageOf · r.offset size)) := by
  rw [Engine.search]
  cases e.isOpen with
  | false => rfl
  | true =>
    rw [Indexes.search]
    cases e.config.pageSize r.limit with
    | error cause => rfl
    | ok size =>
      cases cancelled with
      | true => rfl
      | false =>
        show _ = (e.indexes.ranked e.config r (min (size + r.offset) maxSearchLimit)).1.map
          (Indexes.pageOf · r.offset size)
        dsimp only
        rcases e.indexes.ranked e.config r (min (size + r.offset) maxSearchLimit) with
          ⟨cause | ranking, searched⟩ <;> rfl

theorem search_page (e : Engine) (cancelled : Bool) (r : SearchRequest) (nanos offset : Nat)
    (hlimit : 1 ≤ limit ∧ limit ≤ maxSearchLimit) :
    (e.search cancelled (r.page offset limit) nanos).1 = (do
      e.admits cancelled
      (e.indexes.ranked e.config r (min (limit + offset) maxSearchLimit)).1.map
        (Indexes.pageOf · offset limit)) := by
  have hsize : e.config.pageSize limit = .ok limit := by
    rw [EngineConfig.pageSize, if_neg (by omega), if_neg (by omega)]
  rw [search_fst, admits, ← ranked_page e.indexes e.config r offset limit, SearchRequest.page]
  dsimp only
  rw [hsize]
  cases e.isOpen <;> cases cancelled <;> rfl

theorem limit_le_of_search_page {p : SearchPage} (hlimit : 1 ≤ limit)
    (h : (e.search cancelled (r.page offset limit) nanos).1 = .ok p) : limit ≤ maxSearchLimit := by
  rw [search_fst] at h
  split at h
  · cases h
  · obtain ⟨size, hsize, -⟩ := exists_of_bind_ok h
    rw [EngineConfig.pageSize, SearchRequest.page] at hsize
    dsimp only at hsize
    split at hsize
    · omega
    · split at hsize
      · cases hsize
      · omega

theorem search_fullText_ok_iff (hmode : r.mode = .fullText) (hlimit : 1 ≤ limit) {p : SearchPage} :
    (e.search cancelled (r.page offset limit) nanos).1 = .ok p ↔
      (e.isOpen = true ∧ cancelled = false ∧ limit ≤ maxSearchLimit ∧
        e.indexes.text.Askable r.text r.tenant) ∧
      ∃ ranking, List.Forall₂ e.indexes.text.ShownAs
        (((e.indexes.text.foundRows r.text r.tenant).take maxSearchLimit).take (limit + offset)) ranking ∧
        p = Indexes.pageOf ranking offset limit := by
  have hwindow : TextIndex.checkLimit (min (limit + offset) maxSearchLimit) = .ok () :=
    TextIndex.checkLimit_min (by omega)
  have hranked : ∀ ranking, (e.indexes.ranked e.config r (min (limit + offset) maxSearchLimit)).1 =
      .ok ranking ↔ e.indexes.text.Askable r.text r.tenant ∧ List.Forall₂ e.indexes.text.ShownAs
        (((e.indexes.text.foundRows r.text r.tenant).take maxSearchLimit).take (limit + offset))
          ranking := by
    intro ranking
    rw [Indexes.ranked, hmode]
    show e.indexes.text.ranked r.text r.tenant (min (limit + offset) maxSearchLimit) = .ok ranking ↔ _
    rw [TextIndex.ranked_ok_iff, List.take_take]
    exact and_congr_right fun _ => and_iff_right hwindow
  constructor
  · intro h
    have hmost := limit_le_of_search_page hlimit h
    rw [search_page e cancelled r nanos offset ⟨hlimit, hmost⟩] at h
    obtain ⟨u, hadmits, h⟩ := exists_of_bind_ok h
    obtain ⟨hopen, hcancelled⟩ := admits_ok_iff.mp hadmits
    cases hranking : (e.indexes.ranked e.config r (min (limit + offset) maxSearchLimit)).1 with
    | error cause =>
      rw [hranking] at h
      cases h
    | ok ranking =>
      rw [hranking] at h
      obtain ⟨hask, hshown⟩ := (hranked ranking).mp hranking
      exact ⟨⟨hopen, hcancelled, hmost, hask⟩, ranking, hshown, (Except.ok.inj h).symm⟩
  · rintro ⟨⟨hopen, hcancelled, hmost, hask⟩, ranking, hshown, rfl⟩
    rw [search_page e cancelled r nanos offset ⟨hlimit, hmost⟩,
      admits_ok_iff.mpr ⟨hopen, hcancelled⟩, (hranked ranking).mpr ⟨hask, hshown⟩]
    rfl

/-- A full-text page shows the rows of its ranks, among the first that a search looks at. -/
theorem shown_of_fullText (hmode : r.mode = .fullText) (hlimit : 1 ≤ limit) {p : SearchPage}
    (h : (e.search cancelled (r.page offset limit) nanos).1 = .ok p) :
    List.Forall₂ e.indexes.text.ShownAs
      ((((e.indexes.text.foundRows r.text r.tenant).take maxSearchLimit).drop offset).take limit)
      p.hits := by
  obtain ⟨-, ranking, hshown, rfl⟩ := (search_fullText_ok_iff hmode hlimit).mp h
  have hcut := List.forall₂_take limit (List.forall₂_drop offset hshown)
  rw [List.drop_take, Nat.add_sub_cancel, List.take_take, Nat.min_self] at hcut
  exact hcut

end Engine

/-- A page of the documents from a rank on: no more than were asked for and none behind the last rank that
a search looks at, each once, the higher score first and ids that tie in byte order. -/
structure SearchPage.Ordered (p : SearchPage) (offset limit : Nat) : Prop where
  short : p.hits.length ≤ limit
  within : p.hits ≠ [] → offset + p.hits.length ≤ maxSearchLimit
  distinct : (p.hits.map fun s => s.document.id).Nodup
  ordered : p.hits.Pairwise (Ahead (fun s => s.score.rank) fun s => s.document.id)

namespace Engine

variable {e : Engine} {r : SearchRequest}

theorem Reached.ordered_fullText (h : e.Reached) {cancelled : Bool} (hmode : r.mode = .fullText)
    {nanos offset limit : Nat} (hlimit : 1 ≤ limit) {p : SearchPage}
    (hp : (e.search cancelled (r.page offset limit) nanos).1 = .ok p) : p.Ordered offset limit := by
  have hshown := shown_of_fullText hmode hlimit hp
  obtain ⟨hrows, hids⟩ := TextIndex.foundRows_ordered h.tables_reached r.text r.tenant
  have hcut : ((((e.indexes.text.foundRows r.text r.tenant).take maxSearchLimit).drop offset).take
      limit).Sublist (e.indexes.text.foundRows r.text r.tenant) :=
    ((List.take_sublist _ _).trans (List.drop_sublist _ _)).trans (List.take_sublist _ _)
  have hlength := hshown.length_eq
  rw [List.length_take, List.length_drop, List.length_take] at hlength
  exact {
    short := by omega
    within := fun hne => by
      have hpos := List.length_pos_iff.mpr hne
      omega
    distinct := by
      rw [TextIndex.map_id_shown hshown]
      exact hids.sublist (hcut.map _)
    ordered := TextIndex.pairwise_shown hshown (hrows.sublist hcut) }

theorem search_fullText_append (e : Engine) (cancelled : Bool) (hmode : r.mode = .fullText)
    (nanos offset : Nat) {limit limit' : Nat} (hlimit : 1 ≤ limit) (hlimit' : 1 ≤ limit')
    (hmost : limit + limit' ≤ maxSearchLimit) {p : SearchPage} :
    (e.search cancelled (r.page offset (limit + limit')) nanos).1 = .ok p ↔
      ∃ first next, (e.search cancelled (r.page offset limit) nanos).1 = .ok first ∧
        (e.search cancelled (r.page (offset + limit) limit') nanos).1 = .ok next ∧
        p = ⟨first.hits ++ next.hits, next.total⟩ := by
  have hend : limit' + (offset + limit) = limit + limit' + offset := by omega
  constructor
  · intro hp
    obtain ⟨⟨hopen, hcancelled, -, hask⟩, ranking, hshown, rfl⟩ :=
      (search_fullText_ok_iff hmode (Nat.le_add_right_of_le hlimit)).mp hp
    have hbeginning := List.forall₂_take (limit + offset) hshown
    rw [List.take_take, Nat.min_eq_left (by omega)] at hbeginning
    rw [← hend] at hshown
    refine ⟨_, _, (search_fullText_ok_iff hmode hlimit).mpr
      ⟨⟨hopen, hcancelled, by omega, hask⟩, _, hbeginning, rfl⟩,
      (search_fullText_ok_iff hmode hlimit').mpr
        ⟨⟨hopen, hcancelled, by omega, hask⟩, _, hshown, rfl⟩, ?_⟩
    exact Indexes.pageOf_append ranking offset limit limit'
  · rintro ⟨first, next, hfirst, hnext, rfl⟩
    obtain ⟨-, beginning, hbeginning, rfl⟩ := (search_fullText_ok_iff hmode hlimit).mp hfirst
    obtain ⟨⟨hopen, hcancelled, -, hask⟩, ranking, hshown, rfl⟩ :=
      (search_fullText_ok_iff hmode hlimit').mp hnext
    rw [hend] at hshown
    have hcut := List.forall₂_take (limit + offset) hshown
    rw [List.take_take, Nat.min_eq_left (by omega)] at hcut
    obtain rfl : beginning = ranking.take (limit + offset) :=
      List.right_unique_forall₂' TextIndex.rightUnique_shownAs hbeginning hcut
    refine (search_fullText_ok_iff hmode (Nat.le_add_right_of_le hlimit)).mpr
      ⟨⟨hopen, hcancelled, hmost, hask⟩, ranking, hshown, ?_⟩
    exact (Indexes.pageOf_append ranking offset limit limit').symm

/-- The full-text pages of an engine are in order, and a page is what two shorter ones show after each other,
however far into the ranking it is. All of them are answered if the documents can be read back. -/
theorem Reached.fullText_pages (h : e.Reached) (cancelled : Bool) (hmode : r.mode = .fullText)
    (nanos : Nat) :
    (∀ offset limit p, 1 ≤ limit → (e.search cancelled (r.page offset limit) nanos).1 = .ok p →
      p.Ordered offset limit) ∧
    (∀ offset limit limit' p, 1 ≤ limit → 1 ≤ limit' → limit + limit' ≤ maxSearchLimit →
      ((e.search cancelled (r.page offset (limit + limit')) nanos).1 = .ok p ↔
        ∃ first next, (e.search cancelled (r.page offset limit) nanos).1 = .ok first ∧
          (e.search cancelled (r.page (offset + limit) limit') nanos).1 = .ok next ∧
          p = ⟨first.hits ++ next.hits, next.total⟩)) ∧
    (e.isOpen = true → cancelled = false → e.indexes.text.Askable r.text r.tenant →
      e.indexes.text.tables.Readable → ∀ offset limit, 1 ≤ limit → limit ≤ maxSearchLimit →
        ∃ p, (e.search cancelled (r.page offset limit) nanos).1 = .ok p) := by
  refine ⟨fun offset limit p hlimit hp => h.ordered_fullText hmode hlimit hp,
    fun offset limit limit' p hlimit hlimit' hmost =>
      e.search_fullText_append cancelled hmode nanos offset hlimit hlimit' hmost, ?_⟩
  intro hopen hcancelled hask hreads offset limit hlimit hmost
  have hrows : ∀ found ∈ ((e.indexes.text.foundRows r.text r.tenant).take maxSearchLimit).take
      (limit + offset), found.1 ∈ e.indexes.text.tables.rows := fun found hfound =>
    TextIndex.mem_of_foundRows (List.mem_of_mem_take (List.mem_of_mem_take hfound))
  obtain ⟨ranking, hshown⟩ := TextIndex.exists_forall₂_shownAs hreads hrows
  exact ⟨_, (search_fullText_ok_iff hmode hlimit).mpr
    ⟨⟨hopen, hcancelled, hmost, hask⟩, ranking, hshown, rfl⟩⟩

theorem idle_smallEngine : smallEngine.Idle := (opened_smallEngine.faithful True).idle

def redDocument : Document := { smallDocument with embedding := none }

/-- Two documents that tie, and one that is not found. -/
def redTasks : List Task :=
  [.index { redDocument with id := "b" }, .index { redDocument with id := "c", content := "blue" },
    .index redDocument]

def redEngine : Engine := (smallEngine.run (redTasks.map fun t => .write t [])).engine

theorem reached_redEngine : redEngine.Reached := opened_smallEngine.reached.run _

theorem indexes_redEngine : redEngine.indexes = afterTasks smallEngine.indexes redTasks :=
  (idle_smallEngine.run redTasks).2.2

def redRequest : SearchRequest := { text := "red" }

theorem rows_redEngine : redEngine.indexes.text.tables.rows =
    [{ redDocument with id := "b" }, { redDocument with id := "c", content := "blue" },
      redDocument].map fun d : Document => TextRow.ofEntry d.toEntry := by
  rw [indexes_redEngine]
  decide +kernel

theorem readable_redEngine : redEngine.indexes.text.tables.Readable := by
  have hreads : ∀ d ∈ [{ redDocument with id := "b" },
      { redDocument with id := "c", content := "blue" }, redDocument], d.ReadsBack := by
    intro d hd
    simp only [List.mem_cons, List.not_mem_nil, or_false] at hd
    rcases hd with rfl | rfl | rfl
    · exact readsBack_smallDocument
    · exact readsBack_smallDocument
    · exact readsBack_smallDocument
  intro r hr
  rw [rows_redEngine] at hr
  obtain ⟨d, hd, rfl⟩ := List.mem_map.mp hr
  exact ⟨d, hreads d hd, rfl⟩

theorem length_foundRows_redEngine : (redEngine.indexes.text.foundRows "red" "").length = 2 := by
  have hterm : Query.Expression.ofText? "red" = some ⟨[.beginning ['r', 'e', 'd']], []⟩ := by
    decide +kernel
  rw [TextIndex.foundRows, hterm]
  dsimp only
  rw [TextIndex.rankedRows_eq, List.length_mergeSort, indexes_redEngine]
  decide +kernel

/-- Two pages of one document each show what one page of two shows. -/
theorem fullText_pages_redEngine : redRequest.mode = .fullText ∧ redEngine.Reached ∧
    ∃ p first next, (redEngine.search false (redRequest.page 0 (1 + 1)) 0).1 = .ok p ∧
      p.hits.length = 2 ∧
      (redEngine.search false (redRequest.page 0 1) 0).1 = .ok first ∧
      (redEngine.search false (redRequest.page (0 + 1) 1) 0).1 = .ok next ∧
      first.Ordered 0 1 ∧ next.Ordered (0 + 1) 1 ∧ p = ⟨first.hits ++ next.hits, next.total⟩ := by
  have hmode : redRequest.mode = .fullText := rfl
  obtain ⟨hordered, happend, hanswered⟩ := reached_redEngine.fullText_pages false hmode 0
  have hopen : redEngine.isOpen = true := (idle_smallEngine.run redTasks).1.isOpen
  have hask : redEngine.indexes.text.Askable redRequest.text redRequest.tenant := by
    refine ⟨by decide +kernel, .inl rfl, fun _ => ?_⟩
    rw [indexes_redEngine]
    decide +kernel
  obtain ⟨p, hp⟩ := hanswered hopen rfl hask readable_redEngine 0 (1 + 1) (by decide) (by decide)
  obtain ⟨first, next, hfirst, hnext, hwhole⟩ :=
    (happend 0 1 1 p (by decide) (by decide) (by decide)).mp hp
  refine ⟨hmode, reached_redEngine, p, first, next, hp, ?_, hfirst, hnext,
    hordered 0 1 first (by decide) hfirst, hordered (0 + 1) 1 next (by decide) hnext, hwhole⟩
  have hlength := (shown_of_fullText hmode (by decide) hp).length_eq
  rw [List.length_take, List.length_drop, List.length_take, redRequest, length_foundRows_redEngine]
    at hlength
  exact hlength.symm

end Engine

end HybridSearch
