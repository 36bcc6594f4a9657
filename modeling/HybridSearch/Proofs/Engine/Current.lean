import HybridSearch.Proofs.Engine.Fusion
import HybridSearch.Proofs.Engine.History
import HybridSearch.Proofs.Json.ReadBack
import HybridSearch.Proofs.TextIndex.Reading

/-!
# Readers see the current versions

Whatever a search, a look-up or a listing returns is the document that the last accepted write of its id
brought. A vector that a failed write has left behind is never returned with a later document.
-/
namespace HybridSearch

namespace Indexes

variable {ixs : Indexes} {s : Holding}

theorem Ranks.isOf (h : ixs.Holds s) (hreads : ∀ {id d}, s.documents id = some d → d.ReadsBack)
    {request : SearchRequest} {shown : Document} (hshown : ixs.Ranks request shown) :
    shown.IsOf s.documents := by
  cases hshown with
  | text hranking hx => exact TextIndex.ranked_isOf h.lists hreads hranking hx
  | vector hranking hx =>
    obtain ⟨metric, neighbors, hhydrate⟩ := vectorRanked_ok hranking
    exact TextIndex.hydrate_isOf h.lists hreads hhydrate hx

end Indexes

/-- The vector index has an embedding under an id, or none. -/
def VectorIndex.Keeps (ix : VectorIndex) (store : StoreHandle) (id : String) : Option Embedding → Prop
  | some v => ix.get store id = .ok v
  | none => ix.get store id = .error (.notFound id)

namespace Indexes

variable {ixs : Indexes} {s : Holding}

theorem Holds.keeps (h : ixs.Holds s) (id : String) :
    ixs.vector.Keeps ixs.store id (s.embeddings id) := by
  obtain ⟨g, hready, hg⟩ := h.stores
  rw [← hg, Graph.embedding?]
  by_cases hid : id ∈ g.ids
  · rw [if_pos hid]
    exact hready.get_of_mem hid
  · rw [if_neg hid]
    exact hready.get_of_not_mem hid

theorem Holds.contains (h : ixs.Holds s) (id : String) :
    ixs.vector.contains ixs.store id = .ok (s.embeddings id).isSome := by
  obtain ⟨g, hready, hg⟩ := h.stores
  rw [← hg, Graph.embedding?, hready.contains_eq]
  by_cases hid : id ∈ g.ids
  · rw [if_pos hid, decide_eq_true hid]
    rfl
  · rw [if_neg hid, decide_eq_false hid]
    rfl

theorem document_of_none (h : ixs.Holds s) {id : String} (hid : s.documents id = none)
    (tenant : String) : ixs.document id tenant = .error (.text (.notFound id)) := by
  rw [Indexes.document, TextIndex.document_of_none h.lists h.isOpen hid]
  rfl

theorem document_isOf (h : ixs.Holds s) (hreads : ∀ {id d}, s.documents id = some d → d.ReadsBack)
    {id tenant : String} {shown : Document} (hshown : ixs.document id tenant = .ok shown) :
    ∃ d, s.documents id = some d ∧ shown.id = id ∧
      shown = { d with embedding := s.embeddings id, timestamp := shown.timestamp } := by
  rw [Indexes.document] at hshown
  obtain ⟨entry, hentry, hshown⟩ := exists_of_bind_ok hshown
  obtain ⟨found, hfound, hshown⟩ := exists_of_bind_ok hshown
  obtain ⟨hof, hid⟩ := TextIndex.document_isOf h.lists hreads (ok_of_mapError hentry)
  obtain ⟨⟨d, hd, hsame⟩, hname⟩ := hof.document hfound
  rw [hname, hid] at hd
  have hkeeps := h.keeps id
  cases hv : s.embeddings id with
  | none =>
    rw [hv, VectorIndex.Keeps] at hkeeps
    rw [hkeeps] at hshown
    obtain rfl := Except.ok.inj hshown
    exact ⟨d, hd, hname.trans hid, hsame⟩
  | some v =>
    rw [hv, VectorIndex.Keeps] at hkeeps
    rw [hkeeps] at hshown
    obtain rfl := Except.ok.inj hshown
    refine ⟨d, hd, hname.trans hid, ?_⟩
    rw [hsame]

theorem tenantDocuments_isOf (h : ixs.Holds s)
    (hreads : ∀ {id d}, s.documents id = some d → d.ReadsBack) {config : EngineConfig}
    {tenant : String} {limit offset : Nat} {documents : List Document}
    (hdocuments : ixs.tenantDocuments config tenant limit offset = .ok documents) {shown : Document}
    (hshown : shown ∈ documents) : shown.IsOf s.documents := by
  rw [Indexes.tenantDocuments] at hdocuments
  obtain ⟨size, -, hdocuments⟩ := exists_of_bind_ok hdocuments
  obtain ⟨entries, hentries, hdocuments⟩ := exists_of_bind_ok hdocuments
  obtain ⟨e, he, hd⟩ := exists_of_mapM_ok hdocuments hshown
  have hof := TextIndex.tenantDocuments_isOf h.lists hreads (ok_of_mapError hentries) he
  exact (hof.document hd).1

end Indexes

/-- What the searches, look-ups and listings of an engine return. -/
inductive Engine.Returns (e : Engine) : Document → Prop
  | hit {cancelled : Bool} {request : SearchRequest} {nanos : Nat} {page : SearchPage} {hit : Scored}
      (hpage : (e.search cancelled request nanos).1 = .ok page) (hhit : hit ∈ page.hits) :
      Returns e hit.document
  | found {id tenant : String} {d : Document} (hd : e.document id tenant = .ok d) : Returns e d
  | listed {tenant : String} {limit offset : Nat} {documents : List Document} {d : Document}
      (hdocuments : e.tenantDocuments tenant limit offset = .ok documents) (hd : d ∈ documents) :
      Returns e d

/-- The engine of a run holds and returns current versions only. -/
structure Run.UpToDate (r : Run) : Prop where
  entry : ∀ id, r.engine.indexes.text.tables.holds id = true → ∃ d time,
    currentVersion r.history id = some d ∧ d.id = id ∧ r.engine.indexes.text.tables.Keeps d ∧
    r.engine.indexes.text.document id "" = .ok { d.toEntry with updatedAt := time } ∧
    r.engine.indexes.vector.Keeps r.engine.indexes.store id d.embedding
  returned : ∀ shown, r.engine.Returns shown → ∃ d, currentVersion r.history shown.id = some d ∧
    shown = { d with embedding := shown.embedding, timestamp := shown.timestamp } ∧
    (shown.embedding = none ∨ shown.embedding = d.embedding)
  found : ∀ id tenant shown, r.engine.document id tenant = .ok shown → ∃ d,
    currentVersion r.history id = some d ∧ shown = { d with timestamp := shown.timestamp }
  gone : ∀ id, currentVersion r.history id = none →
    r.engine.indexes.text.tables.holds id = false ∧
    ∀ tenant, r.engine.document id tenant = .error (.text (.notFound id))
  deleted : ∀ id w, lastAccepted r.history id = some w → w.task.document? = none →
    ∀ shown, r.engine.Returns shown → shown.id ≠ id

/-- The engine of a run holds all documents that were indexed last, and their embeddings. -/
structure Run.Complete (r : Run) : Prop where
  entries : ∀ id, r.engine.indexes.text.tables.holds id = true ↔
    ∃ w d, lastAccepted r.history id = some w ∧ w.task.document? = some d
  embeddings : ∀ id, ∃ present,
    r.engine.indexes.vector.contains r.engine.indexes.store id = .ok present ∧
    (present = true ↔ ∃ w d, lastAccepted r.history id = some w ∧ w.task.document? = some d ∧
      d.embedding.isSome = true)

/-- The metadata of a document that a call brings comes back from the text that is kept of it. -/
def Call.ReadsBack : Call → Prop
  | write task _ => ∀ d, task.document? = some d → d.ReadsBack
  | rebuildText => True
  | optimize => True
  | search _ _ _ => True

theorem Run.mem_history {r : Run} {calls : List Call} {w : Written}
    (h : w ∈ (calls.foldl Run.call r).history) :
    w ∈ r.history ∨ ∃ faults, Call.write w.task faults ∈ calls := by
  induction calls generalizing r with
  | nil => exact .inl h
  | cons c calls ih =>
    rcases ih h with hmem | ⟨faults, hmem⟩
    · cases c with
      | write task faults =>
        rcases List.mem_cons.mp hmem with rfl | hold
        · exact .inr ⟨faults, List.mem_cons_self⟩
        · exact .inl hold
      | rebuildText => exact .inl hmem
      | optimize => exact .inl hmem
      | search _ _ _ => exact .inl hmem
    · exact .inr ⟨faults, List.mem_cons_of_mem _ hmem⟩

theorem Written.document?_eq_some {w : Written} {d : Document} :
    w.document? = some d ↔ w.result = .ok () ∧ w.task.document? = some d := by
  rw [document?]
  cases w.result with
  | error e => simp
  | ok u => simp

theorem document?_of_currentVersion {history : List Written} {id : String} {d : Document}
    (h : currentVersion history id = some d) : ∃ w ∈ history, w.task.document? = some d := by
  obtain ⟨w, hw, hd⟩ := Option.bind_eq_some_iff.mp h
  exact ⟨w, (mem_of_lastAccepted hw).1, (Written.document?_eq_some.mp hd).2⟩

namespace Run.Faithful

variable {calm : Prop} {r : Run} {s : Holding}

theorem documents_of_none (h : r.Faithful calm s) {id : String}
    (hid : currentVersion r.history id = none) : s.documents id = none := by
  cases hd : s.documents id with
  | none => rfl
  | some d =>
    rw [(h.current id d hd).1] at hid
    cases hid

theorem hit_isOf (h : r.Faithful calm s) (hreads : ∀ {id d}, s.documents id = some d → d.ReadsBack)
    {cancelled : Bool} {request : SearchRequest} {nanos : Nat} {page : SearchPage}
    (hpage : (r.engine.search cancelled request nanos).1 = .ok page) {hit : Scored}
    (hhit : hit ∈ page.hits) : hit.document.IsOf s.documents := by
  exact (Indexes.ranks_search (Engine.search_ok hpage) hhit).isOf h.holds hreads

theorem returned_of_isOf (h : r.Faithful calm s) {shown : Document} (hshown : shown.IsOf s.documents) :
    ∃ d, currentVersion r.history shown.id = some d ∧
      shown = { d with embedding := shown.embedding, timestamp := shown.timestamp } ∧
      (shown.embedding = none ∨ shown.embedding = d.embedding) := by
  obtain ⟨d, hd, hsame⟩ := hshown
  refine ⟨d, (h.current _ d hd).1, ?_, .inl ?_⟩
  · rw [hsame]
  · rw [hsame]

theorem returned (h : r.Faithful calm s) (hreads : ∀ {id d}, s.documents id = some d → d.ReadsBack)
    {shown : Document} (hshown : r.engine.Returns shown) :
    ∃ d, currentVersion r.history shown.id = some d ∧
      shown = { d with embedding := shown.embedding, timestamp := shown.timestamp } ∧
      (shown.embedding = none ∨ shown.embedding = d.embedding) := by
  cases hshown with
  | hit hpage hhit => exact h.returned_of_isOf (h.hit_isOf hreads hpage hhit)
  | @found id tenant _ hd =>
    obtain ⟨d, hd, hid, hsame⟩ := Indexes.document_isOf h.holds hreads hd
    obtain ⟨hversion, hembedding⟩ := h.current id d hd
    rw [hembedding] at hsame
    refine ⟨d, by rw [hid]; exact hversion, ?_, .inr ?_⟩
    · rw [hsame]
    · rw [hsame]
  | listed hdocuments hd =>
    exact h.returned_of_isOf (Indexes.tenantDocuments_isOf h.holds hreads hdocuments hd)

theorem upToDate (h : r.Faithful calm s) (hreads : ∀ {id d}, s.documents id = some d → d.ReadsBack) :
    r.UpToDate where
  entry := by
    intro id hid
    obtain ⟨d, hd⟩ := Option.isSome_iff_exists.mp (h.holds.lists.holds_iff.mp hid)
    obtain ⟨hversion, hembedding⟩ := h.current id d hd
    have hkeeps := h.holds.keeps id
    rw [hembedding] at hkeeps
    exact ⟨d, _, hversion, h.holds.lists.named hd, h.holds.lists.keeps hd,
      TextIndex.document_of_some h.holds.lists h.holds.isOpen hd (hreads hd) (.inl rfl), hkeeps⟩
  returned := fun shown hshown => h.returned hreads hshown
  found := by
    intro id tenant shown hshown
    obtain ⟨d, hd, -, hsame⟩ := Indexes.document_isOf h.holds hreads hshown
    obtain ⟨hversion, hembedding⟩ := h.current id d hd
    rw [hembedding] at hsame
    exact ⟨d, hversion, hsame⟩
  gone := by
    intro id hid
    have hnone := h.documents_of_none hid
    refine ⟨?_, Indexes.document_of_none h.holds hnone⟩
    rw [Bool.eq_false_iff]
    intro hholds
    have hsome := h.holds.lists.holds_iff.mp hholds
    rw [hnone] at hsome
    cases hsome
  deleted := by
    intro id w hw hnone shown hshown hid
    obtain ⟨d, hd, -⟩ := h.returned hreads hshown
    rw [hid, currentVersion, hw] at hd
    rw [(Written.document?_eq_some.mp hd).2] at hnone
    cases hnone

theorem version_iff (h : r.Faithful calm s) (hcalm : calm) {id : String} {d : Document} :
    currentVersion r.history id = some d ↔
      ∃ w, lastAccepted r.history id = some w ∧ w.task.document? = some d := by
  rw [currentVersion, Option.bind_eq_some_iff]
  refine exists_congr fun w => and_congr_right fun hw => ?_
  obtain ⟨hmem, -, haccepted⟩ := mem_of_lastAccepted hw
  rw [Written.document?_eq_some]
  exact and_iff_right ((h.complete hcalm).succeeded w hmem haccepted)

theorem complete_of_calm (h : r.Faithful calm s) (hcalm : calm) : r.Complete where
  entries := by
    intro id
    rw [h.holds.lists.holds_iff, (h.complete hcalm).documents, Option.isSome_iff_exists, exists_comm]
    exact exists_congr fun d => h.version_iff hcalm
  embeddings := by
    intro id
    refine ⟨_, h.holds.contains id, ?_⟩
    rw [(h.complete hcalm).embeddings, Option.isSome_iff_exists]
    constructor
    · rintro ⟨v, hv⟩
      obtain ⟨d, hd, hembedding⟩ := Option.bind_eq_some_iff.mp hv
      obtain ⟨w, hw, hbrought⟩ := (h.version_iff hcalm).mp hd
      exact ⟨w, d, hw, hbrought, by rw [hembedding]; rfl⟩
    · rintro ⟨w, d, hw, hbrought, hsome⟩
      obtain ⟨v, hv⟩ := Option.isSome_iff_exists.mp hsome
      exact ⟨v, Option.bind_eq_some_iff.mpr ⟨d, (h.version_iff hcalm).mpr ⟨w, hw, hbrought⟩, hv⟩⟩

end Run.Faithful

/-- Whichever writes of the vector store fail, a run leaves an engine that holds and returns the current
version of each id or nothing. If none fails and the text entries are not discarded, it holds them all. -/
theorem Engine.Opened.upToDate_run {e : Engine} (h : e.Opened) (calls : List Call)
    (hreads : ∀ c ∈ calls, c.ReadsBack) :
    (e.run calls).UpToDate ∧ ((∀ c ∈ calls, c.IsCalm) → (e.run calls).Complete) := by
  obtain ⟨s, hs⟩ := h.run calls
  refine ⟨hs.upToDate fun {id d} hd => ?_, hs.complete_of_calm⟩
  obtain ⟨w, hw, hbrought⟩ := document?_of_currentVersion (hs.current id d hd).1
  rcases Run.mem_history hw with hnil | ⟨faults, hcall⟩
  · cases hnil
  · exact hreads _ hcall d hbrought

def smallText : TextIndex where
  config := {}
  tables := (TextIndex.createTables {}).toOption.getD default

/-- An engine with nothing in it, for embeddings of one component. -/
def smallEngine : Engine where
  config := { textWeight := Binary64.one, vectorWeight := Binary64.one }
  indexes := ⟨smallText, VectorIndex.small, VectorIndex.smallStore⟩

theorem opened_smallEngine : smallEngine.Opened := by
  obtain ⟨u, hconfig⟩ := exists_of_isOk (show smallEngine.config.validate.isOk = true by decide +kernel)
  obtain ⟨u, hnames⟩ := exists_of_isOk (show smallText.config.validate.isOk = true by decide +kernel)
  obtain ⟨tables, htables⟩ := exists_of_isOk
    (show (TextIndex.createTables {}).isOk = true by decide +kernel)
  have htext : TextIndex.open smallText.config none 0 = .ok smallText := by
    rw [TextIndex.open, hnames, smallText]
    dsimp only
    rw [htables]
    rfl
  have hempty : ∀ bytes,
      bytes.startsWith (KeySpace.ofPrefix VectorIndex.smallConfig.keyPrefix).lead = true →
      (ByteMap.empty : Store).find? bytes = none := fun _ _ => rfl
  have hvector : VectorIndex.open VectorIndex.smallConfig [] { content := ByteMap.empty } =
      .ok VectorIndex.small := rfl
  have hopen : Engine.open smallEngine.config smallEngine.indexes = .ok smallEngine := by
    rw [Engine.open, hconfig]
    rfl
  exact .intro htext hempty hvector hopen

def smallDocument : Document where
  id := "a"
  tenant := "t"
  kind := .file
  content := "red"
  metadata := [("k", .text "v")]
  embedding := some [Binary64.one]

theorem readsBack_smallDocument : smallDocument.ReadsBack := by
  show (Json.read? (Json.object smallDocument.metadata).compact).bind _ = _
  rw [Json.read?_compact (by decide)]
  rfl

def smallCalls : List Call :=
  [.write (.index smallDocument) [], .optimize, .search false { text := "red" } 0]

theorem upToDate_smallRun :
    (smallEngine.run smallCalls).engine.indexes.text.tables.holds "a" = true ∧
      (smallEngine.run smallCalls).UpToDate ∧ (smallEngine.run smallCalls).Complete := by
  have hreads : ∀ c ∈ smallCalls, c.ReadsBack :=
    List.forall_mem_cons.mpr ⟨fun d hd => Option.some_inj.mp hd ▸ readsBack_smallDocument,
      List.forall_mem_cons.mpr ⟨trivial, List.forall_mem_singleton.mpr trivial⟩⟩
  have hcalm : ∀ c ∈ smallCalls, c.IsCalm :=
    List.forall_mem_cons.mpr ⟨fun _ hfault => absurd hfault List.not_mem_nil,
      List.forall_mem_cons.mpr ⟨trivial, List.forall_mem_singleton.mpr trivial⟩⟩
  obtain ⟨hcurrent, hcomplete⟩ := opened_smallEngine.upToDate_run smallCalls hreads
  exact ⟨by decide +kernel, hcurrent, hcomplete hcalm⟩

/-- When the batch of its embedding cannot be written, the third step of a task takes the entry back. -/
example : (smallEngine.run [.write (.index smallDocument) [none, none, some (.io "full")]]
    ).engine.indexes.text.tables.holds "a" = false := by decide +kernel

end HybridSearch
