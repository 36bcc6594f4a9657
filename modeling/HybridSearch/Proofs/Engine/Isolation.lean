import HybridSearch.Proofs.Engine.Current
import HybridSearch.Proofs.Engine.Reachable

/-!
# Tenants are kept apart

Whatever an engine returns for a tenant is a document of that tenant, byte for byte, and for a name that
no tenant can have it returns nothing. A search ranks by text, by embedding or by both, and the side that
fails in a fused search adds nothing, so each of them only has to keep to the tenant by itself.
-/
namespace HybridSearch

theorem Indexes.Ranks.inTenant {ixs : Indexes} (h : ixs.text.tables.Tenanted) {request : SearchRequest}
    (hnamed : request.tenant ≠ "") {d : Document} (hd : ixs.Ranks request d) :
    d.InTenant request.tenant := by
  cases hd with
  | text hranking hx => exact TextIndex.inTenant_ranked h hnamed hranking hx
  | vector hranking hx =>
    obtain ⟨metric, neighbors, hhydrate⟩ := vectorRanked_ok hranking
    exact TextIndex.inTenant_hydrate h hnamed hhydrate hx

namespace Engine

/-- What the searches, look-ups and listings for a tenant return. -/
inductive ReturnsTo (e : Engine) (tenant : String) : Document → Prop
  | hit {cancelled : Bool} {request : SearchRequest} {nanos : Nat} {page : SearchPage} {hit : Scored}
      (htenant : request.tenant = tenant) (hpage : (e.search cancelled request nanos).1 = .ok page)
      (hhit : hit ∈ page.hits) : ReturnsTo e tenant hit.document
  | found {id : String} {d : Document} (hd : e.document id tenant = .ok d) : ReturnsTo e tenant d
  | listed {limit offset : Nat} {documents : List Document} {d : Document}
      (hdocuments : e.tenantDocuments tenant limit offset = .ok documents) (hd : d ∈ documents) :
      ReturnsTo e tenant d

variable {e : Engine} {tenant : String}

theorem inTenant_document (h : e.indexes.text.tables.Tenanted) (hnamed : tenant ≠ "") {id : String}
    {shown : Document} (hshown : e.document id tenant = .ok shown) : shown.InTenant tenant := by
  rw [Engine.document, Indexes.document] at hshown
  obtain ⟨entry, hentry, hshown⟩ := exists_of_bind_ok hshown
  obtain ⟨d, hd, hshown⟩ := exists_of_bind_ok hshown
  have hfound : d.InTenant tenant :=
    (TextIndex.inTenant_document h hnamed (ok_of_mapError hentry)).document hd
  -- the embedding that is added says nothing about the tenant
  split at hshown
  · obtain rfl := Except.ok.inj hshown
    exact hfound
  · obtain rfl := Except.ok.inj hshown
    exact hfound
  · cases hshown

theorem inTenant_tenantDocuments (h : e.indexes.text.tables.Tenanted) {limit offset : Nat}
    {documents : List Document} (hdocuments : e.tenantDocuments tenant limit offset = .ok documents)
    {shown : Document} (hshown : shown ∈ documents) : shown.InTenant tenant := by
  rw [Engine.tenantDocuments, Indexes.tenantDocuments] at hdocuments
  obtain ⟨size, -, hdocuments⟩ := exists_of_bind_ok hdocuments
  obtain ⟨entries, hentries, hdocuments⟩ := exists_of_bind_ok hdocuments
  obtain ⟨entry, hentry, hd⟩ := exists_of_mapM_ok hdocuments hshown
  exact (TextIndex.inTenant_tenantDocuments h (ok_of_mapError hentries) hentry).document hd

theorem Reached.inTenant (h : e.Reached) (hnamed : tenant ≠ "") {shown : Document}
    (hshown : e.ReturnsTo tenant shown) : shown.InTenant tenant := by
  have htables := h.tables_reached.tenanted
  cases hshown with
  | hit htenant hpage hhit =>
    subst htenant
    exact (Indexes.ranks_search (search_ok hpage) hhit).inTenant htables hnamed
  | found hd => exact inTenant_document htables hnamed hd
  | listed hdocuments hd => exact inTenant_tenantDocuments htables hdocuments hd

/-- In every state that an engine can reach, a tenant is shown its own documents only, and a name that no
tenant can have is shown none. -/
theorem Reached.isolated (h : e.Reached) (tenant : String) (hnamed : tenant ≠ "") :
    (Tenant.isValid tenant = true → ∀ shown, e.ReturnsTo tenant shown → shown.tenant = tenant) ∧
      (Tenant.isValid tenant = false → ∀ shown, ¬e.ReturnsTo tenant shown) := by
  refine ⟨fun _ shown hshown => (h.inTenant hnamed hshown).2, fun hinvalid shown hshown => ?_⟩
  have hvalid := (h.inTenant hnamed hshown).1
  rw [hinvalid] at hvalid
  cases hvalid

end Engine

/-- A document is written for a tenant, and then for another one whose name has the same words. -/
def movingCalls : List Call :=
  [.write (.index { smallDocument with tenant := "a_b" }) [],
    .write (.index { smallDocument with tenant := "a-b" }) []]

theorem isolated_moving :
    ("a-b" ≠ "" ∧ ((smallEngine.run movingCalls).engine.document "a" "a-b").isOk = true ∧
      ∀ shown, (smallEngine.run movingCalls).engine.ReturnsTo "a-b" shown → shown.tenant = "a-b") ∧
    ("-_-" ≠ "" ∧ ∀ shown, ¬(smallEngine.run movingCalls).engine.ReturnsTo "-_-" shown) := by
  have hreached := opened_smallEngine.reached.run movingCalls
  have hnew := hreached.isolated "a-b" (by decide)
  have hnever := hreached.isolated "-_-" (by decide)
  exact ⟨⟨by decide, by decide +kernel, hnew.1 (by decide)⟩, by decide, hnever.2 (by decide)⟩

/-- The tenant that the document has left no longer finds it. -/
example : ((smallEngine.run movingCalls).engine.document "a" "a_b").isOk = false := by decide +kernel

end HybridSearch
