import HybridSearch.Proofs.TextIndex.Reading

/-!
# Whose entries the text index gives

The two rows of an id are of one tenant, whichever tenants the id has had before. What a search, a look-up
or a listing gives for a tenant is of that very tenant: the words of its name only narrow a search down,
the names themselves decide.
-/
namespace HybridSearch

namespace TextTables

/-- What the writes of an index make of empty tables. -/
inductive Reached : TextTables → Prop
  | empty {t : TextTables} (h : t.Lists fun _ => none) : Reached t
  | put {t : TextTables} {e : TextEntry} (h : Reached t) (he : TextIndex.checkEntry e = .ok ())
      (now : Int) : Reached (t.put e now)
  | remove {t : TextTables} (h : Reached t) (id : String) : Reached (t.remove id)

/-- Every text row is of a tenant that can exist, and the listing row of its id names the same. -/
structure Tenanted (t : TextTables) : Prop where
  valid : ∀ r ∈ t.rows, Tenant.isValid r.tenant = true
  agree : ∀ l ∈ t.listing, ∀ r ∈ t.rows, r.id = l.id → r.tenant = l.tenant
  distinct : (t.listing.map fun l => l.id).Nodup

variable {t : TextTables} {e : TextEntry} {r : TextRow}

theorem isValid_of_checkEntry (h : TextIndex.checkEntry e = .ok ()) :
    Tenant.isValid e.tenant = true := by
  rw [TextIndex.checkEntry] at h
  split at h
  · cases h
  · split at h
    · cases h
    · next hvalid => simpa using hvalid

theorem mem_rows_put {now : Int} (h : r ∈ (t.put e now).rows) :
    (r.id ≠ e.id ∧ r ∈ t.rows) ∨ r = TextRow.ofEntry e := by
  rcases List.mem_append.mp h with hold | hnew
  · obtain ⟨hmem, hid⟩ := List.mem_filter.mp hold
    exact .inl ⟨of_decide_eq_true hid, hmem⟩
  · exact .inr (List.mem_singleton.mp hnew)

theorem Tenanted.put (h : t.Tenanted) (he : TextIndex.checkEntry e = .ok ()) (now : Int) :
    (t.put e now).Tenanted where
  valid := by
    intro r hr
    rcases mem_rows_put hr with ⟨-, hold⟩ | rfl
    · exact h.valid r hold
    · exact isValid_of_checkEntry he
  agree := by
    intro l hl r hr hid
    -- an id other than that of the entry has its old rows, and that of the entry has two new ones
    rcases mem_upsert e now h.distinct hl with ⟨hother, hlisted⟩ | ⟨created, rfl⟩
    · rcases mem_rows_put hr with ⟨-, hrow⟩ | rfl
      · exact h.agree l hlisted r hrow hid
      · exact absurd hid.symm hother
    · rcases mem_rows_put hr with ⟨hother, -⟩ | rfl
      · exact absurd hid hother
      · rfl
  distinct := nodup_upsert e now h.distinct

theorem Tenanted.remove (h : t.Tenanted) (id : String) : (t.remove id).Tenanted where
  valid := by
    intro r hr
    have hrow := (List.mem_filter.mp hr).1
    exact h.valid r hrow
  agree := by
    intro l hl r hr hid
    have hlisted := (List.mem_filter.mp hl).1
    have hrow := (List.mem_filter.mp hr).1
    exact h.agree l hlisted r hrow hid
  distinct := List.Nodup.sublist (List.filter_sublist.map _) h.distinct

theorem Reached.tenanted (h : t.Reached) : t.Tenanted := by
  induction h with
  | empty h =>
    refine ⟨fun r hr => ?_, fun l hl => ?_, h.distinct⟩
    · obtain ⟨d, hd, -⟩ := h.mem_rows.mp hr
      cases hd
    · obtain ⟨d, created, hd, -⟩ := h.listing_row hl
      cases hd
  | put _ he now ih => exact ih.put he now
  | remove _ id ih => exact ih.remove id

end TextTables

def TextEntry.InTenant (e : TextEntry) (tenant : String) : Prop :=
  Tenant.isValid tenant = true ∧ e.tenant = tenant

def Document.InTenant (d : Document) (tenant : String) : Prop :=
  Tenant.isValid tenant = true ∧ d.tenant = tenant

theorem TextEntry.InTenant.document {e : TextEntry} {tenant : String} (h : e.InTenant tenant)
    {d : Document} (hd : e.document = .ok d) : d.InTenant tenant := by
  rw [TextEntry.document] at hd
  split at hd
  · next found hfound =>
    obtain ⟨kind, -, hkind⟩ := Option.map_eq_some_iff.mp hfound
    obtain rfl := Except.ok.inj hd
    rw [← hkind]
    exact h
  · cases hd

namespace TextIndex

variable {ix : TextIndex} {tenant : String} {e : TextEntry} {r : TextRow}

theorem tenant_of_belongsTo (h : belongsTo tenant r = true) (hnamed : tenant ≠ "") :
    r.tenant = tenant := by
  rw [belongsTo, Bool.or_eq_true] at h
  rcases h with hempty | heq
  · exact absurd (String.isEmpty_iff.mp hempty) hnamed
  · exact eq_of_beq heq

theorem tenant_entryOf {t : TextTables} {action : String} (h : t.entryOf action r = .ok e) :
    e.tenant = r.tenant := by
  rw [TextTables.entryOf] at h
  split at h
  · obtain rfl := Except.ok.inj h
    rfl
  · cases h

theorem id_entryOf {t : TextTables} {action : String} (h : t.entryOf action r = .ok e) : e.id = r.id := by
  rw [TextTables.entryOf] at h
  split at h
  · obtain rfl := Except.ok.inj h
    rfl
  · cases h

theorem inTenant_row (h : ix.tables.Tenanted) (hr : r ∈ ix.tables.rows) (htenant : r.tenant = tenant)
    {action : String} (he : ix.tables.entryOf action r = .ok e) : e.InTenant tenant := by
  have hvalid := h.valid r hr
  rw [htenant] at hvalid
  exact ⟨hvalid, (tenant_entryOf he).trans htenant⟩

theorem inTenant_document (h : ix.tables.Tenanted) (hnamed : tenant ≠ "") {id : String}
    (he : ix.document id tenant = .ok e) : e.InTenant tenant := by
  obtain ⟨r, hr, -, hbelongs, hentry⟩ := document_row he
  exact inTenant_row h hr (tenant_of_belongsTo hbelongs hnamed) hentry

theorem inTenant_ranked (h : ix.tables.Tenanted) (hnamed : tenant ≠ "") {query : String} {limit : Nat}
    {ranking : List Scored} (hranking : ix.ranked query tenant limit = .ok ranking) {x : Scored}
    (hx : x ∈ ranking) : x.document.InTenant tenant := by
  obtain ⟨hits, hit, hsearch, hhit, hd⟩ := ranked_hit hranking hx
  obtain ⟨r, hr, hbelongs, hentry⟩ := search_row hsearch hhit
  exact (inTenant_row h hr (tenant_of_belongsTo hbelongs hnamed) hentry).document hd

theorem inTenant_hydrate (h : ix.tables.Tenanted) (hnamed : tenant ≠ "") {metric : Metric}
    {neighbors : List Neighbor} {ranking : List Scored}
    (hranking : ix.hydrate tenant metric neighbors = .ok ranking) {x : Scored} (hx : x ∈ ranking) :
    x.document.InTenant tenant := by
  obtain ⟨id, entry, hentry, hd⟩ := hydrate_entry hranking hx
  exact (inTenant_document h hnamed hentry).document hd

/-- A listing looks for the ids in its own table; their text rows are of the same tenant. -/
theorem inTenant_tenantDocuments (h : ix.tables.Tenanted) {limit offset : Nat}
    {entries : List TextEntry} (hentries : ix.tenantDocuments tenant limit offset = .ok entries)
    (he : e ∈ entries) : e.InTenant tenant := by
  obtain ⟨r, hr, hentry⟩ := tenantDocuments_row hentries he
  obtain ⟨hrow, l, hlisted, htenant, hid⟩ := mem_tenantRows hr
  exact inTenant_row h hrow ((h.agree l hlisted r hrow hid).trans htenant) hentry

end TextIndex

namespace TextIndex

variable {ix : TextIndex}

theorem reached_open {config : TextConfig} {stored : Option TextTables} {clock : Nat}
    (hstored : ∀ t, stored = some t → t.Reached) (h : TextIndex.open config stored clock = .ok ix) :
    ix.tables.Reached := by
  cases stored with
  | none =>
    obtain ⟨-, hlists⟩ := open_ok h
    exact .empty hlists
  | some tables =>
    rw [TextIndex.open] at h
    split at h
    · cases h
    · obtain rfl := Except.ok.inj h
      exact hstored tables rfl

theorem reached_rebuild {rebuilt : TextIndex} (h : ix.rebuild = .ok rebuilt) :
    rebuilt.tables.Reached := by
  obtain ⟨-, hlists⟩ := rebuild_ok h
  exact .empty hlists

theorem reached_index (hix : ix.tables.Reached) {e : TextEntry} {written : TextIndex}
    (h : ix.index e = .ok written) : written.tables.Reached := by
  rw [index] at h
  obtain ⟨u, hcheck, h⟩ := exists_of_bind_ok h
  obtain ⟨-, -, h⟩ := exists_of_bind_ok h
  obtain rfl := Except.ok.inj h
  exact hix.put hcheck _

theorem reached_delete (hix : ix.tables.Reached) {id : String} {removed : TextIndex} {held : Bool}
    (h : ix.delete id = .ok (removed, held)) : removed.tables.Reached := by
  rw [delete] at h
  obtain ⟨-, -, h⟩ := exists_of_bind_ok h
  obtain ⟨rfl, rfl⟩ := Prod.mk.inj (Except.ok.inj h)
  exact hix.remove id

end TextIndex

end HybridSearch
