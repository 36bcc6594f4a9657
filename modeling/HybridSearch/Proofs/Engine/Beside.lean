import HybridSearch.Proofs.Engine.Reachable
import HybridSearch.Proofs.Engine.Turns

/-!
# Writes beside a tenant

Whatever happens to an engine while nobody writes for a tenant, nor under one of its ids, the tenant's documents
and embeddings stay as they are.
-/
namespace HybridSearch

namespace Engine

variable {e e' e'' : Engine} {g g' : Graph} {tenant : String}

/-- What can happen to an engine at a time while nobody asks for a write for a tenant, nor under one of its
ids. -/
inductive TurnBeside (tenant : String) (e : Engine) : Engine → Prop
  | submit {task : Task} {number : Nat} {e' : Engine} (hbeside : task.Beside e.indexes.text.tables tenant)
      (h : e.submit task = .ok (e', number)) : TurnBeside tenant e e'
  | takeTask : TurnBeside tenant e e.takeTask
  | moveWorker (position : Nat) : TurnBeside tenant e (e.moveWorker position)
  | search (cancelled : Bool) (request : SearchRequest) (nanos : Nat) :
      TurnBeside tenant e (e.search cancelled request nanos).2
  | optimize {e' : Engine} (h : e.optimize = .ok e') : TurnBeside tenant e e'
  | fault (fault : Option StoreFault) : TurnBeside tenant e (e.withWriteFault fault)
  | hold : TurnBeside tenant e e.hold
  | release : TurnBeside tenant e e.release

/-- What becomes of an engine by such turns as long as its store has no more embeddings than are searched
exactly. -/
inductive RunsBeside (tenant : String) (e : Engine) : Engine → Prop
  | refl : RunsBeside tenant e e
  | turn {e₁ e₂ : Engine} (h : RunsBeside tenant e e₁) (hturn : e₁.TurnBeside tenant e₂)
      (hfew : e₂.indexes.storedCount ≤ e₂.indexes.exactCount) : RunsBeside tenant e e₂

theorem TurnBeside.turn (h : e.TurnBeside tenant e') : e.Turn e' := by
  cases h with
  | submit _ h => exact .submit h
  | takeTask => exact .takeTask
  | moveWorker position => exact .moveWorker position
  | search cancelled request nanos => exact .search cancelled request nanos
  | optimize h =>
    obtain ⟨text, -, rfl⟩ := withText_ok h
    exact .text text
  | fault fault => exact .fault fault
  | hold => exact .hold
  | release => exact .release

/-- All tasks that wait or have been begun are beside a tenant. -/
structure AllBeside (e : Engine) (t : TextTables) (tenant : String) : Prop where
  queue : ∀ job ∈ e.queue, job.task.Beside t tenant
  begun : ∀ a ∈ e.begun, a.stage.Beside t tenant

theorem AllBeside.congr {t t' : TextTables} (h : e.AllBeside t tenant) (hsame : t.SameFor tenant t') :
    e.AllBeside t' tenant :=
  ⟨fun job hjob => (h.queue job hjob).congr hsame, fun a ha => (h.begun a ha).congr hsame⟩

theorem Idle.allBeside (h : e.Idle) (t : TextTables) (tenant : String) : e.AllBeside t tenant := by
  refine ⟨?_, ?_⟩
  · rw [h.queue]
    exact fun _ hjob => (nomatch hjob)
  · rw [h.begun]
    exact fun _ ha => (nomatch ha)

/-- A step that a tenant does not notice in the text index. -/
structure PassesBy (e : Engine) (tenant : String) (e' : Engine) : Prop where
  isOpen : e'.isOpen = e.isOpen
  text : e.indexes.text.SameFor tenant e'.indexes.text
  allBeside : e'.AllBeside e.indexes.text.tables tenant

theorem passesBy_of_same (h : e.AllBeside e.indexes.text.tables tenant) (hopen : e'.isOpen = e.isOpen)
    (htext : e'.indexes.text = e.indexes.text) (hqueue : e'.queue = e.queue) (hbegun : e'.begun = e.begun) :
    e.PassesBy tenant e' := by
  refine ⟨hopen, ?_, ?_, ?_⟩
  · rw [htext]
    exact .refl _ _
  · rw [hqueue]
    exact h.queue
  · rw [hbegun]
    exact h.begun

theorem passesBy_resume (e base : Engine) (ixs : Indexes) (hopen : base.isOpen = e.isOpen)
    (htext : ixs.text = e.indexes.text) (hbase : base.AllBeside e.indexes.text.tables tenant)
    (number depth : Nat) {part : Indexes × Progress} {beside : TextTables → String → Prop}
    (hpart : ixs.Touches part beside) (hbeside : beside e.indexes.text.tables tenant) :
    e.PassesBy tenant (base.resume number depth part) := by
  obtain ⟨text, hindexes, hpart⟩ := hpart
  have hchanged : part.1.text = text := by rw [hindexes]
  rw [htext] at hpart
  obtain ⟨hsame, hstage⟩ := hpart tenant hbeside
  rw [← hchanged] at hsame
  rw [Engine.resume]
  split
  · next stage hreached =>
    refine ⟨hopen, hsame, hbase.queue, fun a ha => ?_⟩
    rcases List.mem_append.mp ha with hold | hnew
    · exact hbase.begun a hold
    · rw [List.mem_singleton.mp hnew]
      exact hstage stage hreached
  · exact ⟨hopen, hsame, hbase.queue, hbase.begun⟩

theorem passesBy_takeTask (h : e.AllBeside e.indexes.text.tables tenant) :
    e.PassesBy tenant e.takeTask := by
  rw [Engine.takeTask]
  split
  · split
    · exact passesBy_of_same h rfl rfl rfl rfl
    · next job queue hqueue =>
      have hjobs := h.queue
      rw [hqueue] at hjobs
      obtain ⟨hjob, hrest⟩ := List.forall_mem_cons.mp hjobs
      exact e.passesBy_resume { e with queue } e.indexes rfl rfl ⟨hrest, h.begun⟩ _ _
        (e.indexes.touches_start job.task) hjob
  · exact passesBy_of_same h rfl rfl rfl rfl

theorem passesBy_moveWorker (h : e.AllBeside e.indexes.text.tables tenant) (position : Nat) :
    e.PassesBy tenant (e.moveWorker position) := by
  have hsplit : ∀ {before after : List Assignment} {a : Assignment}, e.begun = before ++ a :: after →
      a.stage.Beside e.indexes.text.tables tenant ∧
        ∀ b ∈ before ++ after, b.stage.Beside e.indexes.text.tables tenant := by
    intro before after a hbegun
    have hall := h.begun
    rw [hbegun] at hall
    refine ⟨hall a (List.mem_append_right _ List.mem_cons_self), fun b hb => hall b ?_⟩
    rcases List.mem_append.mp hb with hb | hb
    · exact List.mem_append_left _ hb
    · exact List.mem_append_right _ (List.mem_cons_of_mem _ hb)
  have hmove := e.move_moveWorker position
  generalize e.moveWorker position = e' at hmove
  cases hmove with
  | still => exact passesBy_of_same h rfl rfl rfl rfl
  | @prepared before after a vector commit hbegun hfree hprepare =>
    obtain ⟨ha, hothers⟩ := hsplit hbegun
    refine ⟨rfl, .refl _ _, h.queue, fun b hb => ?_⟩
    rcases List.mem_append.mp hb with hbefore | hrest
    · exact hothers b (List.mem_append_left _ hbefore)
    · rcases List.mem_cons.mp hrest with rfl | hafter
      · exact ha
      · exact hothers b (List.mem_append_right _ hafter)
  | @passed before after a vector changed hbegun hfree hconfig =>
    obtain ⟨ha, hothers⟩ := hsplit hbegun
    exact e.passesBy_resume { e with begun := before ++ after } { e.indexes with vector } rfl rfl
      ⟨h.queue, hothers⟩ _ _ (Indexes.touches_proceed _ _ _) ha
  | @written before after a commit hbegun hcommit =>
    obtain ⟨ha, hothers⟩ := hsplit hbegun
    rw [performWrite]
    generalize a.stage.change.write e.indexes.vector e.indexes.store commit = o
    exact e.passesBy_resume { e with begun := before ++ after }
      { e.indexes with vector := o.index, store := o.store } rfl rfl ⟨h.queue, hothers⟩ _ _
      (Indexes.touches_proceed _ _ _) ha

theorem TurnBeside.passesBy (hturn : e.TurnBeside tenant e') (h : e.AllBeside e.indexes.text.tables tenant) :
    e.PassesBy tenant e' := by
  cases hturn with
  | submit hbeside hsubmit =>
    obtain rfl := submit_ok hsubmit
    refine ⟨rfl, .refl _ _, fun job hjob => ?_, h.begun⟩
    rcases List.mem_append.mp hjob with hold | hnew
    · exact h.queue job hold
    · rw [List.mem_singleton.mp hnew]
      exact hbeside
  | takeTask => exact passesBy_takeTask h
  | moveWorker position => exact passesBy_moveWorker h position
  | search cancelled request nanos =>
    obtain ⟨vector, statistics, -, hsearch⟩ := e.search_snd cancelled request nanos
    rw [hsearch]
    exact passesBy_of_same h rfl rfl rfl rfl
  | optimize hoptimize =>
    obtain ⟨text, htext, rfl⟩ := withText_ok hoptimize
    exact passesBy_of_same h rfl (TextIndex.optimize_ok htext) rfl rfl
  | fault fault => exact passesBy_of_same h rfl rfl rfl rfl
  | hold => exact passesBy_of_same h rfl rfl rfl rfl
  | release => exact passesBy_of_same h rfl rfl rfl rfl

/-- An engine with the same documents and embeddings of a tenant, and no task for it. -/
structure Alike (tenant : String) (e : Engine) (g : Graph) (e' : Engine) (g' : Graph) : Prop
    extends e.PassesBy tenant e' where
  config : e'.config = e.config
  embeddings : e'.indexes.vector.config = e.indexes.vector.config
  backs : e'.Backs g'
  complete : g'.Complete
  own : ∀ id, e.indexes.text.tables.owns tenant id = true → g'.embedding? id = g.embedding? id

theorem Alike.turn {e₁ e₂ : Engine} {g₁ : Graph} (h : Alike tenant e g e₁ g₁)
    (hturn : e₁.TurnBeside tenant e₂) (hfew : e₂.indexes.storedCount ≤ e₂.indexes.exactCount) :
    ∃ g₂, Alike tenant e g e₂ g₂ := by
  have hsame := h.text.tables
  have hbefore := h.allBeside.congr hsame
  have hpasses := hturn.passesBy hbefore
  obtain ⟨g₂, hadvances⟩ := hturn.turn.advances h.backs
  have hown : ∀ id, e.indexes.text.tables.owns tenant id = true → g₂.embedding? id = g₁.embedding? id := by
    intro id hid
    rcases hadvances.graph with rfl | ⟨a, ha, hmakes⟩
    · rfl
    · refine hmakes.embedding?_of_ne h.backs.ready.holds.sound h.backs.ready.accepted.buildBreadth.1 ?_
      rintro rfl
      have hnot := (h.allBeside.begun a ha).change
      rw [hid] at hnot
      cases hnot
  refine ⟨g₂, ⟨hpasses.isOpen.trans h.isOpen, h.text.trans hpasses.text,
    hpasses.allBeside.congr hsame.symm⟩, hadvances.config.trans h.config,
    hadvances.embeddings.trans h.embeddings, hadvances.backs, hadvances.complete h.backs h.complete hfew,
    fun id hid => (hown id hid).trans (h.own id hid)⟩

theorem RunsBeside.alike (h : e.RunsBeside tenant e') (hbacks : e.Backs g) (hcomplete : g.Complete)
    (hbeside : e.AllBeside e.indexes.text.tables tenant) : ∃ g', Alike tenant e g e' g' := by
  induction h with
  | refl => exact ⟨g, passesBy_of_same hbeside rfl rfl rfl rfl, rfl, rfl, hbacks, hcomplete, fun _ _ => rfl⟩
  | turn _ hturn hfew ih =>
    obtain ⟨g₁, halike⟩ := ih
    exact halike.turn hturn hfew

end Engine
end HybridSearch
