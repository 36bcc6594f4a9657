import HybridSearch.Proofs.Engine.Kept
import HybridSearch.Proofs.Engine.Protocol

/-!
# Documents that are indexed side by side

Callers send documents with different ids, and the workers take turns in any way. A document that has been
answered has left under its id what indexing it alone would have left, and every other id keeps what it had.
-/
namespace HybridSearch.Service

variable {before s s' : Service} {number : ℕ} {d : Document}

/-- A document was accepted under a number since a given moment. -/
def Brings (before s : Service) (number : ℕ) (d : Document) : Prop :=
  before.tasks.length ≤ number ∧ s.tasks[number]? = some (.index d)

def Enters (before s : Service) (number : ℕ) (d : Document) : Prop :=
  before.Brings s number d ∧ before.engine.indexes.admits d = true

/-- The documents whose entries are written have different ids. -/
def Distinct (before s : Service) : Prop :=
  ∀ number number' d d', before.Enters s number d → before.Enters s number' d' → d.id = d'.id → number = number'

/-- A worker has written the entry of a document and has not changed the vector index yet. -/
structure HasEntry (before s : Service) (a : Assignment) (d : Document) : Prop where
  enters : before.Enters s a.number d
  stage : a.stage = .entryWritten d
  kept : s.engine.indexes.kept d.id = (before.engine.indexes.kept d.id).write d
  changes : a.commit.isSome = true → (s.engine.indexes.kept d.id).changes d = true

/-- Nothing but documents has been accepted since a given moment, at which nothing was left to do. -/
structure Indexing (before s : Service) : Prop where
  rules : before.engine.indexes.SameRules s.engine.indexes
  backs : ∃ g, s.engine.Backs g
  taken : before.tasks.length ≤ s.taken.length
  documents : ∀ number, before.tasks.length ≤ number → number < s.tasks.length → ∃ d, before.Brings s number d
  begun : ∀ a ∈ s.engine.begun, ∃ d, before.HasEntry s a d
  answered : ∀ number d, before.Enters s number d → number ∈ s.engine.answers.map Prod.fst →
    s.engine.indexes.kept d.id = before.engine.indexes.keptAfter d
  untouched : ∀ id, (∀ number d, before.Enters s number d → number < s.taken.length → d.id ≠ id) →
    s.engine.indexes.kept id = before.engine.indexes.kept id

theorem Orderly.lt_of_begun (h : s.Orderly) {a : Assignment} (ha : a ∈ s.engine.begun) :
    a.number < s.taken.length :=
  h.mem_taken_iff_lt.mp (h.mem_taken_iff.mpr (.inl (List.mem_map_of_mem ha)))

theorem Orderly.lt_of_mem_answers (h : s.Orderly) (hanswer : number ∈ s.engine.answers.map Prod.fst) :
    number < s.taken.length :=
  h.mem_taken_iff_lt.mp (h.mem_taken_iff.mpr (.inr hanswer))

/-- A task that has been begun stands for itself: no other one that has been begun or answered has its number. -/
theorem Orderly.apart (h : s.Orderly) {front back : List Assignment} {a : Assignment}
    (hbegun : s.engine.begun = front ++ a :: back) :
    (∀ b ∈ front ++ back, b.number ≠ a.number) ∧ a.number ∉ s.engine.answers.map Prod.fst := by
  have hnodup := h.nodup_numbers
  rw [Engine.numbers, hbegun, List.map_append, List.map_cons, List.append_assoc, List.cons_append] at hnodup
  have hfirst := (List.perm_middle.nodup_iff.mp hnodup).notMem
  rw [← List.append_assoc, ← List.map_append] at hfirst
  refine ⟨fun b hb heq => hfirst (List.mem_append_left _ ?_), fun hanswer => hfirst (List.mem_append_right _ hanswer)⟩
  rw [← heq]
  exact List.mem_map_of_mem hb

theorem Brings.accept (h : before.Brings s number d) (task : Task) : before.Brings (s.accept task) number d :=
  ⟨h.1, getElem?_accept h.2 task⟩

theorem Brings.of_accept {task : Task} (h : before.Brings (s.accept task) number d) (hlt : number < s.tasks.length) :
    before.Brings s number d := by
  refine ⟨h.1, ?_⟩
  have htask := h.2
  rw [Service.accept, List.getElem?_append_left hlt] at htask
  exact htask

theorem Enters.accept (h : before.Enters s number d) (task : Task) : before.Enters (s.accept task) number d :=
  ⟨h.1.accept task, h.2⟩

theorem Distinct.of_accept {task : Task} (h : before.Distinct (s.accept task)) : before.Distinct s :=
  fun number number' d d' hd hd' => h number number' d d' (hd.accept task) (hd'.accept task)

theorem Distinct.of_tasks (h : before.Distinct s') (htasks : s'.tasks = s.tasks) : before.Distinct s := by
  intro number number' d d' hd hd'
  refine h number number' d d' ⟨⟨hd.1.1, ?_⟩, hd.2⟩ ⟨⟨hd'.1.1, ?_⟩, hd'.2⟩
  all_goals rw [htasks]
  · exact hd.1.2
  · exact hd'.1.2

theorem Orderly.indexing (h : s.Orderly) (hbacks : ∃ g, s.engine.Backs g) (hopen : s.engine.isOpen = true)
    (hqueue : s.engine.queue = []) (hbegun : s.engine.begun = []) : s.Indexing s where
  rules := .refl _
  backs := hbacks
  taken := by
    have hnone := h.queue
    rw [h.toStaffed.not_deserted_of_left (h.isOpen hopen).1, if_neg Bool.false_ne_true, hqueue] at hnone
    exact s.length_jobs ▸ List.drop_eq_nil_iff.mp hnone.symm
  documents number hnew hlt := absurd hnew (Nat.not_le_of_lt hlt)
  begun a ha := by
    rw [hbegun] at ha
    cases ha
  answered number d hd _ := absurd hd.1.1 (Nat.not_le_of_lt (List.getElem?_eq_some_iff.mp hd.1.2).1)
  untouched _ _ := rfl

theorem Indexing.accept (h : before.Indexing s) (ho : s.Orderly) (d : Document) :
    before.Indexing (s.accept (.index d)) where
  rules := h.rules
  backs := by
    obtain ⟨g, hbacks⟩ := h.backs
    exact ⟨g, hbacks.ready, hbacks.writes⟩
  taken := h.taken
  documents number hnew hlt := by
    rw [length_accept] at hlt
    by_cases hold : number < s.tasks.length
    · obtain ⟨d', hd'⟩ := h.documents number hnew hold
      exact ⟨d', hd'.accept _⟩
    · obtain rfl : number = s.tasks.length := by omega
      exact ⟨d, hnew, List.getElem?_concat_length⟩
  begun a ha := by
    obtain ⟨d', hentry⟩ := h.begun a ha
    exact ⟨d', { hentry with enters := hentry.enters.accept _ }⟩
  answered number d' hd' hanswer :=
    have hlt := Nat.lt_of_lt_of_le (ho.lt_of_mem_answers hanswer) ho.taken_le
    h.answered number d' ⟨hd'.1.of_accept hlt, hd'.2⟩ hanswer
  untouched id hothers := h.untouched id fun number d' hd' hlt => hothers number d' (hd'.accept _) hlt

/-- A part of a task changes what is kept under the id of its document, and nothing else. -/
structure Confined (s : Service) (e : Engine) (d : Document) : Prop where
  rules : s.engine.indexes.SameRules e.indexes
  backs : ∃ g, e.Backs g
  kept : ∀ id, id ≠ d.id → e.indexes.kept id = s.engine.indexes.kept id

theorem HasEntry.confined {a : Assignment} {e : Engine} {d' : Document} {taken : List ℕ} (h : before.HasEntry s a d')
    (hconfined : s.Confined e d) (hne : d'.id ≠ d.id) : before.HasEntry { s with engine := e, taken } a d' where
  enters := h.enters
  stage := h.stage
  kept := (hconfined.kept _ hne).trans h.kept
  changes hcommit := by
    show (e.indexes.kept d'.id).changes d' = true
    rw [hconfined.kept _ hne]
    exact h.changes hcommit

/-- A worker has done a part of one task; the others are as they were. -/
theorem Indexing.confined (h : before.Indexing s) (hd : before.Distinct s) (henters : before.Enters s number d)
    {e : Engine} (hconfined : s.Confined e d) {taken : List ℕ} (htaken : s.taken.length ≤ taken.length)
    (hnumber : number < taken.length)
    (hbegun : ∀ a ∈ e.begun, a ∈ s.engine.begun ∧ a.number ≠ number ∨
      before.HasEntry { s with engine := e, taken } a d)
    (hanswers : ∀ answered ∈ e.answers.map Prod.fst,
      answered ∈ s.engine.answers.map Prod.fst ∧ answered ≠ number ∨
        answered = number ∧ e.indexes.kept d.id = before.engine.indexes.keptAfter d) :
    before.Indexing { s with engine := e, taken } where
  rules := h.rules.trans hconfined.rules
  backs := hconfined.backs
  taken := Nat.le_trans h.taken htaken
  documents := h.documents
  begun a ha := by
    rcases hbegun a ha with ⟨hold, hne⟩ | hentry
    · obtain ⟨d', hentry⟩ := h.begun a hold
      exact ⟨d', hentry.confined hconfined fun hid => hne (hd _ _ d' d hentry.enters henters hid)⟩
    · exact ⟨d, hentry⟩
  answered answered d' hd' hanswer := by
    rcases hanswers answered hanswer with ⟨hold, hne⟩ | ⟨rfl, hkept⟩
    · have hother : d'.id ≠ d.id := fun hid => hne (hd _ _ d' d hd' henters hid)
      exact (hconfined.kept _ hother).trans (h.answered answered d' hd' hold)
    · obtain rfl := Task.index.inj (Option.some_inj.mp (hd'.1.2.symm.trans henters.1.2))
      exact hkept
  untouched id hothers := by
    have hother : id ≠ d.id := (hothers number d henters hnumber).symm
    exact (hconfined.kept id hother).trans
      (h.untouched id fun number' d' hd' hlt => hothers number' d' hd' (Nat.lt_of_lt_of_le hlt htaken))

theorem Indexing.refused (h : before.Indexing s) (hbrings : before.Brings s number d)
    (hrefused : before.engine.indexes.admits d = false) {e : Engine} (hindexes : e.indexes = s.engine.indexes)
    (hbegun : e.begun = s.engine.begun) (hbacks : ∃ g, e.Backs g)
    (hanswers : ∀ answered ∈ e.answers.map Prod.fst,
      answered ∈ s.engine.answers.map Prod.fst ∨ answered = number)
    {taken : List ℕ} (htaken : s.taken.length ≤ taken.length) : before.Indexing { s with engine := e, taken } where
  rules := by
    show before.engine.indexes.SameRules e.indexes
    rw [hindexes]
    exact h.rules
  backs := hbacks
  taken := Nat.le_trans h.taken htaken
  documents := h.documents
  begun a ha := by
    obtain ⟨d', hentry⟩ := h.begun a (hbegun ▸ ha)
    refine ⟨d', hentry.enters, hentry.stage, ?_, ?_⟩
    all_goals dsimp only
    all_goals rw [hindexes]
    · exact hentry.kept
    · exact hentry.changes
  answered answered d' hd' hanswer := by
    show e.indexes.kept d'.id = _
    rw [hindexes]
    rcases hanswers answered hanswer with hold | rfl
    · exact h.answered answered d' hd' hold
    · obtain rfl := Task.index.inj (Option.some_inj.mp (hd'.1.2.symm.trans hbrings.2))
      rw [hd'.2] at hrefused
      cases hrefused
  untouched id hothers := by
    show e.indexes.kept id = _
    rw [hindexes]
    exact h.untouched id fun number' d' hd' hlt => hothers number' d' hd' (Nat.lt_of_lt_of_le hlt htaken)

theorem Indexing.take (h : before.Indexing s) (ho : s.Orderly) (hd : before.Distinct s)
    (hafter : s.after .take = some s') : before.Indexing s' := by
  obtain ⟨job, rest, hqueue, hidle, rfl⟩ := of_after_take hafter
  have hfree : s.engine.begun.length + s.left < s.engine.config.workers := of_decide_eq_true hidle
  have hpending : s.pending = job :: rest := by
    rw [← hqueue, ho.queue, ho.toStaffed.not_deserted hidle, if_neg Bool.false_ne_true]
  obtain ⟨hnumber, htask, -⟩ := pending_cons hpending
  obtain ⟨d, hbrings⟩ := h.documents job.number (hnumber ▸ h.taken) (List.getElem?_eq_some_iff.mp htask).1
  have hjob : job.task = .index d := Option.some_inj.mp (htask.symm.trans hbrings.2)
  have hlength : (s.taken ++ [job.number]).length = s.taken.length + 1 := List.length_append
  obtain ⟨g, hbacks⟩ := h.backs
  have hbacks' := hbacks.takeTask.backs
  rcases Engine.takeTask_document (Nat.lt_of_le_of_lt (Nat.le_add_right _ _) hfree) hqueue hjob with
    ⟨cause, hrefused, htake⟩ | ⟨now, clock, hwritten, htake⟩
  · rw [h.rules.admits] at hrefused
    refine h.refused hbrings hrefused ?_ ?_ ⟨g, hbacks'⟩ (fun answered hanswer => ?_) (by omega)
    · rw [htake]
      rfl
    · rw [htake]
      rfl
    · rw [htake] at hanswer
      exact (List.mem_cons.mp hanswer).symm
  · have henters : before.Enters s job.number d := ⟨hbrings, (h.rules.admits d).symm.trans hwritten⟩
    -- nothing has been done under this id yet: the documents that were taken before are others
    have hkept : s.engine.indexes.kept d.id = before.engine.indexes.kept d.id := by
      refine h.untouched d.id fun number d' hd' hlt hid => ?_
      have hsame := hd number job.number d' d hd' henters hid
      omega
    have hput := s.engine.indexes.kept_put d now clock
    have hconfined : s.Confined s.engine.takeTask d := by
      refine ⟨?_, ⟨g, hbacks'⟩, fun id hid => ?_⟩
      all_goals rw [htake]
      · exact ⟨rfl, rfl, rfl⟩
      · exact (hput id).trans (if_neg hid)
    refine h.confined hd henters hconfined (by omega) (by omega) (fun a ha => ?_) fun answered hanswer => ?_
    · rw [htake] at ha ⊢
      rcases List.mem_append.mp ha with ha | ha
      · exact .inl ⟨ha, Nat.ne_of_lt (hnumber ▸ ho.lt_of_begun ha)⟩
      · obtain rfl := List.mem_singleton.mp ha
        refine .inr ⟨henters, rfl, ?_, nofun⟩
        exact (hput d.id).trans ((if_pos rfl).trans (congrArg (·.write d) hkept))
    · rw [htake] at hanswer
      exact .inl ⟨hanswer, Nat.ne_of_lt (hnumber ▸ ho.lt_of_mem_answers hanswer)⟩

theorem Indexing.move (h : before.Indexing s) (ho : s.Orderly) (hd : before.Distinct s) {position : ℕ}
    (hafter : s.after (.move position) = some s') : before.Indexing s' := by
  obtain ⟨a, hposition, hmove, rfl⟩ := of_after_move hafter
  have hmem := List.mem_of_getElem? hposition
  obtain ⟨d, hentry⟩ := h.begun a hmem
  obtain ⟨hopen, hallowed⟩ := Indexes.admits_iff.mp ((h.rules.admits d).trans hentry.enters.2)
  obtain ⟨g, hbacks⟩ := h.backs
  obtain ⟨g', hadvances⟩ := hbacks.moveWorker position
  have hbacks' := hadvances.backs
  obtain ⟨front, back, hbegun, hadvanced⟩ :=
    hbacks.moveWorker_document hposition hmove hentry.stage hopen hallowed hentry.changes
  obtain ⟨hothers, hunanswered⟩ := ho.apart hbegun
  have hpast : ∀ answered ∈ s.engine.answers.map Prod.fst, answered ≠ a.number := by
    rintro answered hanswer rfl
    exact hunanswered hanswer
  have hold : ∀ b ∈ front ++ back, b ∈ s.engine.begun ∧ b.number ≠ a.number := by
    intro b hb
    refine ⟨?_, hothers b hb⟩
    rw [hbegun]
    exact List.perm_middle.mem_iff.mpr (List.mem_cons_of_mem _ hb)
  have hlt := ho.lt_of_begun hmem
  generalize s.engine.moveWorker position = e at hbacks' hadvanced
  cases hadvanced with
  | @prepared vector commit hchanges hconfig =>
    have hkept : ∀ id, ({ s.engine.indexes with vector } : HybridSearch.Indexes).kept id =
        s.engine.indexes.kept id := by
      intro id
      rw [Indexes.kept, Indexes.kept, hconfig]
    have hconfined : s.Confined { s.engine with
        indexes := { s.engine.indexes with vector }
        begun := front ++ { a with commit := some commit } :: back } d :=
      ⟨⟨rfl, hconfig, rfl⟩, ⟨g', hbacks'⟩, fun id _ => hkept id⟩
    refine h.confined hd hentry.enters hconfined (Nat.le_refl _) hlt (fun b hb => ?_)
      fun answered hanswer => .inl ⟨hanswer, hpast answered hanswer⟩
    rcases List.mem_cons.mp (List.perm_middle.mem_iff.mp hb) with rfl | hb
    · exact .inr ⟨hentry.enters, hentry.stage, (hkept d.id).trans hentry.kept,
        fun _ => (congrArg (·.changes d) (hkept d.id)).trans hchanges⟩
    · exact .inl (hold b hb)
  | @finished ixs result hfinishes =>
    refine h.confined hd hentry.enters ⟨hfinishes.toSameRules, ⟨g', hbacks'⟩, fun id hid => ?_⟩ (Nat.le_refl _) hlt
      (fun b hb => .inl (hold b hb)) fun answered hanswer => ?_
    · exact (hfinishes.kept id).trans (if_neg hid)
    · rcases List.mem_cons.mp hanswer with rfl | hanswer
      · refine .inr ⟨rfl, (hfinishes.kept d.id).trans ?_⟩
        rw [if_pos rfl, hentry.kept, h.rules.faults, Indexes.keptAfter, if_pos hentry.enters.2]
      · exact .inl ⟨hanswer, hpast answered hanswer⟩

theorem Indexing.turn (h : before.Indexing s) (ho : s.Orderly) (hd : before.Distinct s) {event : Event}
    (hturn : event.IsTurn) (hafter : s.after event = some s') : before.Indexing s' := by
  cases hturn with
  | take => exact h.take ho hd hafter
  | move position => exact h.move ho hd hafter

end HybridSearch.Service
