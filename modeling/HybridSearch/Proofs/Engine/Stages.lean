import HybridSearch.Proofs.Engine.Holding

/-!
# The stages of a write task

A task that its checks refuse changes nothing. Any other removes the text entry of its id or writes it
anew before it turns to the vector index, and a task that fails there leaves no text entry behind.
-/
namespace HybridSearch

namespace Task

def id : Task → String
  | index d => d.id
  | update d => d.id
  | delete id => id

def document? : Task → Option Document
  | index d => some d
  | update d => some d
  | delete _ => none

def apply (t : Task) (s : Holding) : Holding :=
  match t with
  | index d => s.put d
  | update d => s.put d
  | delete id => s.drop id

end Task

/-- A document that the checks of a task let through. -/
structure Document.Allowed (config : VectorConfig) (d : Document) : Prop where
  id : checkId d.id = .ok ()
  tenant : Tenant.isValid d.tenant = true
  embedding : ∀ v, d.embedding = some v → VectorIndex.checkVector config v = .ok ()

/-- What the failing store makes of a task, and what is held then. Only an update has taken the old
embedding away by the time that the new one fails. -/
inductive Task.Fails (s : Holding) : Task → EngineError → Holding → Prop
  | removing {t : Task} {fault : StoreFault} :
      Fails s t (.vector (.storage fault)) (s.setDocument t.id none)
  | indexing {d : Document} {fault : StoreFault} :
      Fails s (.index d) (.partialWrite d.id true (.storage fault)) (s.setDocument d.id none)
  | updating {d : Document} {fault : StoreFault} :
      Fails s (.update d) (.partialWrite d.id true (.storage fault)) (s.drop d.id)

/-- What a task comes to and what is held afterwards. It can only fail when a write can. -/
inductive Task.Effect (mayFail : Prop) (s : Holding) (t : Task) : Except EngineError Unit → Holding → Prop
  | done : Effect mayFail s t (.ok ()) (t.apply s)
  | refused {e : EngineError} (he : e.isValidation = true) : Effect mayFail s t (.error e) s
  | failed {e : EngineError} {s' : Holding} (hfail : mayFail) (h : t.Fails s e s') :
      Effect mayFail s t (.error e) s'

/-- The stages that a task reaches, with what is then held. -/
inductive Task.Reaches (config : VectorConfig) (s : Holding) : Task → Stage → Holding → Prop
  | entryWritten {d : Document} (hallowed : d.Allowed config) :
      Reaches config s (.index d) (.entryWritten d) (s.setDocument d.id (some d))
  | entryReplaced {d : Document} (hallowed : d.Allowed config) :
      Reaches config s (.update d) (.entryRemoved d.id (some d)) (s.setDocument d.id none)
  | entryRewritten {d : Document} (hallowed : d.Allowed config) :
      Reaches config s (.update d) (.entryWritten d) ((s.drop d.id).setDocument d.id (some d))
  | entryRemoved {id : String} (hid : checkId id = .ok ()) :
      Reaches config s (.delete id) (.entryRemoved id none) (s.setDocument id none)

/-- The steps of a worker that are left at a stage at most: each change of the vector index takes two. -/
def Stage.stepsLeft : Stage → Nat
  | entryWritten _ => 2
  | entryRemoved _ _ => 4

/-- Where a part of a task leads. -/
inductive Task.Leads (mayFail : Prop) (config : VectorConfig) (s : Holding) (t : Task) (left : Nat) :
    Progress → Holding → Prop
  | reached {stage : Stage} {s' : Holding} (hstage : t.Reaches config s stage s')
      (hleft : stage.stepsLeft ≤ left) : Leads mayFail config s t left (.reached stage) s'
  | finished {result : TaskResult} {s' : Holding}
      (heffect : t.Effect mayFail s (result.map fun _ => ()) s') :
      Leads mayFail config s t left (.finished result) s'

theorem Task.Fails.isValidation_eq {s s' : Holding} {t : Task} {e : EngineError} (h : t.Fails s e s') :
    e.isValidation = false := by
  cases h <;> rfl

/-- A task that fails leaves no document under its id, and the embedding as it was or none. -/
theorem Task.Fails.held {s s' : Holding} {t : Task} {e : EngineError} (h : t.Fails s e s') :
    s' = s.setDocument t.id none ∨ s' = s.drop t.id := by
  cases h with
  | removing => exact .inl rfl
  | indexing => exact .inl rfl
  | updating => exact .inr rfl

theorem Document.Allowed.vectorChange {config : VectorConfig} {d : Document} (h : d.Allowed config) :
    d.vectorChange.Allowed config := by
  rw [Document.vectorChange]
  cases hv : d.embedding with
  | none => exact h.id
  | some v => exact ⟨h.id, h.embedding v hv⟩

theorem Task.Reaches.allowed {config : VectorConfig} {s s' : Holding} {t : Task} {stage : Stage}
    (h : t.Reaches config s stage s') : stage.change.Allowed config := by
  cases h with
  | entryWritten hallowed => exact hallowed.vectorChange
  | entryReplaced hallowed => exact hallowed.id
  | entryRewritten hallowed => exact hallowed.vectorChange
  | entryRemoved hid => exact hid

namespace Indexes

variable {ixs : Indexes} {s s' : Holding} {t : Task} {d : Document}

theorem checkDocument_ok (h : d.Allowed ixs.vector.config) : ixs.checkDocument d = .ok () := by
  rw [checkDocument, h.id]
  simp only [h.tenant, Bool.not_true, Bool.false_eq_true, ↓reduceIte]
  cases hv : d.embedding with
  | none => rfl
  | some v =>
    simp only [VectorIndex.validate, h.id, h.embedding v hv]
    rfl

theorem isValidation_of_validate {ix : VectorIndex} {id : String} {v : Embedding} {e : VectorError}
    (h : ix.validate id v = .error e) : (EngineError.vector e).isValidation = true := by
  rw [VectorIndex.validate] at h
  split at h
  · obtain rfl := Except.error.inj h
    rfl
  · rw [VectorIndex.checkVector] at h
    split at h
    · obtain rfl := Except.error.inj h
      rfl
    · split at h
      · obtain rfl := Except.error.inj h
        rfl
      · cases h

theorem checkDocument_cases (ixs : Indexes) (d : Document) :
    (∃ e, ixs.checkDocument d = .error e ∧ e.isValidation = true) ∨
      ixs.checkDocument d = .ok () ∧ d.Allowed ixs.vector.config := by
  rw [checkDocument]
  cases hid : checkId d.id with
  | error fault => exact .inl ⟨_, rfl, rfl⟩
  | ok u =>
    cases htenant : Tenant.isValid d.tenant with
    | false => exact .inl ⟨_, rfl, rfl⟩
    | true =>
      cases hv : d.embedding with
      | none => exact .inr ⟨rfl, hid, htenant, fun v h => by rw [hv] at h; cases h⟩
      | some v =>
        cases hvalid : ixs.vector.validate d.id v with
        | error e =>
          exact .inl ⟨.vector e, congrArg (Except.mapError EngineError.vector) hvalid,
            isValidation_of_validate hvalid⟩
        | ok u =>
          refine .inr ⟨congrArg (Except.mapError EngineError.vector) hvalid, hid, htenant,
            fun v' h => ?_⟩
          rw [hv] at h
          obtain rfl := Option.some_inj.mp h
          exact VectorIndex.checkVector_of_validate hvalid

theorem allowed_of_checkDocument (h : ixs.checkDocument d = .ok ()) : d.Allowed ixs.vector.config := by
  rcases ixs.checkDocument_cases d with ⟨cause, hcheck, -⟩ | ⟨-, hd⟩
  · rw [h] at hcheck
    cases hcheck
  · exact hd

theorem checkEntry_toEntry {config : VectorConfig} (h : d.Allowed config) :
    TextIndex.checkEntry d.toEntry = .ok () := by
  have hid : d.id.isEmpty = false := by
    cases hempty : d.id.isEmpty with
    | false => rfl
    | true =>
      have hfault := h.id
      rw [checkId, hempty] at hfault
      cases hfault
  rw [TextIndex.checkEntry]
  simp only [Document.toEntry, hid, h.tenant, Bool.not_true, Bool.false_eq_true, ↓reduceIte]

theorem writeEntry_of_allowed (hopen : ixs.text.isOpen = true) (hd : d.Allowed ixs.vector.config) :
    ixs.writeEntry d = .ok { ixs with text := { ixs.text with
      tables := ixs.text.tables.put d.toEntry (ixs.text.clock + 1 : Nat)
      clock := ixs.text.clock + 1 } } := by
  rw [Indexes.writeEntry, checkDocument_ok hd, TextIndex.index, checkEntry_toEntry hd,
    TextIndex.ensureOpen, if_pos hopen]
  rfl

theorem removeEntry_of_isOpen (hopen : ixs.text.isOpen = true) {id : String} (hid : checkId id = .ok ()) :
    ixs.removeEntry id =
      .ok { ixs with text := { ixs.text with tables := ixs.text.tables.remove id } } := by
  rw [Indexes.removeEntry, hid, TextIndex.delete_of_isOpen hopen]
  rfl

theorem Holds.writeEntry (h : ixs.Holds s) (hd : d.Allowed ixs.vector.config) :
    ∃ text, ixs.writeEntry d = .ok { ixs with text } ∧
      { ixs with text }.Holds (s.setDocument d.id (some d)) :=
  ⟨_, writeEntry_of_allowed h.isOpen hd, h.isOpen, h.lists.put d _, h.stores⟩

theorem Holds.removeEntry (h : ixs.Holds s) {id : String} (hid : checkId id = .ok ()) :
    ∃ text, ixs.removeEntry id = .ok { ixs with text } ∧
      { ixs with text }.Holds (s.setDocument id none) :=
  ⟨_, removeEntry_of_isOpen h.isOpen hid, h.isOpen, h.lists.remove id, h.stores⟩

theorem Holds.compensate (h : ixs.Holds s) (id : String) (source : VectorError) :
    ∃ text, ixs.compensate id source = ({ ixs with text }, .partialWrite id true source) ∧
      { ixs with text }.Holds (s.setDocument id none) := by
  refine ⟨{ ixs.text with tables := ixs.text.tables.remove id }, ?_, h.isOpen, h.lists.remove id, h.stores⟩
  rw [Indexes.compensate, TextIndex.delete_of_isOpen h.isOpen]

theorem start_of_error {e : EngineError} (h : ixs.checkDocument d = .error e) :
    ixs.start (.index d) = (ixs, .finished (.error e)) ∧
      ixs.start (.update d) = (ixs, .finished (.error e)) := by
  refine ⟨?_, ?_⟩
  · rw [Indexes.start, Indexes.writeEntry, h]
    rfl
  · rw [Indexes.start, h]
    rfl

theorem Holds.start_index (h : ixs.Holds s) (hd : d.Allowed ixs.vector.config) :
    ∃ text, ixs.start (.index d) = ({ ixs with text }, .reached (.entryWritten d)) ∧
      { ixs with text }.Holds (s.setDocument d.id (some d)) := by
  obtain ⟨text, hwrite, hholds⟩ := h.writeEntry hd
  exact ⟨text, by rw [Indexes.start, hwrite]; rfl, hholds⟩

theorem Holds.start_update (h : ixs.Holds s) (hd : d.Allowed ixs.vector.config) :
    ∃ text, ixs.start (.update d) = ({ ixs with text }, .reached (.entryRemoved d.id (some d))) ∧
      { ixs with text }.Holds (s.setDocument d.id none) := by
  obtain ⟨text, hremove, hholds⟩ := h.removeEntry hd.id
  refine ⟨text, ?_, hholds⟩
  rw [Indexes.start, checkDocument_ok hd, hremove]
  rfl

theorem Holds.start_delete (h : ixs.Holds s) {id : String} (hid : checkId id = .ok ()) :
    ∃ text, ixs.start (.delete id) = ({ ixs with text }, .reached (.entryRemoved id none)) ∧
      { ixs with text }.Holds (s.setDocument id none) := by
  obtain ⟨text, hremove, hholds⟩ := h.removeEntry hid
  exact ⟨text, by rw [Indexes.start, hremove]; rfl, hholds⟩

theorem Holds.start (h : ixs.Holds s) (mayFail : Prop) (t : Task) :
    ∃ text progress s', ixs.start t = ({ ixs with text }, progress) ∧ { ixs with text }.Holds s' ∧
      t.Leads mayFail ixs.vector.config s 4 progress s' := by
  cases t with
  | index d =>
    rcases ixs.checkDocument_cases d with ⟨e, hcheck, he⟩ | ⟨-, hd⟩
    · exact ⟨_, _, s, (start_of_error hcheck).1, h, .finished (.refused he)⟩
    · obtain ⟨text, hstart, hholds⟩ := h.start_index hd
      exact ⟨text, _, _, hstart, hholds, .reached (.entryWritten hd) (Nat.le_add_left 2 2)⟩
  | update d =>
    rcases ixs.checkDocument_cases d with ⟨e, hcheck, he⟩ | ⟨-, hd⟩
    · exact ⟨_, _, s, (start_of_error hcheck).2, h, .finished (.refused he)⟩
    · obtain ⟨text, hstart, hholds⟩ := h.start_update hd
      exact ⟨text, _, _, hstart, hholds, .reached (.entryReplaced hd) (Nat.le_refl 4)⟩
  | delete id =>
    cases hid : checkId id with
    | error fault =>
      refine ⟨_, .finished (.error (.invalidQuery (.documentId fault))), s, ?_, h,
        .finished (.refused rfl)⟩
      rw [Indexes.start, Indexes.removeEntry, hid]
      rfl
    | ok u =>
      obtain ⟨text, hstart, hholds⟩ := h.start_delete hid
      exact ⟨text, _, _, hstart, hholds, .reached (.entryRemoved hid) (Nat.le_refl 4)⟩

/-- A task ends when a write of the vector index fails; its text entry is gone by then. -/
theorem Holds.proceed_error (h : ixs.Holds s') {config : VectorConfig} {stage : Stage}
    (hstage : t.Reaches config s stage s') {mayFail : Prop} (hfail : mayFail) (fault : StoreFault)
    (left : Nat) :
    ∃ text progress s'', ixs.proceed stage (.error (.storage fault)) = ({ ixs with text }, progress) ∧
      { ixs with text }.Holds s'' ∧ t.Leads mayFail config s left progress s'' := by
  cases hstage with
  | @entryWritten d _ =>
    obtain ⟨text, hcompensate, hholds⟩ := h.compensate d.id (.storage fault)
    rw [Holding.setDocument_setDocument] at hholds
    refine ⟨text, .finished (.error (.partialWrite d.id true (.storage fault))), _, ?_, hholds,
      .finished (.failed hfail .indexing)⟩
    rw [Indexes.proceed, Indexes.finishEntry, hcompensate]
  | @entryRewritten d _ =>
    obtain ⟨text, hcompensate, hholds⟩ := h.compensate d.id (.storage fault)
    rw [Holding.setDocument_setDocument, Holding.drop, Holding.setDocument_setEmbedding,
      Holding.setDocument_setDocument, ← Holding.drop] at hholds
    refine ⟨text, .finished (.error (.partialWrite d.id true (.storage fault))), _, ?_, hholds,
      .finished (.failed hfail .updating)⟩
    rw [Indexes.proceed, Indexes.finishEntry, hcompensate]
  | entryReplaced _ =>
    exact ⟨_, .finished (.error (.vector (.storage fault))), _, rfl, h,
      .finished (.failed hfail .removing)⟩
  | entryRemoved _ =>
    exact ⟨_, .finished (.error (.vector (.storage fault))), _, rfl, h,
      .finished (.failed hfail .removing)⟩

/-- Once the vector index has changed, a task is done or writes the entry that it removed anew. -/
theorem Holds.proceed_ok {stage : Stage} (h : ixs.Holds (stage.change.apply s')) (mayFail : Prop)
    (hstage : t.Reaches ixs.vector.config s stage s') :
    ∃ text progress s'', ixs.proceed stage (.ok ()) = ({ ixs with text }, progress) ∧
      { ixs with text }.Holds s'' ∧
      t.Leads mayFail ixs.vector.config s (stage.stepsLeft - 2) progress s'' := by
  cases hstage with
  | @entryWritten d _ =>
    rw [Stage.change, Document.apply_vectorChange, ← Holding.put] at h
    exact ⟨_, .finished (.ok (.indexed d.embedding.isSome)), _, rfl, h, .finished .done⟩
  | @entryRewritten d _ =>
    rw [Stage.change, Document.apply_vectorChange, ← Holding.put, Holding.put_of_drop] at h
    exact ⟨_, .finished (.ok (.indexed d.embedding.isSome)), _, rfl, h, .finished .done⟩
  | @entryReplaced d hallowed =>
    have hdropped : ixs.Holds (s.drop d.id) := h
    obtain ⟨text, hstart, hholds⟩ := hdropped.start_index hallowed
    exact ⟨text, _, _, hstart, hholds, .reached (.entryRewritten hallowed) (Nat.le_refl 2)⟩
  | entryRemoved _ => exact ⟨_, .finished (.ok .deleted), _, rfl, h, .finished .done⟩

end Indexes

end HybridSearch
