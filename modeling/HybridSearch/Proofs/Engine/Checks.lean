import HybridSearch.Proofs.Engine.Stages
import HybridSearch.Proofs.VectorIndex.Confined

/-!
# The checks of a task come before its changes

Whatever the indexes hold, a task is refused before it has touched anything or not at all. Behind its checks
it can still fail, but only for reasons that lie with the indexes.
-/
namespace HybridSearch

/-- An error that a task comes to behind its checks: the text index is closed, or the vector index could not
do what it had let through. -/
def EngineError.IsFailure : EngineError → Prop
  | .text .closed => True
  | .vector cause => cause.IsInternal
  | .partialWrite _ _ cause => cause.IsInternal
  | _ => False

theorem EngineError.IsFailure.isValidation_eq {e : EngineError} (h : e.IsFailure) :
    e.isValidation = false := by
  cases e with
  | text cause => cases cause <;> first | rfl | exact h.elim
  | vector cause => cases cause <;> first | rfl | exact h.elim
  | partialWrite id compensated cause => rfl
  | _ => exact h.elim

/-- An error of a call that no worker executes. -/
def EngineError.IsRefusal : EngineError → Prop
  | .queueFull => True
  | .enqueueTimeout _ => True
  | .shutDown => True
  | _ => False

theorem EngineError.IsRefusal.isValidation_eq {e : EngineError} (h : e.IsRefusal) :
    e.isValidation = false := by
  cases e <;> first | rfl | exact h.elim

theorem EngineError.IsFailure.not_isRefusal {e : EngineError} (h : e.IsFailure) : ¬e.IsRefusal := by
  cases e <;> first | exact id | exact h.elim

def Task.Proper (config : VectorConfig) : Task → Prop
  | .index d => d.Allowed config
  | .update d => d.Allowed config
  | .delete id => checkId id = .ok ()

def Stage.Proper (config : VectorConfig) : Stage → Prop
  | .entryWritten d => d.Allowed config
  | .entryRemoved id replacement => checkId id = .ok () ∧ ∀ d, replacement = some d → d.Allowed config

/-- A task that its checks have let through is at one of its stages, or it is done or has failed. -/
inductive Progress.Proper (config : VectorConfig) (left : Nat) : Progress → Prop
  | reached {stage : Stage} (hstage : stage.Proper config) (hleft : stage.stepsLeft ≤ left) :
      Proper config left (.reached stage)
  | finished {result : TaskResult} (hresult : ∀ e, result = .error e → e.IsFailure) :
      Proper config left (.finished result)

theorem Progress.Proper.mono {config : VectorConfig} {left more : Nat} {progress : Progress}
    (h : progress.Proper config left) (hmore : left ≤ more) : progress.Proper config more := by
  cases h with
  | reached hstage hleft => exact .reached hstage (Nat.le_trans hleft hmore)
  | finished hresult => exact .finished hresult

theorem Stage.Proper.change {config : VectorConfig} {stage : Stage} (h : stage.Proper config) :
    stage.change.Allowed config := by
  cases stage with
  | entryWritten d => exact Document.Allowed.vectorChange h
  | entryRemoved id replacement => exact h.1

namespace VectorChange

variable {c : VectorChange} {ix : VectorIndex} {store : StoreHandle}

theorem prepare_config (c : VectorChange) (ix : VectorIndex) (store : StoreHandle) :
    (c.prepare ix store).1.config = ix.config := by
  cases c with
  | insert id v =>
    rw [prepare]
    split <;> rfl
  | delete id =>
    rw [prepare]
    split <;> rfl

/-- A change that was let through is worked out, unless something in the store stands in the way. -/
theorem prepare_isInternal (h : c.Allowed ix.config) {cause : VectorError}
    (hcause : (c.prepare ix store).2 = .error cause) : cause.IsInternal := by
  have hagree := StoreHandle.Agree.refl (VectorIndex.keysOf ix.config) store
  cases c with
  | insert id v =>
    simp only [prepare, VectorIndex.validate, h.1, h.2] at hcause
    refine (VectorIndex.prepareInsert_alike hagree id v ix.nextLevel).isInternal ?_
    cases hprepared : VectorIndex.prepareInsert ix.config store id v ix.nextLevel with
    | error e =>
      rw [hprepared] at hcause
      exact congrArg Except.error (Except.error.inj hcause)
    | ok commit =>
      rw [hprepared] at hcause
      cases hcause
  | delete id =>
    rw [prepare, show checkId id = .ok () from h] at hcause
    exact (VectorIndex.prepareDelete_alike hagree id).isInternal hcause

theorem write_config (c : VectorChange) (ix : VectorIndex) (store : StoreHandle) (commit : Commit) :
    (c.write ix store commit).index.config = ix.config := by
  cases c with
  | insert id v => exact ix.commitInsert_config store commit
  | delete id => exact ix.commitDelete_config store commit

theorem write_isInternal {commit : Commit} {cause : VectorError}
    (hcause : (c.write ix store commit).result = .error cause) : cause.IsInternal := by
  cases c with
  | insert id v => exact VectorIndex.commitInsert_isInternal hcause
  | delete id =>
    rw [write] at hcause
    cases hresult : (ix.commitDelete store commit).result with
    | error e =>
      rw [hresult] at hcause
      exact Except.error.inj hcause ▸ VectorIndex.commitDelete_isInternal hresult
    | ok removed =>
      rw [hresult] at hcause
      cases hcause

end VectorChange

namespace Indexes

variable {ixs : Indexes} {config : VectorConfig}

theorem start_refused {t : Task} (h : ¬t.Proper ixs.vector.config) :
    ∃ e, e.isValidation = true ∧ ixs.start t = (ixs, .finished (.error e)) := by
  cases t with
  | index d =>
    rcases ixs.checkDocument_cases d with ⟨e, hcheck, he⟩ | ⟨-, hd⟩
    · exact ⟨e, he, (start_of_error hcheck).1⟩
    · exact absurd hd h
  | update d =>
    rcases ixs.checkDocument_cases d with ⟨e, hcheck, he⟩ | ⟨-, hd⟩
    · exact ⟨e, he, (start_of_error hcheck).2⟩
    · exact absurd hd h
  | delete id =>
    cases hid : checkId id with
    | ok u => exact absurd hid h
    | error fault =>
      refine ⟨.invalidQuery (.documentId fault), rfl, ?_⟩
      rw [Indexes.start, Indexes.removeEntry, hid]
      rfl

theorem text_index_error {text : TextIndex} {d : Document} (hd : d.Allowed config) {e : TextError}
    (h : text.index d.toEntry = .error e) : e = .closed := by
  rw [TextIndex.index, checkEntry_toEntry hd, TextIndex.ensureOpen] at h
  cases hopen : text.isOpen with
  | true =>
    rw [hopen] at h
    cases h
  | false =>
    rw [hopen] at h
    exact (Except.error.inj h).symm

theorem text_delete_error {text : TextIndex} {id : String} {e : TextError}
    (h : text.delete id = .error e) : e = .closed := by
  rw [TextIndex.delete, TextIndex.ensureOpen] at h
  cases hopen : text.isOpen with
  | true =>
    rw [hopen] at h
    cases h
  | false =>
    rw [hopen] at h
    exact (Except.error.inj h).symm

/-- Indexing a document that is let through writes its text entry, unless the text index is closed. -/
theorem start_index_proper {d : Document} (hd : d.Allowed ixs.vector.config) :
    ∃ text progress, ixs.start (.index d) = ({ ixs with text }, progress) ∧
      progress.Proper ixs.vector.config 2 := by
  rw [Indexes.start, Indexes.writeEntry, checkDocument_ok hd]
  cases hindex : ixs.text.index d.toEntry with
  | ok text => exact ⟨text, _, rfl, .reached hd (Nat.le_refl 2)⟩
  | error e =>
    refine ⟨ixs.text, _, rfl, .finished fun e' he' => ?_⟩
    obtain rfl := text_index_error hd hindex
    exact Except.error.inj he' ▸ trivial

/-- Removing the entry of an id leads to the stage behind it, unless the text index is closed. -/
theorem reach_removeEntry {id : String} (hid : checkId id = .ok ()) {replacement : Option Document}
    (hreplacement : ∀ d, replacement = some d → d.Allowed ixs.vector.config) :
    ∃ text progress, ixs.reach (ixs.removeEntry id) (.entryRemoved id replacement) =
      ({ ixs with text }, progress) ∧ progress.Proper ixs.vector.config 4 := by
  rw [Indexes.removeEntry, hid]
  cases hdelete : ixs.text.delete id with
  | ok o => exact ⟨o.1, _, rfl, .reached ⟨hid, hreplacement⟩ (Nat.le_refl 4)⟩
  | error e =>
    refine ⟨ixs.text, _, rfl, .finished fun e' he' => ?_⟩
    obtain rfl := text_delete_error hdelete
    exact Except.error.inj he' ▸ trivial

theorem start_proper {t : Task} (h : t.Proper ixs.vector.config) :
    ∃ text progress, ixs.start t = ({ ixs with text }, progress) ∧
      progress.Proper ixs.vector.config 4 := by
  cases t with
  | index d =>
    obtain ⟨text, progress, hstart, hprogress⟩ := start_index_proper h
    exact ⟨text, progress, hstart, hprogress.mono (by decide)⟩
  | update d =>
    rw [Indexes.start, checkDocument_ok h]
    exact reach_removeEntry h.id fun d' hd' => Option.some_inj.mp hd' ▸ h
  | delete id => exact reach_removeEntry h fun d hd => by cases hd

/-- Behind a change of the vector index a task is done, has failed or goes on to its last stage. -/
theorem proceed_proper {stage : Stage} (h : stage.Proper ixs.vector.config)
    {changed : Except VectorError Unit} (hchanged : ∀ cause, changed = .error cause → cause.IsInternal) :
    ∃ text progress, ixs.proceed stage changed = ({ ixs with text }, progress) ∧
      progress.Proper ixs.vector.config (stage.stepsLeft - 2) := by
  cases stage with
  | entryWritten d =>
    cases changed with
    | ok u => exact ⟨ixs.text, _, rfl, .finished fun e he => by cases he⟩
    | error cause =>
      have hfailure : ∀ compensated e,
          (.error (.partialWrite d.id compensated cause) : TaskResult) = .error e → e.IsFailure :=
        fun compensated e he => Except.error.inj he ▸ hchanged cause rfl
      rw [Indexes.proceed, Indexes.finishEntry, Indexes.compensate]
      cases ixs.text.delete d.id with
      | ok o => exact ⟨o.1, _, rfl, .finished (hfailure true)⟩
      | error e => exact ⟨ixs.text, _, rfl, .finished (hfailure false)⟩
  | entryRemoved id replacement =>
    cases changed with
    | error cause =>
      refine ⟨ixs.text, _, rfl, .finished fun e he => ?_⟩
      exact Except.error.inj he ▸ hchanged cause rfl
    | ok u =>
      cases replacement with
      | none => exact ⟨ixs.text, _, rfl, .finished fun e he => by cases he⟩
      | some d => exact start_index_proper (h.2 d rfl)

end Indexes

end HybridSearch
