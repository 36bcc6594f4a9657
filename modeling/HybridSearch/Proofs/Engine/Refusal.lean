import HybridSearch.Proofs.Engine.Protocol

/-!
# Refused tasks leave everything as it was

A task that its checks refuse is answered as soon as a worker takes it. Apart from the counter of failed tasks
nothing has changed then, also when the task was to replace a document.
-/
namespace HybridSearch

namespace Service

variable {s s' : Service}

theorem Orderly.not_isValidation_of_move (h : s.Orderly) {position : Nat}
    (hafter : s.after (.move position) = some s') {number : Nat} {e : EngineError}
    (hanswer : (number, .error e) ∈ s'.engine.answers)
    (hnew : (number, .error e) ∉ s.engine.answers) : e.isValidation = false := by
  obtain ⟨a, hposition, hmove, rfl⟩ := of_after_move hafter
  obtain ⟨t, -, hcarries⟩ := h.begun a (List.mem_of_getElem? hposition)
  obtain ⟨before, after, -, hmoved⟩ := Engine.moveWorker_cases hposition hmove hcarries
  rcases hmoved with ⟨vector, commit, -, -, -, hmoved⟩ | ⟨ixs, hconfig, hgoes⟩
  · have hsame : (s.engine.moveWorker position).answers = s.engine.answers := by rw [hmoved]
    exact absurd (hsame ▸ hanswer) hnew
  · rcases hgoes.of_mem_answers hanswer with hold | ⟨-, result, hcomes, hresult⟩
    · exact absurd hold hnew
    · have hproper : t.Proper ixs.vector.config := hconfig ▸ hcarries.stage.proper_of_reached.1
      cases result with
      | ok outcome => cases hresult
      | error cause =>
        rw [Except.error.inj hresult, ← Bool.not_eq_true, hcomes.isValidation_iff, not_not]
        exact hproper

theorem take_refused {number : Nat} {task : Task} {rest : List Job}
    (hqueue : s.engine.queue = ⟨number, task⟩ :: rest)
    (himproper : ¬task.Proper s.engine.indexes.vector.config) (hafter : s.after .take = some s') :
    ∃ e, e.isValidation = true ∧ s'.engine = { s.engine with
      queue := rest
      answers := (number, .error e) :: s.engine.answers
      statistics := s.engine.statistics.recordFailure rest.length } := by
  obtain ⟨_, _, _, hidle, rfl⟩ := of_after_take hafter
  have hfree : s.engine.begun.length + s.left < s.engine.config.workers := of_decide_eq_true hidle
  exact Engine.takeTask_refused (Nat.lt_of_le_of_lt (Nat.le_add_right _ _) hfree) hqueue himproper

theorem Orderly.unchanged (h : s.Orderly) {event : Event} {number : Nat} {e : EngineError}
    (hafter : s.after event = some s') (hanswer : (number, .error e) ∈ s'.engine.answers)
    (hnew : (number, .error e) ∉ s.engine.answers) (he : e.isValidation = true) :
    event = .take ∧ ∃ task rest, s.engine.queue = ⟨number, task⟩ :: rest ∧ s'.engine = { s.engine with
      queue := rest
      answers := (number, .error e) :: s.engine.answers
      statistics := s.engine.statistics.recordFailure rest.length } := by
  have hothers : s.worksFor? event = none → False := fun hnobody =>
    hnew ((of_worksFor?_eq_none hafter hnobody).1 ▸ hanswer)
  cases event with
  | take =>
    refine ⟨rfl, ?_⟩
    obtain ⟨⟨taken, task⟩, rest, hqueue, hidle, hafter'⟩ := of_after_take hafter
    by_cases hproper : task.Proper s.engine.indexes.vector.config
    · have hfree : s.engine.begun.length + s.left < s.engine.config.workers := of_decide_eq_true hidle
      obtain ⟨text, hgoes⟩ :=
        Engine.takeTask_goesOn (Nat.lt_of_le_of_lt (Nat.le_add_right _ _) hfree) hqueue
      rw [hafter'] at hanswer
      rcases hgoes.of_mem_answers hanswer with hold | ⟨-, result, hcomes, hresult⟩
      · exact absurd hold hnew
      · cases result with
        | ok outcome => cases hresult
        | error cause =>
          have himproper := hcomes.isValidation_iff.mp (Except.error.inj hresult ▸ he)
          exact absurd hproper himproper
    · obtain ⟨cause, -, hengine⟩ := take_refused hqueue hproper hafter
      rw [hengine] at hanswer
      rcases List.mem_cons.mp hanswer with hsame | hold
      · cases hsame
        exact ⟨task, rest, hqueue, hengine⟩
      · exact absurd hold hnew
  | move position =>
    rw [h.not_isValidation_of_move hafter hanswer hnew] at he
    cases he
  | _ => exact (hothers rfl).elim

end Service

end HybridSearch
