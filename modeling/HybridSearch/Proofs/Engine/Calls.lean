import HybridSearch.Proofs.Engine.Loading

/-!
# The calls of a loading come to their ends

Each document that was accepted belongs to one call, and what the loader has learnt of a call is what the engine
has answered. As long as the loading is not finished something can happen, and each event leaves fewer to come.
-/
namespace HybridSearch

theorem Service.Orderly.answer?_of_mem {s : Service} (h : s.Orderly) {number : ℕ} {result : Except EngineError Unit}
    (hanswer : (number, result) ∈ s.engine.answers) : s.engine.answer? number = some result := by
  obtain ⟨front, back, hanswers⟩ := List.append_of_mem hanswer
  refine List.lookup_eq_some_iff.mpr ⟨front, back, hanswers, fun answer hfirst => bne_iff_ne.mpr ?_⟩
  have hnodup := h.nodup_answers
  rw [hanswers, List.map_append, List.map_cons] at hnodup
  rintro rfl
  exact (List.nodup_append.mp hnodup).2.2 answer.1 (List.mem_map_of_mem hfirst) _ List.mem_cons_self rfl

theorem Service.Orderly.refused {s : Service} (h : s.Orderly) (hopen : s.engine.isOpen = true) {d : Document}
    {cause : EngineError} (hoffer : s.offer false (.index d) = .error cause) :
    cause = .enqueueTimeout s.engine.config.enqueueTimeout := by
  by_cases hroom : s.engine.queue.length < s.engine.config.queueSize
  · rw [(h.submit hopen hroom (.index d)).2] at hoffer
    cases hoffer
  · have hstaffed := h.toStaffed.not_deserted_of_left (h.isOpen hopen).1
    rw [Service.offer, hopen, hstaffed] at hoffer
    exact (Except.error.inj ((if_pos (Nat.le_of_not_lt hroom)).symm.trans hoffer)).symm

namespace Flight

def number? : Flight → Option ℕ
  | calling _ => none
  | waiting _ number => some number
  | refused _ _ => none

/-- The events that are left at most until the call has been waited for, those of the workers apart once the
document has been accepted. -/
def eventsLeft : Flight → ℕ
  | calling _ => Engine.stepsPerTask + 2
  | waiting _ _ => 1
  | refused _ _ => 1

theorem mem_replaced {flights front back : List Flight} {f f' g : Flight}
    (h : g ∈ flights ++ (front ++ f' :: back)) : g = f' ∨ g ∈ flights ++ (front ++ f :: back) := by
  simp only [List.mem_append, List.mem_cons] at h ⊢
  tauto

end Flight

namespace Loading

variable {before : Service} {l l' : Loading} {d : Document}

def calls (l : Loading) : List Flight := l.joined.map Prod.fst ++ l.inFlight

/-- Each document that was accepted since `before` belongs to one call, and the loader knows of the calls that it
has waited for what they came to. -/
structure Tracked (before : Service) (l : Loading) : Prop where
  numbers : (List.range before.tasks.length ++ l.calls.filterMap Flight.number?).Perm
    (List.range l.service.tasks.length)
  tasks : ∀ d number, .waiting d number ∈ l.calls → l.service.tasks[number]? = some (.index d)
  refused : ∀ d cause, .refused d cause ∈ l.calls → cause = .enqueueTimeout before.engine.config.enqueueTimeout
  joined : ∀ outcome ∈ l.joined, outcome.1.answer? l.service.engine = some outcome.2

/-- Nobody but the loader has used the service since `before`. -/
structure Running (before : Service) (l : Loading) : Prop extends l.Tracked before where
  reached : l.service.Reached
  isOpen : l.service.engine.isOpen = true
  isHeld : l.service.engine.isHeld = false
  config : l.service.engine.config = before.engine.config
  indexing : (∃ g, before.engine.Backs g) → before.Distinct l.service → before.Indexing l.service

theorem Running.accept (h : l.Running before) {front back : List Flight}
    (hflight : l.inFlight = front ++ .calling d :: back)
    (hoffer : l.service.offer false (.index d) = .ok (l.service.accept (.index d))) :
    ({ l with
        service := l.service.accept (.index d)
        inFlight := front ++ .waiting d l.service.tasks.length :: back } : Loading).Running before := by
  have hreached : (l.service.accept (.index d)).Reached := by
    refine h.reached.step (.call false (.index d)) ?_
    rw [Service.after, hoffer]
    rfl
  have hcalls : l.calls = l.joined.map Prod.fst ++ (front ++ .calling d :: back) := congrArg _ hflight
  refine ⟨⟨?_, fun d' number hmem => ?_, fun d' cause hmem => ?_, h.joined⟩, hreached, h.isOpen, h.isHeld, h.config,
    fun hbacks hdistinct => (h.indexing hbacks hdistinct.of_accept).accept h.reached.orderly d⟩
  · have hnumbers := h.numbers
    show (_ ++ (_ ++ (front ++ .waiting d l.service.tasks.length :: back)).filterMap Flight.number?).Perm _
    rw [Service.length_accept, List.range_succ]
    refine List.Perm.trans ?_ (hnumbers.append_right _)
    rw [hcalls]
    simp only [List.filterMap_append, List.filterMap_cons, Flight.number?, List.append_assoc]
    refine List.Perm.append_left _ (List.Perm.append_left _ (List.Perm.append_left _ ?_))
    exact (List.perm_append_singleton _ _).symm
  · rcases Flight.mem_replaced hmem with hnew | hold
    · cases hnew
      exact List.getElem?_concat_length
    · exact Service.getElem?_accept (h.tasks d' number (hcalls ▸ hold)) _
  · rcases Flight.mem_replaced hmem with hnew | hold
    · cases hnew
    · exact h.refused d' cause (hcalls ▸ hold)

theorem Running.refuse (h : l.Running before) {front back : List Flight} {cause : EngineError}
    (hflight : l.inFlight = front ++ .calling d :: back)
    (hoffer : l.service.offer false (.index d) = .error cause) :
    ({ l with inFlight := front ++ .refused d cause :: back } : Loading).Running before := by
  have hcalls : l.calls = l.joined.map Prod.fst ++ (front ++ .calling d :: back) := congrArg _ hflight
  refine { h with numbers := ?_, tasks := fun d' number hmem => ?_, refused := fun d' other hmem => ?_ }
  · have hnumbers := h.numbers
    rw [hcalls] at hnumbers
    simpa only [calls, List.filterMap_append, List.filterMap_cons, Flight.number?] using hnumbers
  · rcases Flight.mem_replaced hmem with hnew | hold
    · cases hnew
    · exact h.tasks d' number (hcalls ▸ hold)
  · rcases Flight.mem_replaced hmem with hnew | hold
    · cases hnew
      rw [← h.config]
      exact h.reached.orderly.refused h.isOpen hoffer
    · exact h.refused d' other (hcalls ▸ hold)

theorem Running.turn (h : l.Running before) {event : Service.Event} {service : Service} (hturn : event.IsTurn)
    (hafter : l.service.after event = some service) : ({ l with service } : Loading).Running before := by
  have horderly := h.reached.orderly
  have hturned := horderly.turned hturn hafter
  have hreached := h.reached.step event hafter
  refine ⟨⟨?_, fun d number hmem => ?_, h.refused, fun outcome houtcome => ?_⟩, hreached,
    hturned.isOpen.trans h.isOpen, hturned.isHeld.trans h.isHeld, hturned.config.trans h.config,
    fun hbacks hdistinct => ?_⟩
  · show (_ ++ l.calls.filterMap Flight.number?).Perm (List.range service.tasks.length)
    rw [hturned.tasks]
    exact h.numbers
  · show service.tasks[number]? = some (.index d)
    rw [hturned.tasks]
    exact h.tasks d number hmem
  · have hanswer := h.joined outcome houtcome
    obtain ⟨f, answer⟩ := outcome
    cases f with
    | calling d => cases hanswer
    | waiting d number =>
      have hmem := Engine.mem_answers_of_answer? hanswer
      exact hreached.orderly.answer?_of_mem (hturned.answers _ hmem)
    | refused d cause => exact hanswer
  · have hold := hdistinct.of_tasks hturned.tasks
    exact (h.indexing hbacks hold).turn horderly hold hturn hafter

theorem Running.join (h : l.Running before) {front back : List Flight} {f : Flight}
    {answer : Except EngineError Unit} (hflight : l.inFlight = front ++ f :: back)
    (hanswer : f.answer? l.service.engine = some answer) :
    ({ l with
        inFlight := front ++ back
        report := l.report.count answer
        joined := l.joined ++ [(f, answer)] } : Loading).Running before := by
  have hcalls : ((l.joined ++ [(f, answer)]).map Prod.fst ++ (front ++ back)).Perm l.calls := by
    rw [calls, hflight, List.map_append, List.map_cons, List.map_nil, List.append_assoc, List.singleton_append]
    exact List.Perm.append_left _ List.perm_middle.symm
  refine { h with
    numbers := ((hcalls.filterMap _).append_left _).trans h.numbers
    tasks := fun d' number hmem => h.tasks d' number (hcalls.mem_iff.mp hmem)
    refused := fun d' cause hmem => h.refused d' cause (hcalls.mem_iff.mp hmem)
    joined := fun outcome houtcome => ?_ }
  rcases List.mem_append.mp houtcome with hold | hnew
  · exact h.joined outcome hold
  · obtain rfl := List.mem_singleton.mp hnew
    exact hanswer

theorem Running.step (h : l.Running before) (hstep : l.Step l') : l'.Running before := by
  cases hstep with
  | skip | reject => exact { h with }
  | @spawn line lines d _ _ _ _ =>
    have hold : ∀ f ∈ l.joined.map Prod.fst ++ (l.inFlight ++ [Flight.calling d]),
        f ≠ .calling d → f ∈ l.calls := by
      intro f hf hne
      rw [← List.append_assoc] at hf
      exact (List.mem_append.mp hf).resolve_right fun hnew => hne (List.mem_singleton.mp hnew)
    refine { h with
      numbers := ?_
      tasks := fun d' number hmem => h.tasks d' number (hold _ hmem nofun)
      refused := fun d' cause hmem => h.refused d' cause (hold _ hmem nofun) }
    have hnone : [Flight.calling d].filterMap Flight.number? = [] := rfl
    have hnumbers := h.numbers
    simpa only [calls, List.filterMap_append, hnone, List.append_nil] using hnumbers
  | accept hflight hoffer => exact h.accept hflight hoffer
  | refuse hflight hoffer => exact h.refuse hflight hoffer
  | turn hturn hafter => exact h.turn hturn hafter
  | join _ hflight hanswer => exact h.join hflight hanswer

theorem running_start {s : Service} (h : s.Reached) (hidle : s.engine.Idle) (corpus : String) :
    (start s corpus).Running s where
  reached := h
  isOpen := hidle.isOpen
  isHeld := hidle.isHeld
  config := rfl
  numbers := .of_eq (List.append_nil _)
  tasks _ _ hmem := by cases hmem
  refused _ _ hmem := by cases hmem
  joined _ hmem := by cases hmem
  indexing hbacks _ := h.orderly.indexing hbacks hidle.isOpen hidle.queue hidle.begun

def eventsLeft (l : Loading) : ℕ :=
  (Engine.stepsPerTask + 3) * l.lines.length + (l.inFlight.map Flight.eventsLeft).sum + l.service.engine.stepsLeft

theorem Running.eventsLeft_lt (h : l.Running before) (hstep : l.Step l') : l'.eventsLeft < l.eventsLeft := by
  cases hstep with
  | skip hlines | reject hlines =>
    simp only [eventsLeft, hlines, List.length_cons, Engine.stepsPerTask]
    omega
  | spawn hlines =>
    simp only [eventsLeft, hlines, List.length_cons, List.map_append, List.map_cons, List.map_nil,
      List.sum_append, List.sum_singleton, Flight.eventsLeft, Engine.stepsPerTask]
    omega
  | accept hflight =>
    -- the steps of the workers were counted with the call, and are now counted with the queue
    simp only [eventsLeft, hflight, List.map_append, List.map_cons, List.sum_append, List.sum_cons,
      Flight.eventsLeft, Service.accept, Engine.enqueue, Engine.stepsLeft, List.length_append, List.length_singleton,
      Engine.stepsPerTask]
    omega
  | refuse hflight =>
    simp only [eventsLeft, hflight, List.map_append, List.map_cons, List.sum_append, List.sum_cons,
      Flight.eventsLeft, Engine.stepsPerTask]
    omega
  | turn hturn hafter => exact Nat.add_lt_add_left (h.reached.orderly.turned hturn hafter).stepsLeft _
  | @join front back f answer _ hflight =>
    have hpos : 0 < f.eventsLeft := by cases f <;> exact Nat.succ_pos _
    simp only [eventsLeft, hflight, List.map_append, List.map_cons, List.sum_append, List.sum_cons]
    omega

theorem Running.exists_after_of_inFlight (h : l.Running before) (hwait : l.mustWait = true) {f : Flight}
    {others : List Flight} (hflight : l.inFlight = f :: others) : ∃ event l', l.after event = some l' := by
  have hjoin : ∀ answer, f.answer? l.service.engine = some answer → ∃ event l', l.after event = some l' := by
    intro answer hanswer
    refine ⟨.join 0, Option.isSome_iff_exists.mp ?_⟩
    rw [after, if_pos hwait, hflight]
    dsimp only [List.getElem?_cons_zero]
    rw [hanswer]
    rfl
  cases f with
  | calling d =>
    refine ⟨.call 0, ?_⟩
    rw [after, hflight]
    dsimp only [List.getElem?_cons_zero]
    split
    · exact ⟨_, rfl⟩
    · exact ⟨_, rfl⟩
  | refused d cause => exact hjoin _ rfl
  | waiting d number =>
    cases hanswer : l.service.engine.answer? number with
    | some answer => exact hjoin answer hanswer
    | none =>
      have hmem : Flight.waiting d number ∈ l.calls := by
        rw [calls, hflight]
        exact List.mem_append_right _ List.mem_cons_self
      have haccepted := (List.getElem?_eq_some_iff.mp (h.tasks d number hmem)).1
      obtain ⟨event, service, hturn, hafter⟩ :=
        h.reached.orderly.exists_turn h.isOpen h.isHeld haccepted hanswer
      cases hturn with
      | take =>
        refine ⟨.take, { l with service }, ?_⟩
        rw [after, hafter]
        rfl
      | move position =>
        refine ⟨.move position, { l with service }, ?_⟩
        rw [after, hafter]
        rfl

theorem Running.exists_after (h : l.Running before) (hgoing : ¬l.Finished) :
    ∃ event l', l.after event = some l' := by
  cases hwait : l.mustWait with
  | true =>
    cases hflight : l.inFlight with
    | cons f others => exact h.exists_after_of_inFlight hwait hflight
    | nil =>
      rw [mustWait] at hwait
      split at hwait
      · next hlines => exact absurd ⟨hlines, hflight⟩ hgoing
      · have hworkers := h.reached.orderly.workers
        have hfull := of_decide_eq_true (Bool.and_eq_true_iff.mp hwait).2
        rw [hflight, window, List.length_nil] at hfull
        omega
  | false =>
    refine ⟨.read, ?_⟩
    rw [mustWait] at hwait
    rw [after]
    split at hwait
    · cases hwait
    · next line lines hlines =>
      rw [documentOn?] at hwait
      split
      · exact ⟨_, rfl⟩
      · next hblank =>
        rw [if_neg hblank] at hwait
        split
        · exact ⟨_, rfl⟩
        · next d hdocument =>
          rw [hdocument] at hwait
          rw [if_neg (Bool.eq_false_iff.mp (show l.isFull = false from hwait))]
          exact ⟨_, rfl⟩

/-- Some events lead from one loading to the other. -/
def Comes (l l' : Loading) : Prop := ∃ events, l.afterAll events = some l'

theorem Comes.refl (l : Loading) : l.Comes l := ⟨[], rfl⟩

theorem Comes.trans {l'' : Loading} (h : l.Comes l') (h' : l'.Comes l'') : l.Comes l'' := by
  obtain ⟨events, hafter⟩ := h
  obtain ⟨events', hafter'⟩ := h'
  refine ⟨events ++ events', ?_⟩
  rw [afterAll, List.foldlM_append]
  exact Option.bind_eq_some_iff.mpr ⟨l', hafter, hafter'⟩

theorem comes_of_after (event : Event) (h : l.after event = some l') : l.Comes l' :=
  ⟨[event], Option.bind_eq_some_iff.mpr ⟨l', h, rfl⟩⟩

theorem Comes.keeps {P : Loading → Prop} (hstep : ∀ l l' : Loading, P l → l.Step l' → P l') (h : l.Comes l')
    (hl : P l) : P l' := by
  obtain ⟨events, hafter⟩ := h
  induction events generalizing l with
  | nil => exact Option.some_inj.mp hafter ▸ hl
  | cons event events ih =>
    obtain ⟨l₁, hfirst, hrest⟩ := Option.bind_eq_some_iff.mp hafter
    exact ih (hstep l l₁ hl (step_of_after hfirst)) hrest

theorem Running.comes (h : l.Running before) (hcomes : l.Comes l') : l'.Running before :=
  hcomes.keeps (fun _ _ h hstep => h.step hstep) h

theorem Accounts.comes {lines : List (List Char)} (h : l.Accounts lines) (hr : l.Running before)
    (hcomes : l.Comes l') : l'.Accounts lines := by
  have hboth : ∀ l l' : Loading, l.Running before ∧ l.Accounts lines → l.Step l' →
      l'.Running before ∧ l'.Accounts lines := fun _ _ h hstep =>
    ⟨h.1.step hstep, h.2.step h.1.reached.orderly hstep⟩
  exact (hcomes.keeps hboth ⟨hr, h⟩).2

theorem Running.length_le (h : l.Running before) {events : List Event} (hafter : l.afterAll events = some l') :
    events.length + l'.eventsLeft ≤ l.eventsLeft := by
  induction events generalizing l with
  | nil =>
    obtain rfl := Option.some_inj.mp hafter
    exact Nat.le_of_eq (Nat.zero_add _)
  | cons event events ih =>
    obtain ⟨l₁, hfirst, hrest⟩ := Option.bind_eq_some_iff.mp hafter
    have hstep := step_of_after hfirst
    have hless := h.eventsLeft_lt hstep
    have hmore := ih (h.step hstep) hrest
    rw [List.length_cons]
    omega

end Loading

end HybridSearch
