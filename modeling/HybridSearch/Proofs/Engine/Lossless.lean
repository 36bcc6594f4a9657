import HybridSearch.Proofs.Engine.Execution
import HybridSearch.Proofs.Engine.LoadOrder

/-!
# Loading loses nothing

The loader of an engine lets one call after the other come to its end, in an order that is given. This is one of
the ways in which the calls of a loading may come to their ends. Each of them keeps within the window, is over
after a bounded number of events, and has then counted every line.
-/
namespace HybridSearch.Loading

variable {before : Service} {load : Load} {l : Loading} {lines : List (List Char)}

/-- The calls in flight have still to offer their documents. -/
structure Mirrors (load : Load) (l : Loading) : Prop where
  engine : l.service.engine = load.engine
  report : l.report = load.report
  inFlight : l.inFlight = load.inFlight.map .calling
  idle : load.engine.Idle
  never : l.NoTimeout

theorem Mirrors.window (h : Mirrors load l) : load.window = l.window := by
  rw [Load.window, Loading.window, Service.workers, h.engine]

theorem Mirrors.length (h : Mirrors load l) : l.inFlight.length = load.inFlight.length := by
  rw [h.inFlight, List.length_map]

theorem mustWait_congr {l' : Loading} (hlines : l'.lines = l.lines) (hwindow : l'.window = l.window)
    (hlength : l'.inFlight.length = l.inFlight.length) : l'.mustWait = l.mustWait := by
  rw [mustWait, mustWait, isFull, isFull, hlines, hwindow, hlength]

theorem comes_of_turns {s s' : Service} (h : s.Turns s') (l : Loading) :
    ({ l with service := s } : Loading).Comes { l with service := s' } := by
  induction h with
  | still => exact .refl _
  | @turn s₁ s₂ _ event hturn hafter ih =>
    refine ih.trans ?_
    cases hturn with
    | take => exact comes_of_after .take (congrArg (Option.map _) hafter)
    | move position => exact comes_of_after (.move position) (congrArg (Option.map _) hafter)

theorem Running.comes_joined (hr : l.Running before) (hwait : l.mustWait = true) {place : ℕ} {d : Document}
    (hflight : l.inFlight[place]? = some (.calling d))
    (hroom : l.service.engine.queue.length < l.service.engine.config.queueSize) :
    ∃ service answer, l.service.engine.perform (.index d) = (service.engine, answer) ∧ l.Comes { l with
      service
      inFlight := l.inFlight.eraseIdx place
      report := l.report.count answer
      joined := l.joined ++ [(.waiting d l.service.tasks.length, answer)] } := by
  obtain ⟨service, hturns, hperform, -, hsettings, hanswered⟩ :=
    hr.reached.perform_turns hr.isOpen hroom (.index d)
  obtain ⟨answer, hanswer⟩ := hanswered hr.isHeld
  rw [hanswer, Option.getD_some] at hperform
  refine ⟨service, answer, hperform, ?_⟩
  -- the call offers its document, the workers get done with it, and the loader waits for it
  let offered : Loading := { l with
    service := l.service.accept (.index d)
    inFlight := l.inFlight.set place (.waiting d l.service.tasks.length) }
  let worked : Loading := { offered with service }
  have hoffer : l.after (.call place) = some offered := by
    rw [after, hflight]
    dsimp only
    rw [(hr.reached.orderly.submit hr.isOpen hroom (.index d)).2]
  have hturned : offered.Comes worked := comes_of_turns hturns offered
  have hwait' : worked.mustWait = l.mustWait :=
    mustWait_congr rfl (congrArg (fun c => 2 * c.workers) hsettings.config) List.length_set
  have hset : worked.inFlight[place]? = some (.waiting d l.service.tasks.length) :=
    List.getElem?_set_self (List.getElem?_eq_some_iff.mp hflight).1
  have herase : worked.inFlight.eraseIdx place = l.inFlight.eraseIdx place := List.eraseIdx_set_eq
  refine (comes_of_after (.call place) hoffer).trans (hturned.trans (comes_of_after (.join place) ?_))
  rw [after, hwait', hwait, if_pos rfl, hset, herase]
  exact congrArg (Option.map _) hanswer

theorem Mirrors.complete (h : Mirrors load l) (hr : l.Running before) (hwait : l.mustWait = true) {place : ℕ}
    (hplace : place < load.inFlight.length) :
    ∃ l', l.Comes l' ∧ Mirrors (load.complete place) l' ∧ l'.lines = l.lines ∧
      (load.complete place).inFlight.length + 1 = load.inFlight.length := by
  have hd := List.getElem?_eq_getElem hplace
  generalize load.inFlight[place] = d at hd
  have hflight : l.inFlight[place]? = some (.calling d) := by
    rw [h.inFlight, List.getElem?_map, hd]
    rfl
  have hroom : l.service.engine.queue.length < l.service.engine.config.queueSize := by
    rw [h.engine, h.idle.queue]
    exact h.idle.room
  obtain ⟨service, answer, hperform, hcomes⟩ := hr.comes_joined hwait hflight hroom
  rw [h.engine] at hperform
  have hidle := (h.idle.perform (.index d)).1
  have hcomplete : load.complete place = { load with
      engine := service.engine
      report := load.report.count answer
      inFlight := load.inFlight.eraseIdx place } := by
    rw [Load.complete, hd]
    dsimp only
    rw [hperform]
  rw [hperform] at hidle
  rw [hcomplete]
  refine ⟨_, hcomes, ⟨rfl, congrArg (·.count answer) h.report, ?_, hidle, ?_⟩, rfl, ?_⟩
  · rw [h.inFlight, List.eraseIdx_map]
  · have hjoined := hr.comes hcomes
    intro outcome houtcome milliseconds htimeout
    rcases List.mem_append.mp houtcome with hold | hnew
    · exact h.never outcome hold milliseconds htimeout
    · have hanswer := hjoined.joined outcome houtcome
      rw [htimeout] at hanswer
      obtain rfl := List.mem_singleton.mp hnew
      exact hjoined.reached.orderly.not_isRefusal (Engine.mem_answers_of_answer? hanswer) trivial
  · show (load.inFlight.eraseIdx place).length + 1 = _
    rw [List.length_eraseIdx_of_lt hplace]
    omega

theorem Mirrors.completeNext (h : Mirrors load l) (hr : l.Running before) (hwait : l.mustWait = true)
    (hsome : 0 < load.inFlight.length) :
    ∃ l', l.Comes l' ∧ Mirrors load.completeNext l' ∧ l'.lines = l.lines ∧
      load.completeNext.inFlight.length + 1 = load.inFlight.length := by
  have hnext : Mirrors { load with order := load.order.tail } l := { h with }
  exact hnext.complete hr hwait (Nat.mod_lt _ hsome)

theorem Mirrors.makeRoom (h : Mirrors load l) (hr : l.Running before) (ha : l.Accounts lines)
    (hwait : l.mustWait = true) (hfull : load.window ≤ load.inFlight.length) :
    ∃ l', l.Comes l' ∧ Mirrors load.completeNext l' ∧ l'.lines = l.lines ∧
      load.completeNext.inFlight.length < load.completeNext.window := by
  have hworkers := h.idle.workers
  have hsome : 0 < load.inFlight.length := by
    rw [Load.window] at hfull
    omega
  obtain ⟨l', hcomes, hmirrors, hlines, hlength⟩ := h.completeNext hr hwait hsome
  have hmost := ha.window
  have hsame : l'.window = l.window :=
    congrArg (fun c => 2 * c.workers) ((hr.comes hcomes).config.trans hr.config.symm)
  rw [h.length] at hmost
  refine ⟨l', hcomes, hmirrors, hlines, ?_⟩
  rw [hmirrors.window, hsame]
  omega

theorem Mirrors.spawn (h : Mirrors load l) {line : List Char} {rest : List (List Char)} {d : Document}
    (hlines : l.lines = line :: rest) (hblank : Text.isBlank line = false)
    (hdocument : Load.documentOf? line = some d) (hroom : load.inFlight.length < load.window) :
    ∃ l', l.Comes l' ∧ Mirrors { load with inFlight := load.inFlight ++ [d] } l' ∧ l'.lines = rest := by
  have hfull : l.isFull = false := by
    rw [isFull, ← h.window, h.length]
    exact decide_eq_false (Nat.not_le_of_lt hroom)
  refine ⟨{ l with lines := rest, inFlight := l.inFlight ++ [.calling d] }, comes_of_after .read ?_,
    { h with inFlight := ?_ }, rfl⟩
  · rw [after, hlines]
    simp only [hblank, hdocument, hfull, Bool.false_eq_true, ↓reduceIte]
  · show l.inFlight ++ [Flight.calling d] = _
    rw [h.inFlight, List.map_append]
    rfl

theorem Mirrors.addLine (h : Mirrors load l) (hr : l.Running before) (ha : l.Accounts lines) {line : List Char}
    {rest : List (List Char)} (hlines : l.lines = line :: rest) :
    ∃ l', l.Comes l' ∧ Mirrors (load.addLine line) l' ∧ l'.lines = rest := by
  rw [Load.addLine]
  cases hblank : Text.isBlank line with
  | true =>
    refine ⟨{ l with lines := rest }, comes_of_after .read ?_, { h with }, rfl⟩
    rw [after, hlines]
    exact if_pos hblank
  | false =>
    rw [if_neg Bool.false_ne_true]
    split
    · next hdocument =>
      refine ⟨{ l with lines := rest, report := { l.report with failed := l.report.failed + 1 } },
        comes_of_after .read ?_, { h with report := ?_ }, rfl⟩
      · rw [after, hlines]
        simp only [hblank, hdocument, Bool.false_eq_true, ↓reduceIte]
      · rw [h.report]
    · next d hdocument =>
      dsimp only
      by_cases hfull : load.window ≤ load.inFlight.length
      · have hwait : l.mustWait = true := by
          rw [mustWait, hlines]
          dsimp only
          rw [documentOn?, hblank, if_neg Bool.false_ne_true, hdocument, isFull, ← h.window, h.length]
          exact decide_eq_true hfull
        obtain ⟨l₁, hcomes, hmirrors, hlines₁, hroom⟩ := h.makeRoom hr ha hwait hfull
        obtain ⟨l', hcomes', hmirrors', hrest⟩ := hmirrors.spawn (hlines₁.trans hlines) hblank hdocument hroom
        rw [if_pos hfull]
        exact ⟨l', hcomes.trans hcomes', hmirrors', hrest⟩
      · rw [if_neg hfull]
        exact h.spawn hlines hblank hdocument (Nat.lt_of_not_le hfull)

theorem Mirrors.addLines (h : Mirrors load l) (hr : l.Running before) (ha : l.Accounts lines)
    {front rest : List (List Char)} (hlines : l.lines = front ++ rest) :
    ∃ l', l.Comes l' ∧ Mirrors (front.foldl Load.addLine load) l' ∧ l'.lines = rest := by
  induction front generalizing load l with
  | nil => exact ⟨l, .refl l, h, hlines⟩
  | cons line front ih =>
    obtain ⟨l₁, hcomes, hmirrors, hlater⟩ := h.addLine hr ha hlines
    obtain ⟨l', hcomes', hmirrors', hrest⟩ := ih hmirrors (hr.comes hcomes) (ha.comes hr hcomes) hlater
    exact ⟨l', hcomes.trans hcomes', hmirrors', hrest⟩

theorem Mirrors.drain (h : Mirrors load l) (hr : l.Running before) (hlines : l.lines = []) :
    ∃ l', l.Comes l' ∧ Mirrors load.drain l' ∧ l'.Finished := by
  rw [Load.drain]
  generalize hlength : load.inFlight.length = tasks
  induction tasks generalizing load l with
  | zero => exact ⟨l, .refl l, h, hlines, List.length_eq_zero_iff.mp (h.length.trans hlength)⟩
  | succ tasks ih =>
    have hwait : l.mustWait = true := by rw [mustWait, hlines]
    obtain ⟨l₁, hcomes, hmirrors, hsame, hless⟩ := h.completeNext hr hwait (hlength ▸ Nat.succ_pos tasks)
    obtain ⟨l', hcomes', hmirrors', hfinished⟩ := ih hmirrors (hr.comes hcomes) (hsame.trans hlines) (by omega)
    exact ⟨l', hcomes.trans hcomes', hmirrors', hfinished⟩

theorem mirrors_start {s : Service} (hidle : s.engine.Idle) (order : List ℕ) (corpus : String) :
    Mirrors { engine := s.engine, order } (start s corpus) :=
  ⟨rfl, rfl, rfl, hidle, fun _ hmem => by cases hmem⟩

/-- The loader of an engine is one of those that let the calls come to their ends in any order. -/
theorem exists_comes_load {s : Service} (h : s.Reached) (hidle : s.engine.Idle) (order : List ℕ) (corpus : String) :
    ∃ l, (start s corpus).Comes l ∧ l.Finished ∧ l.NoTimeout ∧
      s.engine.load order corpus = (l.service.engine, l.report) := by
  have hr := running_start h hidle corpus
  obtain ⟨l₁, hcomes, hmirrors, hlines⟩ := (mirrors_start hidle order corpus).addLines hr
    (accounts_start s corpus) (List.append_nil (Text.lines corpus.toList)).symm
  obtain ⟨l, hcomes', hmirrors', hfinished⟩ := hmirrors.drain (hr.comes hcomes) hlines
  refine ⟨l, hcomes.trans hcomes', hfinished, hmirrors'.never, ?_⟩
  rw [hmirrors'.engine, hmirrors'.report]
  rfl

/-- Nothing is lost when a corpus is loaded with a service. -/
structure LosesNothing (s : Service) (corpus : String) : Prop where
  window : ∀ l, (start s corpus).Comes l → l.inFlight.length ≤ 2 * s.workers
  bounded : ∀ events l, (start s corpus).afterAll events = some l →
    events.length ≤ (Engine.stepsPerTask + 3) * (Text.lines corpus.toList).length
  goesOn : ∀ l, (start s corpus).Comes l → ¬l.Finished → ∃ event l', l.after event = some l'
  tracked : ∀ l, (start s corpus).Comes l → l.Tracked s
  /-- Each document has had one call. -/
  calls : ∀ l, (start s corpus).Comes l → l.Finished →
    (l.joined.map fun outcome => outcome.1.document).Perm ((Text.lines corpus.toList).filterMap documentOn?)
  indexed : ∀ l, (start s corpus).Comes l → l.report.indexed = l.joined.countP fun outcome => outcome.2.isOk
  total : ∀ l, (start s corpus).Comes l → l.Finished →
    l.report.indexed + l.report.failed = (Text.lines corpus.toList).countP fun line => !Text.isBlank line
  /-- The order of events does not show in what is kept, unless documents that the checks let through share an
  id. -/
  order : ∀ l l', (∃ g, s.engine.Backs g) → (start s corpus).Comes l → (start s corpus).Comes l' → l.Finished →
    l'.Finished → l.NoTimeout → l'.NoTimeout →
      ((((Text.lines corpus.toList).filterMap documentOn?).filter s.engine.indexes.admits).map Document.id).Nodup →
        l.service.engine.indexes.SameContents l'.service.engine.indexes
  load : ∀ order, ∃ l, (start s corpus).Comes l ∧ l.Finished ∧ l.NoTimeout ∧
    s.engine.load order corpus = (l.service.engine, l.report)
  /-- The loader of the engine keeps within the window after each line. -/
  loadWindow : ∀ order front rest, Text.lines corpus.toList = front ++ rest →
    (front.foldl Load.addLine { engine := s.engine, order }).inFlight.length ≤ 2 * s.workers

/-- Loading a corpus loses nothing, whatever the order of events. -/
theorem losesNothing {s : Service} (h : s.Reached) (hidle : s.engine.Idle) (corpus : String) :
    LosesNothing s corpus := by
  have hstart := running_start h hidle corpus
  have haccounts : ∀ l, (start s corpus).Comes l → l.Accounts (Text.lines corpus.toList) := fun _ hcomes =>
    (accounts_start s corpus).comes hstart hcomes
  have hwindow : ∀ l, (start s corpus).Comes l → l.inFlight.length ≤ 2 * s.workers := by
    intro l hcomes
    have hmost := (haccounts l hcomes).window
    rw [Loading.window, Service.workers, (hstart.comes hcomes).config] at hmost
    exact hmost
  refine ⟨hwindow, fun events l hafter => ?_, fun l hcomes => (hstart.comes hcomes).exists_after,
    fun l hcomes => (hstart.comes hcomes).toTracked, fun l hcomes hfinished => ?_,
    fun l hcomes => (haccounts l hcomes).indexed, fun l hcomes => (haccounts l hcomes).total_of_finished,
    fun l l' hbacks hcomes hcomes' => (hstart.comes hcomes).sameContents (hstart.comes hcomes') hbacks
      (haccounts l hcomes) (haccounts l' hcomes'),
    fun order => exists_comes_load h hidle order corpus, fun order front rest hlines => ?_⟩
  · have hless := hstart.length_le hafter
    have hnone : s.engine.stepsLeft = 0 := by
      rw [Engine.stepsLeft, hidle.queue, hidle.begun]
      rfl
    have hsteps : (start s corpus).eventsLeft =
        (Engine.stepsPerTask + 3) * (Text.lines corpus.toList).length + 0 + s.engine.stepsLeft := rfl
    omega
  · have hdocuments := (haccounts l hcomes).documents_of_finished hfinished
    rw [Loading.calls, hfinished.2, List.append_nil, List.map_map] at hdocuments
    exact hdocuments
  · obtain ⟨l, hcomes, hmirrors, -⟩ :=
      (mirrors_start hidle order corpus).addLines hstart (accounts_start s corpus) hlines
    exact hmirrors.length ▸ hwindow l hcomes

/-- Two documents, a blank line and one that has no document. -/
def smallCorpus : String :=
  "\x7b\"id\":\"a\",\"tenant_id\":\"t\",\"type\":\"file\",\"content\":\"red\",\"vector\":[1]\x7d\n\nred\n" ++
    "\x7b\"id\":\"b\",\"tenant_id\":\"t\",\"type\":\"file\"\x7d"

theorem losesNothing_smallCorpus : Service.narrowService.Reached ∧ Service.narrowService.engine.Idle ∧
    (∃ g, Service.narrowService.engine.Backs g) ∧
    (((Text.lines smallCorpus.toList).filterMap documentOn?).filter
      Service.narrowService.engine.indexes.admits).map Document.id = ["a", "b"] ∧
    (Service.narrowService.engine.load [1] smallCorpus).2 = { indexed := 2, failed := 1 } ∧
    LosesNothing Service.narrowService smallCorpus := by
  have hidle : Service.narrowService.engine.Idle := ⟨⟨rfl, rfl, Nat.one_pos, Nat.one_pos⟩, rfl, rfl⟩
  obtain ⟨-, g, hbacks, -⟩ := opened_smallEngine.backs
  exact ⟨Service.reached_narrowService, hidle, ⟨g, hbacks.ready, hbacks.writes⟩, by decide +kernel,
    by decide +kernel, losesNothing Service.reached_narrowService hidle smallCorpus⟩

end HybridSearch.Loading
