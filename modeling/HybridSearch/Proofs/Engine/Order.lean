import HybridSearch.Proofs.Engine.Service

/-!
# Every event keeps the service in order

Each of the four invariants holds at the start and is kept by every event; so it holds whatever has happened.
-/
namespace HybridSearch.Service

variable {s s' : Service}

theorem Staffed.not_deserted (h : s.Staffed) (hidle : s.hasIdle = true) : s.isDeserted = false := by
  have hfree := of_decide_eq_true hidle
  have hgone := h.gone_le
  exact beq_false_of_ne (by omega)

theorem Staffed.not_deserted_of_left (h : s.Staffed) (hleft : s.left = 0) : s.isDeserted = false := by
  have hworkers := h.workers
  have hgone := h.gone_le
  exact beq_false_of_ne (by omega)

theorem mem_pending_iff {number : Nat} :
    number ∈ s.pending.map Job.number ↔ s.taken.length ≤ number ∧ number < s.tasks.length := by
  rw [pending, List.map_drop, numbers_jobs, List.range_eq_range', List.drop_range', List.mem_range'_1]
  omega

theorem Staffed.begun_of_deserted (h : s.Staffed) (hdeserted : s.isDeserted = true) :
    s.engine.begun = [] := by
  have hgone : s.gone = s.workers := eq_of_beq hdeserted
  have hbusy := h.busy
  have hle := h.gone_le
  exact List.length_eq_zero_iff.mp (by omega)

theorem Queued.mem_taken_iff_lt (h : s.Queued) {number : Nat} :
    number ∈ s.taken ↔ number < s.taken.length := by
  conv => lhs; rw [h.taken]
  exact List.mem_range

theorem Accounted.mem_taken_iff (h : s.Accounted) {number : Nat} : number ∈ s.taken ↔
    number ∈ s.engine.begun.map Assignment.number ∨ number ∈ s.engine.answers.map Prod.fst := by
  rw [← h.assigned.mem_iff, Engine.numbers, List.mem_append]

theorem Orderly.nodup_numbers (h : s.Orderly) : s.engine.numbers.Nodup := by
  rw [h.assigned.nodup_iff, h.taken]
  exact List.nodup_range

theorem Orderly.nodup_answers (h : s.Orderly) : (s.engine.answers.map Prod.fst).Nodup :=
  (List.nodup_append.mp h.nodup_numbers).2.1

/-- A call is refused, or its task is accepted while there is room and someone to take it. -/
theorem offer_cases (s : Service) (late : Bool) (task : Task) :
    (∃ e, s.offer late task = .error e) ∨
      s.isDeserted = false ∧ s.engine.queue.length < s.engine.config.queueSize ∧
        s.offer late task = .ok (s.accept task) := by
  rw [offer]
  split
  · exact .inl ⟨_, rfl⟩
  · split
    · exact .inl ⟨_, rfl⟩
    · next hstaffed =>
      split
      · exact .inl ⟨_, rfl⟩
      · next hroom => exact .inr ⟨eq_false_of_ne_true hstaffed, Nat.lt_of_not_le hroom, rfl⟩

theorem getElem?_accept {number : Nat} {t : Task} (h : s.tasks[number]? = some t) (task : Task) :
    (s.accept task).tasks[number]? = some t := by
  rw [accept, List.getElem?_append_left (List.getElem?_eq_some_iff.mp h).1, h]

theorem Queued.accept (h : s.Queued) (task : Task) (hstaffed : s.isDeserted = false)
    (hroom : s.engine.queue.length < s.engine.config.queueSize) : (s.accept task).Queued := by
  have hlength := s.length_accept task
  have hdeserted : (s.accept task).isDeserted = false := hstaffed
  have hpending : (s.accept task).pending = s.pending ++ [⟨s.tasks.length, task⟩] := by
    rw [pending, jobs_accept]
    exact List.drop_append_of_le_length (s.length_jobs ▸ h.taken_le)
  have hqueue := h.queue
  have hdiscarded := h.discarded
  rw [hstaffed, if_neg Bool.false_ne_true] at hqueue hdiscarded
  refine { h with bounded := ?_, queue := ?_, discarded := ?_, accepted := ?_, taken_le := ?_ }
  · have hgrown : (s.accept task).engine.queue.length = s.engine.queue.length + 1 := List.length_append
    rw [hgrown]
    exact hroom
  · rw [hpending, hdeserted, if_neg Bool.false_ne_true, ← hqueue, ← h.accepted]
    rfl
  · rw [hdeserted, if_neg Bool.false_ne_true]
    exact hdiscarded
  · rw [hlength]
    exact congrArg (· + 1) h.accepted
  · rw [hlength]
    exact Nat.le_succ_of_le h.taken_le

theorem Staffed.accept (h : s.Staffed) (task : Task) : (s.accept task).Staffed := by
  refine { h with isClosed := fun hclosed => ?_ }
  obtain ⟨count, hcount, hle⟩ := h.isClosed hclosed
  exact ⟨count, hcount, s.length_accept task ▸ Nat.le_succ_of_le hle⟩

theorem Accounted.accept (h : s.Accounted) (task : Task) : (s.accept task).Accounted where
  assigned := h.assigned
  begun a ha := by
    obtain ⟨t, ht, hcarries⟩ := h.begun a ha
    exact ⟨t, getElem?_accept ht task, hcarries⟩
  answers answer hanswer := by
    obtain ⟨t, result, ht, hcomes⟩ := h.answers answer hanswer
    exact ⟨t, result, getElem?_accept ht task, hcomes⟩

theorem Informed.accept (h : s.Informed) (task : Task) : (s.accept task).Informed := { h with }

theorem Orderly.call (h : s.Orderly) (late : Bool) (task : Task) :
    ((s.offer late task).toOption.getD s).Orderly := by
  rcases s.offer_cases late task with ⟨e, hoffer⟩ | ⟨hstaffed, hroom, hoffer⟩
  · rw [hoffer]
    exact h
  · rw [hoffer]
    exact ⟨h.toQueued.accept task hstaffed hroom, h.toStaffed.accept task, h.toAccounted.accept task,
      h.toInformed.accept task⟩

theorem Accounted.goesOn {e e' : Engine} {t : Task} {number depth left : Nat} (taken : List Nat)
    (hgoes : Engine.GoesOn t number depth left e e') (ht : s.tasks[number]? = some t)
    (hassigned : (number :: e.numbers).Perm taken)
    (hbegun : ∀ a ∈ e.begun, s.HasBegun e.indexes.vector.config a)
    (hanswers : ∀ answer ∈ e.answers, s.HasAnswered e.indexes.vector.config answer) :
    Accounted { s with engine := e', taken } := by
  have hindexes : e'.indexes = e.indexes := by
    obtain ⟨_, _, _, rfl⟩ := hgoes.frame
    rfl
  refine ⟨hgoes.numbers_perm.trans hassigned, fun a ha => ?_, fun answer hanswer => ?_⟩
  · rw [hindexes]
    rcases hgoes.of_mem_begun ha with hold | ⟨rfl, hcarries⟩
    · exact hbegun a hold
    · exact ⟨t, ht, hcarries⟩
  · rw [hindexes]
    rcases hgoes.of_mem_answers hanswer with hold | ⟨rfl, result, hcomes⟩
    · exact hanswers answer hold
    · exact ⟨t, result, ht, hcomes⟩

theorem Informed.withAnswers (h : s.Informed) {e : Engine} (taken : List Nat)
    (hanswers : ∀ answer ∈ s.engine.answers, answer ∈ e.answers) :
    Informed { s with engine := e, taken } where
  told reply hreply := (h.told reply hreply).imp_left (hanswers reply)
  once := h.once

theorem Orderly.take (h : s.Orderly) {job : Job} {rest : List Job} (hqueue : s.engine.queue = job :: rest)
    (hidle : s.hasIdle = true) :
    Orderly { s with engine := s.engine.takeTask, taken := s.taken ++ [job.number] } := by
  have hstaffed := h.toStaffed.not_deserted hidle
  have hfree : s.engine.begun.length + s.left < s.workers := of_decide_eq_true hidle
  have hpending : s.pending = job :: rest := by
    rw [← hqueue, h.queue, hstaffed, if_neg Bool.false_ne_true]
  obtain ⟨hnumber, htask, hrest⟩ := pending_cons hpending
  have htaken : s.taken ++ [job.number] = List.range (s.taken.length + 1) := by
    rw [List.range_succ, ← h.taken, hnumber]
  obtain ⟨text, hgoes⟩ := Engine.takeTask_goesOn
    (show s.engine.begun.length < s.engine.config.workers from Nat.lt_of_le_of_lt (Nat.le_add_right _ _) hfree)
    hqueue
  generalize s.engine.takeTask = e' at hgoes ⊢
  have hlength : (s.taken ++ [job.number]).length = s.taken.length + 1 := List.length_append
  have hpast := (List.getElem?_eq_some_iff.mp htask).1
  have haccounted := Accounted.goesOn (s.taken ++ [job.number]) hgoes htask
    ((h.assigned.cons job.number).trans (List.perm_append_singleton _ _).symm) h.begun h.answers
  have hbusy := hgoes.length_begun
  have hinformed := h.toInformed.withAnswers (s.taken ++ [job.number]) fun _ => hgoes.mem_answers
  obtain ⟨begun, answers, statistics, rfl⟩ := hgoes.frame
  refine ⟨{ h with bounded := ?_, queue := ?_, discarded := ?_, taken := ?_, taken_le := ?_ },
    { h with busy := ?_, drained := ?_ }, haccounted, hinformed⟩
  · have hbounded := h.bounded
    rw [hqueue] at hbounded
    exact Nat.le_of_succ_le hbounded
  · show rest = if s.isDeserted then [] else s.jobs.drop (s.taken ++ [job.number]).length
    rw [hstaffed, if_neg Bool.false_ne_true, hlength, hrest]
  · show s.discarded = if s.isDeserted then _ else []
    rw [h.discarded, hstaffed, if_neg Bool.false_ne_true, if_neg Bool.false_ne_true]
  · show s.taken ++ [job.number] = List.range (s.taken ++ [job.number]).length
    rw [hlength, htaken]
  · show (s.taken ++ [job.number]).length ≤ s.tasks.length
    rw [hlength]
    omega
  · have hmore : begun.length ≤ s.engine.begun.length + 1 := hbusy
    show begun.length + s.left ≤ s.workers
    omega
  · intro hleft count hcount
    show count ≤ (s.taken ++ [job.number]).length
    have hdrained := h.drained hleft count hcount
    omega

theorem Orderly.move (h : s.Orderly) {position : Nat} {a : Assignment}
    (hposition : s.engine.begun[position]? = some a) (hmove : s.engine.canMove a = true) :
    Orderly { s with engine := s.engine.moveWorker position } := by
  have hmem : a ∈ s.engine.begun := List.mem_of_getElem? hposition
  obtain ⟨t, ht, hcarries⟩ := h.begun a hmem
  obtain ⟨before, after, hbegun, hmoved⟩ := Engine.moveWorker_cases hposition hmove hcarries
  have hnumbers : s.engine.begun.map Assignment.number =
      before.map Assignment.number ++ a.number :: after.map Assignment.number := by
    rw [hbegun, List.map_append, List.map_cons]
  have hlength : s.engine.begun.length = before.length + (after.length + 1) := by
    rw [hbegun, List.length_append, List.length_cons]
  have hothers : ∀ b, b ∈ before ∨ b ∈ after → b ∈ s.engine.begun := by
    rintro b (hb | hb)
    · exact hbegun ▸ List.mem_append_left _ hb
    · exact hbegun ▸ List.mem_append_right _ (List.mem_cons_of_mem _ hb)
  rcases hmoved with ⟨vector, commit, -, hconfig, hworked, hmoved⟩ | ⟨ixs, hconfig, hgoes⟩
  · rw [hmoved]
    have hsame : vector.config = s.engine.indexes.vector.config := hconfig
    refine { h with busy := ?_, assigned := ?_, begun := ?_, answers := ?_ }
    · show (before ++ { a with commit := some commit } :: after).length + s.left ≤ s.workers
      rw [List.length_append, List.length_cons, ← hlength]
      exact h.busy
    · show ((before ++ { a with commit := some commit } :: after).map Assignment.number ++
        s.engine.answers.map Prod.fst).Perm s.taken
      rw [List.map_append, List.map_cons, ← hnumbers]
      exact h.assigned
    · intro b hb
      rw [hsame]
      rcases List.mem_append.mp hb with hbefore | hrest
      · exact h.begun b (hothers b (.inl hbefore))
      · rcases List.mem_cons.mp hrest with rfl | hafter
        · exact ⟨t, ht, hcarries.stage, fun other hother => Option.some_inj.mp hother ▸ hworked⟩
        · exact h.begun b (hothers b (.inr hafter))
    · intro answer hanswer
      rw [hsame]
      exact h.answers answer hanswer
  · generalize s.engine.moveWorker position = e' at hgoes ⊢
    have hassigned : (a.number :: ({ s.engine with
        indexes := ixs
        begun := before ++ after } : Engine).numbers).Perm s.taken := by
      refine List.Perm.trans ?_ h.assigned
      rw [Engine.numbers, Engine.numbers, hnumbers, List.append_assoc, List.cons_append,
        List.map_append, List.append_assoc]
      exact List.perm_middle.symm
    have haccounted := Accounted.goesOn s.taken hgoes ht hassigned
      (fun b hb => by rw [hconfig]; exact h.begun b (hothers b (List.mem_append.mp hb)))
      (fun answer hanswer => by rw [hconfig]; exact h.answers answer hanswer)
    have hbusy : e'.begun.length ≤ (before ++ after).length + 1 := hgoes.length_begun
    have hinformed := h.toInformed.withAnswers s.taken fun _ => hgoes.mem_answers
    obtain ⟨begun, answers, statistics, rfl⟩ := hgoes.frame
    refine ⟨{ h with }, { h with busy := ?_ }, haccounted, hinformed⟩
    have hmore : begun.length ≤ s.engine.begun.length := by
      rw [List.length_append] at hbusy
      rw [hlength]
      exact hbusy
    exact Nat.le_trans (Nat.add_le_add_right hmore _) h.busy

theorem Orderly.leave (h : s.Orderly) (hclosed : s.engine.isOpen = false)
    (hempty : s.engine.queue = []) (hidle : s.hasIdle = true) :
    Orderly { s with left := s.left + 1 } := by
  have hfree : s.engine.begun.length + s.left < s.workers := of_decide_eq_true hidle
  have hstaffed := h.toStaffed.not_deserted hidle
  obtain ⟨count, hcount, hle⟩ := h.isClosed hclosed
  have hpending : s.jobs.drop s.taken.length = [] := by
    rw [← pending, ← hempty, h.queue, hstaffed, if_neg Bool.false_ne_true]
  have hall : s.tasks.length ≤ s.taken.length := s.length_jobs ▸ List.drop_eq_nil_iff.mp hpending
  refine { h with busy := ?_, gone_le := ?_, isOpen := ?_, drained := ?_ }
  · show s.engine.begun.length + (s.left + 1) ≤ s.workers
    omega
  · exact Nat.le_succ_of_le h.gone_le
  · intro hopen
    rw [hclosed] at hopen
    cases hopen
  · intro _ other hother
    rw [hcount] at hother
    exact Option.some_inj.mp hother ▸ Nat.le_trans hle hall

theorem Orderly.letGo (h : s.Orderly) (hleft : s.gone < s.left) : s.letGo.Orderly := by
  have hbusy := h.busy
  have hstaffed : s.isDeserted = false := beq_false_of_ne (by omega)
  have hqueue := h.queue
  have hdiscarded := h.discarded
  rw [hstaffed, if_neg Bool.false_ne_true] at hqueue hdiscarded
  have hwaiting : s.hasClosed = true → False := fun hclosed => by
    have hdeserted := h.hasClosed hclosed
    rw [hstaffed] at hdeserted
    cases hdeserted
  rw [Service.letGo]
  dsimp only
  cases hlast : ({ s with gone := s.gone + 1 } : Service).isDeserted with
  | false =>
    rw [if_neg Bool.false_ne_true]
    refine { h with queue := ?_, discarded := ?_, gone_le := hleft, hasClosed := ?_ }
    · rw [hlast, if_neg Bool.false_ne_true]
      exact hqueue
    · rw [hlast, if_neg Bool.false_ne_true]
      exact hdiscarded
    · exact fun hclosed => (hwaiting hclosed).elim
  | true =>
    rw [if_pos rfl]
    refine { h with
      bounded := Nat.zero_le _, queue := ?_, discarded := ?_, gone_le := hleft, hasClosed := ?_,
      told := ?_ }
    · exact (if_pos hlast).symm
    · exact (congrArg (List.map Job.number) hqueue).trans (if_pos hlast).symm
    · exact fun hclosed => (hwaiting hclosed).elim
    · intro reply hreply
      rcases h.told reply hreply with hanswer | ⟨-, hlost⟩
      · exact .inl hanswer
      · rw [hdiscarded] at hlost
        cases hlost

theorem Orderly.close (h : s.Orderly) (hafter : s.after .close = some s') : s'.Orderly := by
  obtain ⟨hopen, rfl⟩ | ⟨-, rfl⟩ := of_after_close hafter
  · obtain ⟨hleft, -⟩ := h.isOpen hopen
    refine { h with isOpen := nofun, isClosed := ?_, drained := ?_ }
    · exact fun _ => ⟨_, rfl, Nat.le_of_eq h.accepted⟩
    · exact fun hsome => absurd hleft (Nat.ne_of_gt hsome)
  · exact { h with }

theorem Orderly.closed (h : s.Orderly) (hdeserted : s.isDeserted = true) :
    Orderly { s with hasClosed := true } :=
  { h with hasClosed := fun _ => hdeserted }

/-- A task without an answer was discarded when close has returned. -/
theorem Orderly.discarded_of_hasClosed (h : s.Orderly) (hclosed : s.hasClosed = true) {number : Nat}
    (haccepted : number < s.tasks.length) (hanswer : s.engine.answer? number = none) :
    number ∈ s.discarded := by
  have hdeserted := h.hasClosed hclosed
  rw [h.discarded, hdeserted, if_pos rfl, mem_pending_iff]
  refine ⟨Nat.le_of_not_lt fun hlt => ?_, haccepted⟩
  have htaken := h.toQueued.mem_taken_iff_lt.mpr hlt
  rcases h.toAccounted.mem_taken_iff.mp htaken with hbegun | hdone
  · rw [h.toStaffed.begun_of_deserted hdeserted] at hbegun
    cases hbegun
  · have hsome := Engine.answer?_isSome hdone
    rw [hanswer] at hsome
    cases hsome

theorem Orderly.tell (h : s.Orderly) {number : Nat} (haccepted : number < s.tasks.length)
    (hfirst : number ∉ s.told.map Prod.fst) {reply : Except EngineError Unit}
    (hreply : s.reply? number = some reply) : Orderly { s with told := (number, reply) :: s.told } := by
  refine { h with told := ?_, once := List.nodup_cons.mpr ⟨hfirst, h.once⟩ }
  intro told htold
  rcases List.mem_cons.mp htold with rfl | hold
  · rw [reply?] at hreply
    split at hreply
    · next result hanswer =>
      obtain rfl := Option.some_inj.mp hreply
      exact .inl (Engine.mem_answers_of_answer? hanswer)
    · next hanswer =>
      split at hreply
      · next hlost =>
        obtain rfl := Option.some_inj.mp hreply
        refine .inr ⟨rfl, ?_⟩
        rcases Bool.or_eq_true_iff.mp hlost with hmem | hclosed
        · exact List.contains_iff_mem.mp hmem
        · exact h.discarded_of_hasClosed hclosed haccepted hanswer
      · cases hreply
  · exact h.told told hold

theorem Orderly.withIndexes (h : s.Orderly) {ixs : Indexes} (statistics : Statistics)
    (hconfig : ixs.vector.config = s.engine.indexes.vector.config) :
    Orderly { s with engine := { s.engine with indexes := ixs, statistics } } := by
  refine { h with begun := ?_, answers := ?_ }
  · intro a ha
    rw [hconfig]
    exact h.begun a ha
  · intro answer hanswer
    rw [hconfig]
    exact h.answers answer hanswer

theorem Orderly.search (h : s.Orderly) (cancelled : Bool) (request : SearchRequest) (nanos : Nat) :
    Orderly { s with engine := (s.engine.search cancelled request nanos).2 } := by
  obtain ⟨vector, statistics, hconfig, hsearch⟩ := s.engine.search_snd cancelled request nanos
  rw [hsearch]
  exact h.withIndexes statistics hconfig

theorem Orderly.after (h : s.Orderly) {event : Event} (hafter : s.after event = some s') : s'.Orderly := by
  cases event with
  | call late task =>
    obtain rfl := Option.some_inj.mp hafter
    exact h.call late task
  | take =>
    obtain ⟨job, rest, hqueue, hidle, rfl⟩ := of_after_take hafter
    exact h.take hqueue hidle
  | move position =>
    obtain ⟨a, hposition, hmove, rfl⟩ := of_after_move hafter
    exact h.move hposition hmove
  | leave =>
    obtain ⟨hclosed, hempty, hidle, rfl⟩ := of_after_leave hafter
    exact h.leave hclosed hempty hidle
  | letGo =>
    obtain ⟨hleft, rfl⟩ := of_after_letGo hafter
    exact h.letGo hleft
  | hold =>
    obtain rfl := Option.some_inj.mp hafter
    exact { h with }
  | release =>
    obtain rfl := Option.some_inj.mp hafter
    exact { h with }
  | close => exact h.close hafter
  | closed =>
    obtain ⟨-, hdeserted, rfl⟩ := of_after_closed hafter
    exact h.closed hdeserted
  | tell number =>
    obtain ⟨haccepted, hfirst, reply, hreply, rfl⟩ := of_after_tell hafter
    exact h.tell haccepted hfirst hreply
  | search cancelled request nanos =>
    obtain rfl := Option.some_inj.mp hafter
    exact h.search cancelled request nanos
  | elsewhere text vector store =>
    obtain ⟨hconfig, rfl⟩ := of_after_elsewhere hafter
    exact h.withIndexes s.engine.statistics hconfig

/-- An engine that has been opened has workers and room in its queue, and nothing has happened yet. -/
theorem orderly_opened {config : EngineConfig} {ixs : Indexes} {e : Engine}
    (hopen : Engine.open config ixs = .ok e) : Orderly { engine := e } := by
  rw [Engine.open] at hopen
  split at hopen
  · cases hopen
  · next hvalid =>
    obtain rfl := Except.ok.inj hopen
    rw [EngineConfig.validate] at hvalid
    split at hvalid
    · cases hvalid
    · next hworkers =>
      split at hvalid
      · cases hvalid
      · next hroom =>
        have hstaffed : config.workers ≠ 0 := hworkers
        have hdeserted : ({ engine := { config, indexes := ixs } } : Service).isDeserted = false :=
          beq_false_of_ne (Ne.symm hstaffed)
        exact {
          room := Nat.pos_of_ne_zero hroom
          bounded := Nat.zero_le _
          queue := by rw [hdeserted]; rfl
          discarded := by rw [hdeserted]; rfl
          accepted := rfl
          taken := rfl
          taken_le := Nat.le_refl 0
          workers := Nat.pos_of_ne_zero hstaffed
          busy := Nat.zero_le _
          gone_le := Nat.le_refl 0
          isOpen := fun _ => ⟨rfl, rfl⟩
          isClosed := fun hclosed => by cases hclosed
          drained := fun hleft => absurd hleft (Nat.lt_irrefl 0)
          hasClosed := fun hclosed => by cases hclosed
          assigned := List.Perm.refl []
          begun := fun a ha => by cases ha
          answers := fun answer hanswer => by cases hanswer
          told := fun reply hreply => by cases hreply
          once := List.nodup_nil }

theorem Reached.orderly (h : Reached s) : s.Orderly := by
  induction h with
  | opened hopen => exact orderly_opened hopen
  | step _ _ hafter ih => exact ih.after hafter

end HybridSearch.Service
