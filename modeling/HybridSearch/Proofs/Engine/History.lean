import HybridSearch.Proofs.Engine.Work

/-!
# Runs and their history

A run makes calls of an engine one after another and keeps a history of its write tasks. What the text
index holds under an id is the document that the last accepted task of the id brought, and the vector index
holds its embedding, whichever writes of the vector store have failed.
-/
namespace HybridSearch

/-- A call of an engine; the store may fail from step to step of a write. -/
inductive Call where
  | write (task : Task) (faults : List (Option StoreFault))
  | rebuildText
  | optimize
  | search (cancelled : Bool) (request : SearchRequest) (nanos : Nat)

/-- A write task with its answer. -/
structure Written where
  task : Task
  result : Except EngineError Unit

namespace Written

def isAccepted (w : Written) : Bool :=
  match w.result with
  | .ok () => true
  | .error e => !e.isValidation

def document? (w : Written) : Option Document :=
  match w.result with
  | .ok () => w.task.document?
  | .error _ => none

theorem isAccepted_of_error (t : Task) {e : EngineError} {b : Bool} (h : e.isValidation = b) :
    isAccepted ⟨t, .error e⟩ = !b := by
  rw [← h]
  rfl

end Written

/-- The last task of an id that was not refused; the latest of a history comes first. -/
def lastAccepted (history : List Written) (id : String) : Option Written :=
  history.find? fun w => w.task.id == id && w.isAccepted

/-- The document that an id stands for, if the last accepted task of the id put one in place. -/
def currentVersion (history : List Written) (id : String) : Option Document :=
  (lastAccepted history id).bind Written.document?

/-- An engine with the history of its write tasks, the latest first. -/
structure Run where
  engine : Engine
  history : List Written := []

namespace Run

def call (r : Run) : Call → Run
  | .write task faults =>
    let (engine, result) := r.engine.performUnder task faults
    ⟨engine, ⟨task, result⟩ :: r.history⟩
  | .rebuildText => { r with engine := r.engine.rebuildText.toOption.getD r.engine }
  | .optimize => { r with engine := r.engine.optimize.toOption.getD r.engine }
  | .search cancelled request nanos =>
    { r with engine := (r.engine.search cancelled request nanos).2 }

end Run

def Engine.run (e : Engine) (calls : List Call) : Run := calls.foldl Run.call { engine := e }

/-- A call in which no write of the store fails and the text entries stay. -/
def Call.IsCalm : Call → Prop
  | write _ faults => ∀ fault ∈ faults, fault = none
  | rebuildText => False
  | optimize => True
  | search _ _ _ => True

variable {w : Written} {history : List Written} {id : String} {d : Document}

theorem lastAccepted_of_refused (h : w.isAccepted = false) :
    lastAccepted (w :: history) id = lastAccepted history id := by
  rw [lastAccepted, List.find?_cons, h, Bool.and_false]
  rfl

theorem lastAccepted_of_accepted (h : w.isAccepted = true) (history : List Written) (id : String) :
    lastAccepted (w :: history) id = if id = w.task.id then some w else lastAccepted history id := by
  rw [lastAccepted, List.find?_cons, h, Bool.and_true]
  by_cases hid : id = w.task.id
  · rw [if_pos hid, hid, beq_self_eq_true]
  · rw [if_neg hid, beq_false_of_ne (Ne.symm hid)]
    rfl

theorem currentVersion_of_accepted (h : w.isAccepted = true) (history : List Written) :
    currentVersion (w :: history) = Function.update (currentVersion history) w.task.id w.document? := by
  funext id
  rw [currentVersion, lastAccepted_of_accepted h]
  by_cases hid : id = w.task.id
  · rw [if_pos hid, hid, Function.update_self]
    rfl
  · rw [if_neg hid, Function.update_of_ne hid]
    rfl

theorem currentVersion_of_refused (h : w.isAccepted = false) (history : List Written) :
    currentVersion (w :: history) = currentVersion history := by
  funext id
  rw [currentVersion, lastAccepted_of_refused h]
  rfl

theorem mem_of_lastAccepted (h : lastAccepted history id = some w) :
    w ∈ history ∧ w.task.id = id ∧ w.isAccepted = true := by
  have hfound := List.find?_some h
  obtain ⟨hid, haccepted⟩ := Bool.and_eq_true_iff.mp hfound
  exact ⟨List.mem_of_find?_eq_some h, eq_of_beq hid, haccepted⟩

/-- Whatever the text index holds is the current version, with its embedding in the vector index. -/
def Holding.Current (s : Holding) (history : List Written) : Prop :=
  ∀ id d, s.documents id = some d → currentVersion history id = some d ∧ s.embeddings id = d.embedding

/-- The two indexes hold all current versions and their embeddings, and every accepted task succeeded. -/
structure Holding.Complete (s : Holding) (history : List Written) : Prop where
  documents : s.documents = currentVersion history
  embeddings : ∀ id, s.embeddings id = (currentVersion history id).bind fun d => d.embedding
  succeeded : ∀ w ∈ history, w.isAccepted = true → w.result = .ok ()

theorem Task.documents_apply (t : Task) (s : Holding) :
    (t.apply s).documents = Function.update s.documents t.id t.document? := by
  cases t <;> rfl

theorem Task.embeddings_apply (t : Task) (s : Holding) :
    (t.apply s).embeddings =
      Function.update s.embeddings t.id (t.document?.bind fun d => d.embedding) := by
  cases t <;> rfl

variable {mayFail : Prop} {s s' : Holding} {t : Task} {result : Except EngineError Unit}

theorem Task.Effect.current (h : t.Effect mayFail s result s') (hs : s.Current history) :
    s'.Current (⟨t, result⟩ :: history) := by
  intro id d hd
  cases h with
  | done =>
    rw [currentVersion_of_accepted rfl, Task.embeddings_apply]
    rw [Task.documents_apply] at hd
    by_cases hid : id = t.id
    · rw [hid, Function.update_self] at hd
      rw [hid, Function.update_self, Function.update_self]
      exact ⟨hd, by rw [hd]; rfl⟩
    · rw [Function.update_of_ne hid] at hd
      rw [Function.update_of_ne hid, Function.update_of_ne hid]
      exact hs id d hd
  | refused he =>
    rw [currentVersion_of_refused (Written.isAccepted_of_error t he)]
    exact hs id d hd
  | failed hfail hfails =>
    have hkept := hfails.held
    rw [currentVersion_of_accepted (Written.isAccepted_of_error t hfails.isValidation_eq)]
    have hdocuments : s'.documents = Function.update s.documents t.id none := by
      rcases hkept with rfl | rfl
      · rfl
      · rfl
    by_cases hid : id = t.id
    · rw [hdocuments, hid, Function.update_self] at hd
      cases hd
    · have hembedding : s'.embeddings id = s.embeddings id := by
        rcases hkept with rfl | rfl
        · rfl
        · exact Function.update_of_ne hid _ _
      rw [hdocuments, Function.update_of_ne hid] at hd
      rw [Function.update_of_ne hid, hembedding]
      exact hs id d hd

theorem Task.Effect.complete (h : t.Effect mayFail s result s') (hcalm : ¬mayFail)
    (hs : s.Complete history) : s'.Complete (⟨t, result⟩ :: history) := by
  cases h with
  | done =>
    refine ⟨?_, fun id => ?_, fun w hw haccepted => ?_⟩
    · rw [Task.documents_apply, hs.documents, currentVersion_of_accepted rfl]
      rfl
    · rw [Task.embeddings_apply, currentVersion_of_accepted rfl]
      by_cases hid : id = t.id
      · rw [hid, Function.update_self, Function.update_self]
        rfl
      · rw [Function.update_of_ne hid, Function.update_of_ne hid]
        exact hs.embeddings id
    · rcases List.mem_cons.mp hw with rfl | hold
      · rfl
      · exact hs.succeeded w hold haccepted
  | refused he =>
    have hrefused := Written.isAccepted_of_error t he
    refine ⟨?_, fun id => ?_, fun w hw haccepted => ?_⟩
    · rw [currentVersion_of_refused hrefused]
      exact hs.documents
    · rw [currentVersion_of_refused hrefused]
      exact hs.embeddings id
    · rcases List.mem_cons.mp hw with rfl | hold
      · rw [hrefused] at haccepted
        cases haccepted
      · exact hs.succeeded w hold haccepted
  | failed hfail _ => exact absurd hfail hcalm

namespace Indexes

variable {ixs : Indexes}

theorem vectorRanked_snd (ixs : Indexes) (request : SearchRequest) (limit : Nat) :
    ∃ vector, vector.config = ixs.vector.config ∧
      (ixs.vectorRanked request limit).2 = { ixs with vector } := by
  rw [vectorRanked]
  split
  · exact ⟨_, rfl, rfl⟩
  · next v hv =>
    have hconfig := VectorIndex.Ready.search_config ixs.vector ixs.store .never v
      (min limit VectorIndex.maxCount)
    split
    · next e vector hsearch =>
      rw [hsearch] at hconfig
      exact ⟨vector, hconfig, rfl⟩
    · next neighbors vector hsearch =>
      rw [hsearch] at hconfig
      exact ⟨vector, hconfig, rfl⟩

theorem search_snd (ixs : Indexes) (config : EngineConfig) (cancelled : Bool) (request : SearchRequest) :
    ∃ vector, vector.config = ixs.vector.config ∧
      (ixs.search config cancelled request).2 = { ixs with vector } := by
  rw [Indexes.search]
  split
  · exact ⟨_, rfl, rfl⟩
  · split
    · exact ⟨_, rfl, rfl⟩
    · rw [Indexes.ranked]
      cases request.mode with
      | fullText => exact ⟨_, rfl, rfl⟩
      | vector => exact ixs.vectorRanked_snd request _
      | hybrid => exact ixs.vectorRanked_snd request _
      | structured => exact ⟨_, rfl, rfl⟩

end Indexes

theorem Engine.search_snd (e : Engine) (cancelled : Bool) (request : SearchRequest) (nanos : Nat) :
    ∃ vector statistics, vector.config = e.indexes.vector.config ∧
      (e.search cancelled request nanos).2 =
        { e with indexes := { e.indexes with vector }, statistics } := by
  rw [Engine.search]
  split
  · exact ⟨_, _, rfl, rfl⟩
  · obtain ⟨vector, hconfig, hsearch⟩ := e.indexes.search_snd e.config cancelled request
    dsimp only
    rw [hsearch]
    split
    · exact ⟨vector, _, hconfig, rfl⟩
    · exact ⟨vector, _, hconfig, rfl⟩

namespace Run

/-- A run that has left an idle engine whose indexes hold what the history says. -/
structure Faithful (calm : Prop) (r : Run) (s : Holding) : Prop where
  idle : r.engine.Idle
  holds : r.engine.indexes.Holds s
  faulty : r.engine.indexes.store.faults.write ≠ none → ¬calm
  current : s.Current r.history
  complete : calm → s.Complete r.history

variable {calm : Prop} {r : Run}

theorem Faithful.write (h : r.Faithful calm s) (t : Task) {faults : List (Option StoreFault)}
    (hcalm : calm → (Call.write t faults).IsCalm) :
    ∃ s', (r.call (.write t faults)).Faithful calm s' := by
  have hfaults : ∀ fault ∈ r.engine.indexes.store.faults.write :: faults, fault ≠ none → ¬calm := by
    intro fault hfault hne hc
    rcases List.mem_cons.mp hfault with rfl | hmem
    · exact h.faulty hne hc
    · exact hne (hcalm hc fault hmem)
  obtain ⟨e', result, s', hperform, hidle, hholds, heffect, hfaulty⟩ :=
    h.idle.performUnder h.holds t hfaults
  refine ⟨s', ?_⟩
  rw [call, hperform]
  exact ⟨hidle, hholds, hfaulty, heffect.current h.current,
    fun hc => heffect.complete (fun hnot => hnot hc) (h.complete hc)⟩

theorem Faithful.rebuildText (h : r.Faithful calm s) (hcalm : ¬calm) :
    ∃ s', (r.call .rebuildText).Faithful calm s' := by
  rw [call, Engine.rebuildText]
  cases htext : r.engine.indexes.text.rebuild with
  | error cause => exact ⟨s, h.idle, h.holds, h.faulty, h.current, h.complete⟩
  | ok text =>
    obtain ⟨hopen, hlists⟩ := TextIndex.rebuild_ok htext
    refine ⟨{ s with documents := fun _ => none }, ?_, ?_, h.faulty, fun id d hd => ?_,
      fun hc => absurd hc hcalm⟩
    · exact ⟨{ h.idle with }, h.idle.queue, h.idle.begun⟩
    · exact ⟨hopen.trans h.holds.isOpen, hlists, h.holds.stores⟩
    · cases hd

theorem Faithful.optimize (h : r.Faithful calm s) : (r.call .optimize).Faithful calm s := by
  rw [call, Engine.optimize]
  cases htext : r.engine.indexes.text.optimize with
  | error cause => exact h
  | ok text =>
    rw [TextIndex.optimize_ok htext]
    exact h

theorem Faithful.search (h : r.Faithful calm s) (cancelled : Bool) (request : SearchRequest) (nanos : Nat) :
    (r.call (.search cancelled request nanos)).Faithful calm s := by
  obtain ⟨vector, statistics, hconfig, hsearch⟩ := r.engine.search_snd cancelled request nanos
  rw [call, hsearch]
  exact ⟨⟨{ h.idle with }, h.idle.queue, h.idle.begun⟩,
    h.holds.withVector hconfig, h.faulty, h.current, h.complete⟩

theorem Faithful.call (h : r.Faithful calm s) {c : Call} (hcalm : calm → c.IsCalm) :
    ∃ s', (r.call c).Faithful calm s' := by
  cases c with
  | write t faults => exact h.write t hcalm
  | rebuildText => exact h.rebuildText hcalm
  | optimize => exact ⟨s, h.optimize⟩
  | search cancelled request nanos => exact ⟨s, h.search cancelled request nanos⟩

theorem Faithful.calls (h : r.Faithful calm s) {cs : List Call} (hcalm : calm → ∀ c ∈ cs, c.IsCalm) :
    ∃ s', (cs.foldl Run.call r).Faithful calm s' := by
  induction cs generalizing r s with
  | nil => exact ⟨s, h⟩
  | cons c cs ih =>
    obtain ⟨s', h'⟩ := h.call fun hc => hcalm hc c List.mem_cons_self
    exact ih h' fun hc c' hc' => hcalm hc c' (List.mem_cons_of_mem _ hc')

end Run

/-- The engines that are opened with empty tables, over a store that has nothing under the prefix of the
vector index. -/
inductive Engine.Opened : Engine → Prop
  | intro {e : Engine} {config : EngineConfig} {textConfig : TextConfig} {vectorConfig : VectorConfig}
      {clock : Nat} {samples : List Binary64} {content : Store} {text : TextIndex} {vector : VectorIndex}
      (htext : TextIndex.open textConfig none clock = .ok text)
      (hempty : ∀ bytes, bytes.startsWith (KeySpace.ofPrefix vectorConfig.keyPrefix).lead = true →
        content.find? bytes = none)
      (hvector : VectorIndex.open vectorConfig samples { content } = .ok vector)
      (hopen : Engine.open config ⟨text, vector, { content }⟩ = .ok e) : Opened e

theorem EngineConfig.positive_of_validate {c : EngineConfig} (h : c.validate = .ok ()) :
    0 < c.workers ∧ 0 < c.queueSize := by
  rw [validate] at h
  split at h
  · cases h
  next hworkers =>
  split at h
  · cases h
  next hqueue =>
  exact ⟨Nat.pos_of_ne_zero hworkers, Nat.pos_of_ne_zero hqueue⟩

theorem Engine.Opened.faithful {e : Engine} (h : e.Opened) (calm : Prop) :
    (Run.mk e []).Faithful calm .nothing := by
  cases h with
  | intro htext hempty hvector hopen =>
    obtain ⟨htextOpen, hlists⟩ := TextIndex.open_ok htext
    obtain ⟨-, hready⟩ := VectorIndex.ready_of_open hempty hvector
    rw [Engine.open] at hopen
    split at hopen
    · cases hopen
    · next hvalid =>
      obtain ⟨hworkers, hroom⟩ := EngineConfig.positive_of_validate hvalid
      obtain rfl := Except.ok.inj hopen
      refine ⟨⟨⟨rfl, rfl, hworkers, hroom⟩, rfl, rfl⟩, ⟨htextOpen, hlists, _, hready, ?_⟩,
        fun hfault => absurd rfl hfault, fun id d hd => ?_,
        fun _ => ⟨rfl, fun id => rfl, fun w hw => ?_⟩⟩
      · funext id
        exact if_neg List.not_mem_nil
      · cases hd
      · cases hw

theorem Engine.Opened.run {e : Engine} (h : e.Opened) (calls : List Call) :
    ∃ s, (e.run calls).Faithful (∀ c ∈ calls, c.IsCalm) s :=
  (h.faithful _).calls fun hcalm => hcalm

end HybridSearch
