import HybridSearch.Corpus
import HybridSearch.Proofs.Engine.Indexing

/-!
# Loading with calls in flight

The loader reads one line after the other and makes a call for each document. It goes on reading while there is
room for another call, and waits for one of the calls in flight otherwise, or at the end. A call offers its
document to the queue at some time and is answered at some later time; the workers take turns in any way. So the
calls may come to their ends in any order.
-/
namespace HybridSearch

/-- A call that the loader has not waited for yet: it has still to offer its document, it waits for the answer, or
it was refused. -/
inductive Flight where
  | calling (d : Document)
  | waiting (d : Document) (number : ℕ)
  | refused (d : Document) (cause : EngineError)

namespace Flight

def document : Flight → Document
  | calling d | waiting d _ | refused d _ => d

def answer? (e : Engine) : Flight → Option (Except EngineError Unit)
  | calling _ => none
  | waiting _ number => e.answer? number
  | refused _ cause => some (.error cause)

end Flight

/-- `joined` keeps the calls that the loader has waited for, with what they came to. -/
structure Loading where
  service : Service
  lines : List (List Char)
  inFlight : List Flight := []
  report : LoadReport := {}
  joined : List (Flight × Except EngineError Unit) := []

namespace Loading

/-- The places of calls are those among the calls in flight. -/
inductive Event where
  | read
  | call (place : ℕ)
  | take
  | move (position : ℕ)
  | join (place : ℕ)

def start (s : Service) (corpus : String) : Loading where
  service := s
  lines := Text.lines corpus.toList

def window (l : Loading) : ℕ := 2 * l.service.workers

def isFull (l : Loading) : Bool := l.window ≤ l.inFlight.length

/-- The document of a line, which a blank line does not have. -/
def documentOn? (line : List Char) : Option Document :=
  if Text.isBlank line then none else Load.documentOf? line

def isRejected (line : List Char) : Bool := !Text.isBlank line && (Load.documentOf? line).isNone

/-- The loader waits at the end, and when there is no room for the document that it has read. -/
def mustWait (l : Loading) : Bool :=
  match l.lines with
  | [] => true
  | line :: _ => (documentOn? line).isSome && l.isFull

/-- The loading after an event, if it can happen. -/
def after (l : Loading) : Event → Option Loading
  | .read =>
    match l.lines with
    | [] => none
    | line :: lines =>
      if Text.isBlank line then some { l with lines }
      else match Load.documentOf? line with
        | none => some { l with lines, report := { l.report with failed := l.report.failed + 1 } }
        | some d => if l.isFull then none else some { l with lines, inFlight := l.inFlight ++ [.calling d] }
  | .call place =>
    match l.inFlight[place]? with
    | some (.calling d) =>
      match l.service.offer false (.index d) with
      | .ok service =>
        some { l with service, inFlight := l.inFlight.set place (.waiting d l.service.tasks.length) }
      | .error cause => some { l with inFlight := l.inFlight.set place (.refused d cause) }
    | _ => none
  | .take => (l.service.after .take).map fun service => { l with service }
  | .move position => (l.service.after (.move position)).map fun service => { l with service }
  | .join place =>
    if l.mustWait then
      match l.inFlight[place]? with
      | none => none
      | some f =>
        (f.answer? l.service.engine).map fun answer =>
          { l with
            inFlight := l.inFlight.eraseIdx place
            report := l.report.count answer
            joined := l.joined ++ [(f, answer)] }
    else none

def afterAll (l : Loading) (events : List Event) : Option Loading := events.foldlM after l

def Finished (l : Loading) : Prop := l.lines = [] ∧ l.inFlight = []

variable {l l' : Loading}

/-- What an event does. -/
inductive Step (l : Loading) : Loading → Prop
  | skip {line : List Char} {lines : List (List Char)} (hlines : l.lines = line :: lines)
      (hblank : Text.isBlank line = true) : Step l { l with lines }
  | reject {line : List Char} {lines : List (List Char)} (hlines : l.lines = line :: lines)
      (hblank : Text.isBlank line = false) (hdocument : Load.documentOf? line = none) :
      Step l { l with lines, report := { l.report with failed := l.report.failed + 1 } }
  | spawn {line : List Char} {lines : List (List Char)} {d : Document} (hlines : l.lines = line :: lines)
      (hblank : Text.isBlank line = false) (hdocument : Load.documentOf? line = some d)
      (hroom : l.inFlight.length < l.window) : Step l { l with lines, inFlight := l.inFlight ++ [.calling d] }
  | accept {front back : List Flight} {d : Document} (hflight : l.inFlight = front ++ .calling d :: back)
      (hoffer : l.service.offer false (.index d) = .ok (l.service.accept (.index d))) :
      Step l { l with
        service := l.service.accept (.index d)
        inFlight := front ++ .waiting d l.service.tasks.length :: back }
  | refuse {front back : List Flight} {d : Document} {cause : EngineError}
      (hflight : l.inFlight = front ++ .calling d :: back)
      (hoffer : l.service.offer false (.index d) = .error cause) :
      Step l { l with inFlight := front ++ .refused d cause :: back }
  | turn {event : Service.Event} {service : Service} (hturn : event.IsTurn)
      (hafter : l.service.after event = some service) : Step l { l with service }
  | join {front back : List Flight} {f : Flight} {answer : Except EngineError Unit}
      (hwait : l.mustWait = true) (hflight : l.inFlight = front ++ f :: back)
      (hanswer : f.answer? l.service.engine = some answer) :
      Step l { l with
        inFlight := front ++ back
        report := l.report.count answer
        joined := l.joined ++ [(f, answer)] }

theorem split_at {α : Type} {xs : List α} {place : ℕ} {x : α} (h : xs[place]? = some x) :
    ∃ front back, xs = front ++ x :: back ∧ xs.eraseIdx place = front ++ back ∧
      ∀ y, xs.set place y = front ++ y :: back := by
  have hlt := (List.getElem?_eq_some_iff.mp h).1
  exact ⟨xs.take place, xs.drop (place + 1), eq_take_cons_drop h, List.eraseIdx_eq_take_drop_succ _ _, fun y =>
    List.set_eq_take_append_cons_drop.trans (if_pos hlt)⟩

theorem step_of_after {event : Event} (h : l.after event = some l') : l.Step l' := by
  cases event with
  | read =>
    rw [after] at h
    split at h
    · cases h
    · next line lines hlines =>
      split at h
      · next hblank =>
        obtain rfl := Option.some_inj.mp h
        exact .skip hlines hblank
      · next hblank =>
        split at h
        · next hdocument =>
          obtain rfl := Option.some_inj.mp h
          exact .reject hlines (eq_false_of_ne_true hblank) hdocument
        · next d hdocument =>
          obtain ⟨hroom, h⟩ := Option.ite_none_left_eq_some.mp h
          obtain rfl := Option.some_inj.mp h
          exact .spawn hlines (eq_false_of_ne_true hblank) hdocument (by simpa [isFull] using hroom)
  | call place =>
    rw [after] at h
    split at h
    · next d hplace =>
      obtain ⟨front, back, hflight, -, hset⟩ := split_at hplace
      simp only [hset] at h
      rcases l.service.offer_cases false (.index d) with ⟨cause, hoffer⟩ | ⟨-, -, hoffer⟩
      · rw [hoffer] at h
        obtain rfl := Option.some_inj.mp h
        exact .refuse hflight hoffer
      · rw [hoffer] at h
        obtain rfl := Option.some_inj.mp h
        exact .accept hflight hoffer
    · cases h
  | take =>
    obtain ⟨service, hafter, rfl⟩ := Option.map_eq_some_iff.mp h
    exact .turn .take hafter
  | move position =>
    obtain ⟨service, hafter, rfl⟩ := Option.map_eq_some_iff.mp h
    exact .turn (.move position) hafter
  | join place =>
    obtain ⟨hwait, h⟩ := Option.ite_none_right_eq_some.mp h
    split at h
    · cases h
    · next f hplace =>
      obtain ⟨answer, hanswer, rfl⟩ := Option.map_eq_some_iff.mp h
      obtain ⟨front, back, hflight, herase, -⟩ := split_at hplace
      rw [herase]
      exact .join hwait hflight hanswer

theorem length_nonblank (lines : List (List Char)) : lines.countP (fun line => !Text.isBlank line) =
    (lines.filterMap documentOn?).length + lines.countP isRejected := by
  induction lines with
  | nil => rfl
  | cons line lines ih =>
    rw [List.countP_cons, List.countP_cons, List.filterMap_cons, ih]
    cases hblank : Text.isBlank line with
    | true => simp [documentOn?, isRejected, hblank]
    | false =>
      cases hdocument : Load.documentOf? line with
      | none => simp [documentOn?, isRejected, hblank, hdocument, Nat.add_assoc]
      | some d => simp [documentOn?, isRejected, hblank, hdocument, Nat.add_right_comm]

/-- What the loader has counted, and that nothing is lost: `lines` are those of the whole corpus. -/
structure Accounts (lines : List (List Char)) (l : Loading) : Prop where
  window : l.inFlight.length ≤ l.window
  documents : (l.joined.map (fun outcome => outcome.1.document) ++
    (l.inFlight.map Flight.document ++ l.lines.filterMap documentOn?)).Perm (lines.filterMap documentOn?)
  indexed : l.report.indexed = l.joined.countP fun outcome => outcome.2.isOk
  failed : l.report.failed + l.lines.countP isRejected =
    (l.joined.countP fun outcome => !outcome.2.isOk) + lines.countP isRejected

variable {lines : List (List Char)}

theorem accounts_start (s : Service) (corpus : String) :
    (start s corpus).Accounts (Text.lines corpus.toList) where
  window := Nat.zero_le _
  documents := .refl _
  indexed := rfl
  failed := rfl

theorem Accounts.congr (h : l.Accounts lines) {service : Service} {inFlight : List Flight}
    (hworkers : service.workers = l.service.workers)
    (hsame : inFlight.map Flight.document = l.inFlight.map Flight.document) :
    ({ l with service, inFlight } : Loading).Accounts lines where
  window := by
    have hlength := congrArg List.length hsame
    rw [List.length_map, List.length_map] at hlength
    show inFlight.length ≤ 2 * service.workers
    rw [hlength, hworkers]
    exact h.window
  documents := by
    show (_ ++ (inFlight.map Flight.document ++ _)).Perm _
    rw [hsame]
    exact h.documents
  indexed := h.indexed
  failed := h.failed

theorem map_document_replaced {front back : List Flight} {f f' : Flight} (h : f'.document = f.document) :
    (front ++ f' :: back).map Flight.document = (front ++ f :: back).map Flight.document := by
  rw [List.map_append, List.map_append, List.map_cons, List.map_cons, h]

theorem Accounts.step (h : l.Accounts lines) (ho : l.service.Orderly) (hstep : l.Step l') : l'.Accounts lines := by
  have hdocuments := h.documents
  have hfailed := h.failed
  cases hstep with
  | @skip line rest hlines hblank =>
    rw [hlines, List.filterMap_cons, documentOn?, hblank] at hdocuments
    rw [hlines, List.countP_cons, isRejected, hblank] at hfailed
    exact ⟨h.window, hdocuments, h.indexed, hfailed⟩
  | @reject line rest hlines hblank hdocument =>
    rw [hlines, List.filterMap_cons, documentOn?, hblank, hdocument] at hdocuments
    rw [hlines, List.countP_cons, isRejected, hblank, hdocument] at hfailed
    exact ⟨h.window, hdocuments, h.indexed, (Nat.succ_add_eq_add_succ _ _).trans hfailed⟩
  | @spawn line rest d hlines hblank hdocument hroom =>
    rw [hlines, List.filterMap_cons, documentOn?, hblank, hdocument] at hdocuments
    rw [hlines, List.countP_cons, isRejected, hblank, hdocument] at hfailed
    refine ⟨?_, ?_, h.indexed, hfailed⟩
    · show (l.inFlight ++ [Flight.calling d]).length ≤ l.window
      rw [List.length_append]
      exact hroom
    · simpa [Flight.document] using hdocuments
  | accept hflight _ =>
    refine h.congr rfl ?_
    rw [hflight]
    exact map_document_replaced rfl
  | refuse hflight _ =>
    refine h.congr rfl ?_
    rw [hflight]
    exact map_document_replaced rfl
  | turn hturn hafter => exact h.congr (congrArg EngineConfig.workers (ho.turned hturn hafter).config) rfl
  | @join front back f answer _ hflight _ =>
    have hwindow := h.window
    have hindexed := h.indexed
    rw [hflight] at hdocuments hwindow
    refine ⟨?_, ?_, ?_, ?_⟩
    · exact Nat.le_trans (((List.sublist_cons_self f back).append_left front).length_le) hwindow
    · refine List.Perm.trans ?_ hdocuments
      rw [List.map_append, List.append_assoc]
      refine List.Perm.append_left _ ?_
      rw [← List.append_assoc]
      refine List.Perm.append_right _ ?_
      simp only [List.map_append, List.map_cons, List.map_nil, List.singleton_append]
      exact List.perm_middle.symm
    · show (l.report.count answer).indexed = _
      rw [List.countP_append, List.countP_singleton, ← hindexed]
      cases answer <;> rfl
    · show (l.report.count answer).failed + l.lines.countP isRejected = _
      rw [List.countP_append, List.countP_singleton]
      cases answer with
      | ok u => exact hfailed
      | error e =>
        show l.report.failed + 1 + _ = _ + 1 + _
        omega

end Loading

end HybridSearch
