import AccountAccess.Flow
import Mathlib.Tactic.Common

/-!
The calls that an operation makes, whoever answers them.

* An `Exchange` is a call with the reply to it, and `Flow.transcript` lists the exchanges of a run.
* `Flow.Runs` says which exchanges a flow can make and how it ends then, without a word on who
  answers; `Flow.runs_transcript`: every handler makes one of these of it. `Flow.Runs.ask_cases` and
  `Flow.Runs.ask_bind_cases` read them off the calls that a flow is written with.
* `Flow.IsStrict`: a flow goes on only with answers, and ends with whatever else comes. Calls do
  (`Flow.isStrict_ask`), and what is built of them (`Flow.IsStrict.bind`).
  `Flow.IsStrict.of_failure?`: the first call of such a flow that is not answered is its last one,
  and decides what the flow ends with.
* `Flow.run_view`: what no call of a run touches is left as it was.
-/

namespace AccountAccess

/-- A call, and the reply to it. -/
structure Exchange where
  request : Request
  reply : Reply request.Answer

namespace Exchange

/-- What a reply that is no answer comes to. -/
def failure? (x : Exchange) : Option Failure :=
  match x.reply with
  | .value _ => none
  | .refused reason => some reason
  | .silent => some (.timeout x.request.kind.operation)

/-- A reply that comes to a failure is no answer. -/
lemma ne_value_of_failure? {request : Request} {reply : Reply request.Answer} {reason : Failure}
    (h : failure? ⟨request, reply⟩ = some reason) (a : request.Answer) : reply ≠ .value a := by
  rintro rfl
  cases h

/-- A reply is an answer, or it comes to a failure. -/
lemma value_or_failure? {request : Request} (reply : Reply request.Answer) :
    (∃ a, reply = .value a) ∨ ∃ reason, failure? ⟨request, reply⟩ = some reason := by
  cases reply with
  | value a => exact Or.inl ⟨a, rfl⟩
  | refused reason => exact Or.inr ⟨reason, rfl⟩
  | silent => exact Or.inr ⟨_, rfl⟩

end Exchange

namespace Flow

variable {σ α β : Type} {answer : Handler σ} {s : σ} {calls : List Exchange}

/-! ### Transcripts -/

/-- The exchanges of a run, the first one first. -/
def transcript (answer : Handler σ) : Flow α → σ → List Exchange
  | ended _, _ => []
  | call request next, s =>
    ⟨request, (answer s request).1⟩ ::
      (next (answer s request).1).transcript answer (answer s request).2

/-- A call alone is one exchange. -/
lemma transcript_ask (request : Request) :
    (ask request).transcript answer s = [⟨request, (answer s request).1⟩] := by
  rw [ask, transcript]
  cases (answer s request).1 <;> rfl

/-- Behind a call that is answered come the exchanges of what follows on the answer. -/
lemma transcript_ask_bind {request : Request} {a : request.Answer} {s' : σ}
    (h : answer s request = (.value a, s')) (f : request.Answer → Flow β) :
    (ask request >>= f).transcript answer s =
      ⟨request, .value a⟩ :: (f a).transcript answer s' := by
  show transcript answer (call request _) s = _
  rw [transcript, h]
  rfl

/-- What no call of a run touches is left as it was. -/
theorem run_view {view : σ → β} {touches : Request → Prop}
    (hkeep : ∀ s request, ¬ touches request → view (answer s request).2 = view s) {flow : Flow α}
    (h : ∀ x ∈ flow.transcript answer s, ¬ touches x.request) :
    view (flow.run answer s).2 = view s := by
  induction flow generalizing s with
  | ended outcome => rfl
  | call request next ih =>
      rw [transcript] at h
      obtain ⟨hfirst, hrest⟩ := List.forall_mem_cons.mp h
      exact (ih _ hrest).trans (hkeep s request hfirst)

/-! ### What a flow can come to -/

/-- The flow can make these exchanges and end so. -/
inductive Runs : Flow α → List Exchange → Outcome α → Prop
  | ended (outcome : Outcome α) : Runs (.ended outcome) [] outcome
  | call {request : Request} {next : Reply request.Answer → Flow α} {calls : List Exchange}
      {outcome : Outcome α} (reply : Reply request.Answer) :
      Runs (next reply) calls outcome →
        Runs (.call request next) (⟨request, reply⟩ :: calls) outcome

/-- Whoever answers, a flow does something that it can do. -/
theorem runs_transcript (flow : Flow α) :
    flow.Runs (flow.transcript answer s) (flow.run answer s).1 := by
  induction flow generalizing s with
  | ended outcome => exact .ended outcome
  | call request next ih => exact .call _ (ih _)

namespace Runs

/-- A flow that ends at once makes no calls. -/
lemma ended_cases {o outcome : Outcome α} (h : (Flow.ended o).Runs calls outcome) :
    calls = [] ∧ outcome = o := by
  cases h
  exact ⟨rfl, rfl⟩

/-- A call is answered, or it fails. -/
lemma ask_cases {request : Request} {outcome : Outcome request.Answer}
    (h : (ask request).Runs calls outcome) :
    ∃ reply, calls = [⟨request, reply⟩] ∧
      ((∃ a, reply = .value a ∧ outcome = .ok a) ∨
        ∃ reason, Exchange.failure? ⟨request, reply⟩ = some reason ∧
          outcome = .refused reason) := by
  cases h with
  | call reply h =>
      refine ⟨reply, ?_⟩
      cases reply with
      | value a =>
          obtain ⟨rfl, rfl⟩ := h.ended_cases
          exact ⟨rfl, Or.inl ⟨a, rfl, rfl⟩⟩
      | refused reason =>
          obtain ⟨rfl, rfl⟩ := h.ended_cases
          exact ⟨rfl, Or.inr ⟨reason, rfl, rfl⟩⟩
      | silent =>
          obtain ⟨rfl, rfl⟩ := h.ended_cases
          exact ⟨rfl, Or.inr ⟨_, rfl, rfl⟩⟩

/-- What follows on a call follows on its answer; on a failure nothing follows. -/
lemma ask_bind_cases {request : Request} {f : request.Answer → Flow β} {outcome : Outcome β}
    (h : (ask request >>= f).Runs calls outcome) :
    (∃ a rest, calls = ⟨request, .value a⟩ :: rest ∧ (f a).Runs rest outcome) ∨
      ∃ reply reason, Exchange.failure? ⟨request, reply⟩ = some reason ∧
        calls = [⟨request, reply⟩] ∧ outcome = .refused reason := by
  cases h with
  | call reply h =>
      cases reply with
      | value a => exact Or.inl ⟨a, _, rfl, h⟩
      | refused reason =>
          obtain ⟨rfl, rfl⟩ := h.ended_cases
          exact Or.inr ⟨_, reason, rfl, rfl, rfl⟩
      | silent =>
          obtain ⟨rfl, rfl⟩ := h.ended_cases
          exact Or.inr ⟨_, _, rfl, rfl, rfl⟩

end Runs

/-! ### Flows that go on only with answers -/

/-- The flow goes on only with answers: whatever else a reply comes to ends it. -/
def IsStrict : Flow α → Prop
  | ended _ => True
  | call request next =>
    (∀ reply reason, Exchange.failure? ⟨request, reply⟩ = some reason →
        next reply = refuse reason) ∧
      ∀ a, (next (.value a)).IsStrict

lemma isStrict_ended (o : Outcome α) : (ended o).IsStrict := trivial

lemma isStrict_ask (request : Request) : (ask request).IsStrict := by
  refine ⟨fun reply reason h => ?_, fun _ => trivial⟩
  cases reply with
  | value a => cases h
  | refused reason' => cases h; rfl
  | silent => cases h; rfl

/-- What is built of strict flows is strict. -/
lemma IsStrict.bind {x : Flow α} {f : α → Flow β} (hx : x.IsStrict) (hf : ∀ a, (f a).IsStrict) :
    (x >>= f).IsStrict := by
  induction x with
  | ended outcome =>
      cases outcome with
      | ok a => exact hf a
      | refused reason => exact trivial
      | beyondCalendar => exact trivial
  | call request next ih =>
      obtain ⟨hends, hvalue⟩ := hx
      refine ⟨fun reply reason hfailure => ?_, fun a => ih (.value a) (hvalue a)⟩
      show (next reply).bind f = _
      rw [hends reply reason hfailure]
      rfl

/-- The first call of a strict flow that is not answered is its last one, and what its reply comes
to is what the flow ends with. -/
theorem IsStrict.of_failure? {flow : Flow α} (h : flow.IsStrict) {outcome : Outcome α}
    (hruns : flow.Runs calls outcome) {x : Exchange} (hx : x ∈ calls) {reason : Failure}
    (hfailure : x.failure? = some reason) :
    outcome = .refused reason ∧ calls.getLast? = some x := by
  induction hruns with
  | ended outcome => cases hx
  | @call request next rest outcome reply hrest ih =>
      obtain ⟨hends, hvalue⟩ := h
      rcases Exchange.value_or_failure? reply with ⟨a, rfl⟩ | ⟨reason', hfirst⟩
      · rcases List.mem_cons.mp hx with rfl | hlater
        · cases hfailure
        · obtain ⟨houtcome, hlast⟩ := ih (hvalue a) hlater
          refine ⟨houtcome, ?_⟩
          rw [List.getLast?_cons, hlast]
          rfl
      · rw [hends reply reason' hfirst] at hrest
        obtain ⟨rfl, rfl⟩ := hrest.ended_cases
        obtain rfl := List.mem_singleton.mp hx
        obtain rfl := Option.some.inj (hfirst.symm.trans hfailure)
        exact ⟨rfl, rfl⟩

end Flow
end AccountAccess
