import AccountAccess.Memory.Backend
import Mathlib.Logic.Function.Basic

/-!
Operations that are under way together, over the same collaborators in memory.

* `Pool.turn` lets one of them make its next call. A call is answered at once, so whatever comes
  between the calls of an operation is done by the others; `Pool.turns` takes turns in any order.
* `Pool.turn_of_call` and `Pool.turn_of_ended`: what a turn does.
* `Pool.exists_turns_alone`: an operation of which no other makes a call in between comes to what
  it comes to by itself.
-/

namespace AccountAccess

/-- Operations that are under way, the collaborators that they share, and the calls that were
answered with a value, the latest first. -/
structure Pool (ι α : Type) where
  backend : Backend
  flows : ι → Flow α
  granted : List (ι × Request) := []

namespace Pool

variable {ι α : Type} [DecidableEq ι]

/-- Notes a call if it is answered with a value. -/
def note (granted : List (ι × Request)) (i : ι) (request : Request) :
    Reply request.Answer → List (ι × Request)
  | .value _ => (i, request) :: granted
  | _ => granted

/-- Lets an operation make its next call. -/
def turn (p : Pool ι α) (i : ι) : Pool ι α :=
  match p.flows i with
  | .ended _ => p
  | .call request next =>
    let (reply, backend) := p.backend.answer request
    { backend
      flows := Function.update p.flows i (next reply)
      granted := note p.granted i request reply }

/-- Takes turns, the first one first. -/
def turns (p : Pool ι α) (order : List ι) : Pool ι α := order.foldl turn p

variable {p : Pool ι α} {i : ι}

lemma turns_cons (order : List ι) : p.turns (i :: order) = (p.turn i).turns order := rfl

/-- The last turn comes after the others. -/
lemma turns_concat (order : List ι) : p.turns (order ++ [i]) = (p.turns order).turn i := by
  rw [turns, List.foldl_append]
  rfl

/-- What has ended makes no more calls. -/
lemma turn_of_ended {outcome : Outcome α} (h : p.flows i = .ended outcome) : p.turn i = p := by
  rw [turn, h]

/-- An operation goes on with the reply to its call. -/
lemma turn_of_call {request : Request} {next : Reply request.Answer → Flow α}
    (h : p.flows i = .call request next) {reply : Reply request.Answer} {backend : Backend}
    (hanswer : p.backend.answer request = (reply, backend)) :
    p.turn i =
      { backend
        flows := Function.update p.flows i (next reply)
        granted := note p.granted i request reply } := by
  rw [turn, h]
  dsimp only
  rw [hanswer]

/-- A turn leaves the other operations where they are. -/
lemma flows_turn_of_ne {j : ι} (hne : j ≠ i) : (p.turn i).flows j = p.flows j := by
  rw [turn]
  split
  · rfl
  · exact Function.update_of_ne hne _ _

/-- An operation that is alone for as long as it takes comes to what it comes to by itself. -/
theorem exists_turns_alone (p : Pool ι α) (i : ι) :
    ∃ n, (p.turns (List.replicate n i)).flows i =
          .ended ((p.flows i).run Backend.answer p.backend).1 ∧
        (p.turns (List.replicate n i)).backend =
          ((p.flows i).run Backend.answer p.backend).2 := by
  generalize hflow : p.flows i = flow
  induction flow generalizing p with
  | ended outcome => exact ⟨0, hflow, rfl⟩
  | call request next ih =>
      rcases hanswer : p.backend.answer request with ⟨reply, backend⟩
      have hturn := turn_of_call hflow hanswer
      have hnext : (p.turn i).flows i = next reply := by
        rw [hturn]
        exact Function.update_self i _ _
      obtain ⟨n, hended, hleft⟩ := ih reply (p.turn i) hnext
      refine ⟨n + 1, ?_⟩
      rw [List.replicate_succ, turns_cons, hended, hleft, Flow.run, hanswer, hturn]
      exact ⟨rfl, rfl⟩

end Pool
end AccountAccess
