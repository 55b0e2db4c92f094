import TensorEngine.Error

/-! What a call leaves behind. A call answers or fails; either way it has a state
after it and the events it recorded before it ended. -/

set_option autoImplicit false

namespace TensorEngine

inductive Assertion where
  | sameLength
  | sameShape
  | close (index : Nat) (actual expected difference tolerance : Float32)

def Assertion.message? : Assertion → Option String
  | .sameLength | .sameShape => none
  | .close index actual expected difference tolerance =>
    some (s!"Values at index {index} aren't close enough: a={Text.decimal actual}, " ++
      s!"b={Text.decimal expected}, diff={Text.decimal difference}, tol={Text.decimal tolerance}")

/-- A broken contract: the call stops and has no answer. -/
inductive Fault where
  /-- An index or a range outside the storage it is meant for. -/
  | outOfRange
  /-- A tensor that is read while it is written. -/
  | sharedWrite
  /-- A step of length zero that a length is divided by. -/
  | zeroDivision
  | assertion (failed : Assertion)

inductive Failure where
  | refused (error : Error)
  | fault (fault : Fault)

-- A check that can only refuse is part of one that can also meet a fault.
instance : MonadLift (Except Error) (Except Failure) := ⟨Except.mapError .refused⟩

/-- Answer, state and events of one call. -/
structure Outcome (σ ε β : Type) where
  answer : Except Failure β
  state : σ
  events : List ε

namespace Outcome

variable {σ τ ε β γ : Type}

def done (state : σ) (value : β) : Outcome σ ε β := ⟨.ok value, state, []⟩

def fail (state : σ) (failure : Failure) : Outcome σ ε β := ⟨.error failure, state, []⟩

def refuse (state : σ) (error : Error) : Outcome σ ε β := fail state (.refused error)

def ofExcept (state : σ) : Except Error β → Outcome σ ε β
  | .ok value => done state value
  | .error error => refuse state error

def after (events : List ε) (outcome : Outcome σ ε β) : Outcome σ ε β :=
  { outcome with events := events ++ outcome.events }

def mapState (f : σ → τ) (outcome : Outcome σ ε β) : Outcome τ ε β :=
  ⟨outcome.answer, f outcome.state, outcome.events⟩

def map (f : β → γ) (outcome : Outcome σ ε β) : Outcome σ ε γ :=
  ⟨outcome.answer.map f, outcome.state, outcome.events⟩

def andThen (outcome : Outcome σ ε β) (next : β → σ → Outcome σ ε γ) : Outcome σ ε γ :=
  match outcome.answer with
  | .ok value => (next value outcome.state).after outcome.events
  | .error failure => ⟨.error failure, outcome.state, outcome.events⟩

@[simp] theorem answer_after (events : List ε) (outcome : Outcome σ ε β) :
    (outcome.after events).answer = outcome.answer := rfl

@[simp] theorem state_after (events : List ε) (outcome : Outcome σ ε β) :
    (outcome.after events).state = outcome.state := rfl

@[simp] theorem events_after (events : List ε) (outcome : Outcome σ ε β) :
    (outcome.after events).events = events ++ outcome.events := rfl

theorem andThen_of_ok {outcome : Outcome σ ε β} {value : β} (next : β → σ → Outcome σ ε γ)
    (answered : outcome.answer = .ok value) :
    outcome.andThen next = (next value outcome.state).after outcome.events := by
  simp [andThen, answered]

theorem andThen_of_error {outcome : Outcome σ ε β} {failure : Failure}
    (next : β → σ → Outcome σ ε γ) (failed : outcome.answer = .error failure) :
    outcome.andThen next = ⟨.error failure, outcome.state, outcome.events⟩ := by
  simp [andThen, failed]

theorem answer_andThen_eq_ok_iff {outcome : Outcome σ ε β} {next : β → σ → Outcome σ ε γ}
    {result : γ} :
    (outcome.andThen next).answer = .ok result ↔
      ∃ value, outcome.answer = .ok value ∧ (next value outcome.state).answer = .ok result := by
  cases answered : outcome.answer with
  | error failure => simp [andThen_of_error next answered]
  | ok value => simp [andThen_of_ok next answered]

theorem answer_map_eq_ok_iff {outcome : Outcome σ ε β} {f : β → γ} {result : γ} :
    (outcome.map f).answer = .ok result ↔ ∃ value, outcome.answer = .ok value ∧
      f value = result := by
  unfold map
  cases outcome.answer <;> simp [Except.map]

theorem answer_ofExcept_eq_ok_iff {state : σ} {answer : Except Error β} {value : β} :
    (ofExcept state answer : Outcome σ ε β).answer = .ok value ↔ answer = .ok value := by
  cases answer <;> simp [ofExcept, done, refuse, fail]

end Outcome

end TensorEngine
