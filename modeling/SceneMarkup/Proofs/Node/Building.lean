import SceneMarkup.Node.Binding
import SceneMarkup.ParseError

/-!
Contract: computations that build nodes, run from a ledger.

Owns:
- the outcome of a computation from a ledger on, and of two computations in a row;
- the kind of a node, which no attribute changes.

Does not own: which nodes a document has.
-/

namespace SceneMarkup

namespace BuildM

variable {α β : Type}

/-- What a computation gives when it starts from a ledger, and the ledger it leaves. -/
def outcome (computation : BuildM α) (ledger : IdLedger) : Except ParseError α × IdLedger :=
  StateT.run (ExceptT.run computation) ledger

@[simp] theorem outcome_pure (value : α) (ledger : IdLedger) :
    outcome (pure value) ledger = (.ok value, ledger) := rfl

/-- A computation goes on with the value and the ledger of the one in front of it. -/
theorem outcome_bind_ok {first : BuildM α} {value : α} {ledger middle : IdLedger}
    (next : α → BuildM β) (ended : outcome first ledger = (.ok value, middle)) :
    outcome (first >>= next) ledger = outcome (next value) middle := by
  unfold outcome at *
  simp only [ExceptT.run_bind, StateT.run_bind, ended]
  rfl

/-- An error ends the whole computation. -/
theorem outcome_bind_error {first : BuildM α} {cause : ParseError} {ledger middle : IdLedger}
    (next : α → BuildM β) (ended : outcome first ledger = (.error cause, middle)) :
    outcome (first >>= next) ledger = (.error cause, middle) := by
  unfold outcome at *
  simp only [ExceptT.run_bind, StateT.run_bind, ended]
  rfl

/-- A computation of two parts fails where the first part does, or where the second does from the
ledger that the first one leaves. -/
theorem error_of_bind {first : BuildM α} {next : α → BuildM β} {ledger : IdLedger}
    {cause : ParseError} (failed : (outcome (first >>= next) ledger).1 = .error cause) :
    (outcome first ledger).1 = .error cause ∨
      ∃ value middle, (outcome (next value) middle).1 = .error cause := by
  cases ended : outcome first ledger with
  | mk result middle =>
    cases result with
    | error other =>
      rw [outcome_bind_error next ended] at failed
      cases failed
      exact .inl rfl
    | ok value =>
      rw [outcome_bind_ok next ended] at failed
      exact .inr ⟨value, middle, failed⟩

/-- A value that was given was given beside a ledger. -/
theorem outcome_of_mem {computation : BuildM α} {ledger : IdLedger} {value : α}
    (given : value ∈ (computation.outcome ledger).1.toOption) :
    ∃ after, computation.outcome ledger = (.ok value, after) := by
  cases ended : computation.outcome ledger with
  | mk result after =>
    rw [ended] at given
    cases result with
    | error cause => cases given
    | ok found =>
      cases given
      exact ⟨after, rfl⟩

end BuildM

namespace Node

theorem kind_assign (node : Node) (assignment : Assignment) :
    (node.assign assignment).kind = node.kind := by
  cases assignment with
  | id => rfl
  | number field => cases field <;> rfl
  | size field => cases field <;> rfl
  | color field => cases field <;> rfl
  | text field => cases field <;> rfl
  | flag field => cases field <;> rfl
  | alignment field => cases field <;> rfl
  | name field => cases field <;> rfl

theorem kind_of_bind {node bound : Node} {layout : HexLayout} {written : Attribute}
    (done : node.bind layout written = .ok bound) : bound.kind = node.kind := by
  unfold Node.bind at done
  cases assigned : Binding.assignment node.kind layout written with
  | error cause => simp [assigned, Except.map] at done
  | ok assignment =>
    rw [assigned] at done
    cases done
    cases assignment with
    | none => rfl
    | some assignment => exact kind_assign node assignment

/-- Attributes do not change the kind of a node. -/
theorem kind_bindAll (node : Node) (layout : HexLayout) (attributes : Attributes) :
    (node.bindAll layout attributes).kind = node.kind := by
  unfold bindAll
  induction attributes generalizing node with
  | nil => rfl
  | cons written rest inductionHypothesis =>
    rw [List.foldl_cons, inductionHypothesis]
    cases done : node.bind layout written with
    | error cause => rfl
    | ok bound => exact kind_of_bind done

end Node

end SceneMarkup
