import SceneMarkup.Node.Kind
import SceneMarkup.Text.Blank

/-!
Contract: node ids and the ledger of names already taken.

Owns:
- `NodeId`, an id, equal to another exactly when the names are equal;
- `IdLedger`, the names taken so far and a counter for each kind;
- generated ids, which are `<kind>_<n>` with the least free number from the counter on;
- `IdM`, computations that take names.

Does not own: which node carries which id.
-/

namespace SceneMarkup

open SceneMarkup.Text

structure NodeId where
  name : String
deriving DecidableEq, Repr

/-- The names taken so far, and for each kind the number from which the next search starts. -/
structure IdLedger where
  taken : List String
  /-- Numbers without a bound, where a program counts in 32 bits. `Proofs.Node.FreshIds` has the
  search by such a counter (`WordSearch`), which ends at the same number as long as that fits
  (`WordSearch.of_passed`). -/
  next : Kind → Nat

namespace IdLedger

def empty : IdLedger := ⟨[], fun _ => 0⟩

/-- Takes a name, which may be taken already. -/
def take (ledger : IdLedger) (name : String) : IdLedger :=
  if name ∈ ledger.taken then ledger else { ledger with taken := name :: ledger.taken }

def takeIds (ledger : IdLedger) (ids : List NodeId) : IdLedger :=
  ids.foldl (fun ledger id => ledger.take id.name) ledger

/-- The name of the `number`-th generated id of a kind. -/
def generatedName (kind : Kind) (number : Nat) : String :=
  kind.name ++ "_" ++ String.ofList (Nat.toDigits 10 number)

/-- The least number from `start` on whose generated name is free, among `count` of them; the
number behind them when none is. -/
def firstFree (taken : List String) (kind : Kind) : (start count : Nat) → Nat
  | start, 0 => start
  | start, count + 1 =>
    if generatedName kind start ∈ taken then firstFree taken kind (start + 1) count else start

/-- The number of the next generated id of a kind. More candidates than names taken are looked
at, so one of them is free. -/
def nextFree (ledger : IdLedger) (kind : Kind) : Nat :=
  firstFree ledger.taken kind (ledger.next kind) ledger.taken.length

def advance (ledger : IdLedger) (kind : Kind) (number : Nat) : IdLedger :=
  { ledger with next := fun other => if other = kind then number else ledger.next other }

end IdLedger

/-- A computation that takes names. -/
abbrev IdM := StateM IdLedger

namespace NodeId

/-- The id of a name, which counts as taken from then on. -/
def intern (name : String) : IdM NodeId := do
  modify (·.take name)
  return ⟨name⟩

/-- The id an attribute value names; a blank value names none. -/
def ofValue? (value : String) : Option NodeId :=
  let name := trimmed value
  if name = "" then none else some ⟨name⟩

/-- A fresh id of a kind. -/
def generate (kind : Kind) : IdM NodeId := do
  let ledger ← get
  let number := ledger.nextFree kind
  set (ledger.advance kind (number + 1))
  intern (IdLedger.generatedName kind number)

/-- The id of a named part below a node. -/
def part (id : NodeId) (name : String) : IdM NodeId := intern (id.name ++ "_" ++ name)

end NodeId

end SceneMarkup
