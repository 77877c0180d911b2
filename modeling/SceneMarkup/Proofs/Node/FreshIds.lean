import Mathlib.Data.List.Induction
import Mathlib.Data.Nat.Init
import Mathlib.Order.Bounds.Defs
import SceneMarkup.Proofs.Node.Names

/-!
Contract: ids over whole histories of the ledger.

Owns:
- the steps that take names, and what a history of them gives and leaves behind;
- the search for a free number by a counter of 32 bits;
- the theorem that ids are equal exactly when their names are, and that generated ids are new,
  whatever names were claimed before.

Does not own: how often numbers are drawn, which must be fewer than 2^32 times for each kind.
-/

namespace SceneMarkup

open IdLedger

/-! ### Statement -/

/-- A step that may take a name. -/
inductive IdStep where
  | intern (name : String)
  /-- The value of an `id` attribute, which names nothing if it is blank. -/
  | ofValue (value : String)
  | part (id : NodeId) (name : String)
  | generate (kind : Kind)
deriving DecidableEq, Repr

/-- The key of a taken name: how many names were taken before it. -/
def IdLedger.key? (ledger : IdLedger) (name : String) : Option Nat :=
  ledger.taken.reverse.idxOf? name

/-- A counter of 32 bits that draws numbers until one of them is free. -/
inductive WordSearch (taken : List String) (kind : Kind) : UInt32 → UInt32 → Prop where
  | free {counter : UInt32} (fresh : generatedName kind counter.toNat ∉ taken) :
      WordSearch taken kind counter counter
  | claimed {counter found : UInt32} (present : generatedName kind counter.toNat ∈ taken)
      (further : WordSearch taken kind (counter + 1) found) : WordSearch taken kind counter found

namespace IdStep

def run : IdStep → IdM (Option NodeId)
  | intern name => return some (← NodeId.intern name)
  | ofValue value =>
    match NodeId.ofValue? value with
    | some id => return some (← NodeId.intern id.name)
    | none => return none
  | part id name => return some (← id.part name)
  | generate kind => return some (← NodeId.generate kind)

/-- The id that a step gives. -/
def answer (step : IdStep) (ledger : IdLedger) : Option NodeId := (step.run.run ledger).1

def after (step : IdStep) (ledger : IdLedger) : IdLedger := (step.run.run ledger).2

def isGenerate : IdStep → Bool
  | generate _ => true
  | intern _ | ofValue _ | part .. => false

/-- What the steps of a history give, one after another from the empty ledger on. -/
def given (history : List IdStep) : List (Option NodeId) := ((history.mapM run).run .empty).1

def ledgerBehind (history : List IdStep) : IdLedger := ((history.mapM run).run .empty).2

/-- What the generating steps of a history give. -/
def generated (history : List IdStep) : List (Option NodeId) :=
  ((history.zip (given history)).filter fun entry => entry.1.isGenerate).map Prod.snd

/-- The generation of an id with a number. -/
structure Generation (ledger : IdLedger) (kind : Kind) (number : Nat) : Prop where
  least : IsLeast
    {candidate | ledger.next kind ≤ candidate ∧ generatedName kind candidate ∉ ledger.taken} number
  /-- The counter of 32 bits ends at the number and nowhere else. -/
  search : ∀ found, WordSearch ledger.taken kind (UInt32.ofNat (ledger.next kind)) found ↔
    found = UInt32.ofNat number
  fits : (UInt32.ofNat number).toNat = number
  answer : (generate kind).answer ledger = some ⟨generatedName kind number⟩
  /-- The name is added and the counter moves behind it; nothing else changes. -/
  after : (generate kind).after ledger =
    ⟨generatedName kind number :: ledger.taken,
      fun other => if other = kind then number + 1 else ledger.next other⟩

/-- The ids of a history. -/
structure Identifies (history : List IdStep) : Prop where
  /-- The names taken are those of the ids given, each taken once. -/
  taken : ∀ name, name ∈ (ledgerBehind history).taken ↔ some ⟨name⟩ ∈ given history
  once : (ledgerBehind history).taken.Nodup
  /-- An id has its key from the step on that gave it. -/
  kept : ∀ before behind, history = before ++ behind → ∀ id, some id ∈ given before →
    ∃ key, (ledgerBehind before).key? id.name = some key ∧
      (ledgerBehind history).key? id.name = some key
  equal : ∀ id other, some id ∈ given history → some other ∈ given history →
    ((ledgerBehind history).key? id.name = (ledgerBehind history).key? other.name ↔
      id.name = other.name)
  generation : ∀ before kind behind, history = before ++ generate kind :: behind →
    ∃ number, Generation (ledgerBehind before) kind number ∧
      some ⟨generatedName kind number⟩ ∉ given before
  distinct : (generated history).Nodup

end IdStep

/-! ### The search for a number -/

namespace IdLedger

theorem le_firstFree (taken : List String) (kind : Kind) (start count : Nat) :
    start ≤ firstFree taken kind start count := by
  induction count generalizing start with
  | zero => exact Nat.le_refl _
  | succ count inductionHypothesis =>
    rw [firstFree]
    split
    · exact Nat.le_trans (Nat.le_succ start) (inductionHypothesis (start + 1))
    · exact Nat.le_refl _

/-- The names that a search passes by are taken. -/
theorem mem_of_lt_firstFree {taken : List String} {kind : Kind} {start count number : Nat}
    (behind : start ≤ number) (passed : number < firstFree taken kind start count) :
    generatedName kind number ∈ taken := by
  induction count generalizing start with
  | zero => exact absurd behind (Nat.not_le_of_lt passed)
  | succ count inductionHypothesis =>
    rw [firstFree] at passed
    split at passed
    case isTrue first =>
      by_cases here : number = start
      · rwa [here]
      · exact inductionHypothesis (by omega) passed
    case isFalse => exact absurd behind (Nat.not_le_of_lt passed)

/-- The next number is the least free one from the counter on. -/
theorem isLeast_nextFree (ledger : IdLedger) (kind : Kind) :
    IsLeast
      {candidate | ledger.next kind ≤ candidate ∧ generatedName kind candidate ∉ ledger.taken}
      (ledger.nextFree kind) := by
  refine ⟨⟨le_firstFree _ _ _ _, generatedName_nextFree_not_mem ledger kind⟩, ?_⟩
  rintro candidate ⟨behind, free⟩
  by_contra passed
  exact free (mem_of_lt_firstFree behind (Nat.lt_of_not_le passed))

end IdLedger

namespace WordSearch

variable {taken : List String} {kind : Kind}

theorem unique {counter found other : UInt32} (search : WordSearch taken kind counter found)
    (searchOther : WordSearch taken kind counter other) : found = other := by
  induction search with
  | free fresh =>
    cases searchOther with
    | free _ => rfl
    | claimed present _ => exact absurd present fresh
  | claimed present _ inductionHypothesis =>
    cases searchOther with
    | free fresh => exact absurd present fresh
    | claimed _ further => exact inductionHypothesis further

/-- As long as the counter does not overflow, it draws the same numbers as an unbounded one. -/
theorem of_passed {start number : Nat} (behind : start ≤ number) (fits : number < UInt32.size)
    (passed : ∀ candidate, start ≤ candidate → candidate < number →
      generatedName kind candidate ∈ taken)
    (free : generatedName kind number ∉ taken) :
    WordSearch taken kind (UInt32.ofNat start) (UInt32.ofNat number) := by
  induction behind using Nat.decreasingInduction with
  | self =>
    apply WordSearch.free
    rwa [UInt32.toNat_ofNat_of_lt' fits]
  | of_succ start inside inductionHypothesis =>
    have word : (UInt32.ofNat start).toNat = start :=
      UInt32.toNat_ofNat_of_lt' (Nat.lt_trans inside fits)
    have further := inductionHypothesis fun candidate later =>
      passed candidate (Nat.le_of_succ_le later)
    rw [UInt32.ofNat_add] at further
    refine .claimed ?_ further
    rw [word]
    exact passed start (Nat.le_refl start) inside

end WordSearch

/-! ### Keys -/

namespace IdLedger

theorem nodup_taken_take {ledger : IdLedger} (once : ledger.taken.Nodup) (name : String) :
    (ledger.take name).taken.Nodup := by
  unfold take
  split
  case isTrue => exact once
  case isFalse absent => exact List.nodup_cons.mpr ⟨absent, once⟩

theorem suffix_taken_take (ledger : IdLedger) (name : String) :
    ledger.taken <:+ (ledger.take name).taken := by
  unfold take
  split
  · exact List.suffix_refl _
  · exact List.suffix_cons _ _

theorem next_take (ledger : IdLedger) (name : String) : (ledger.take name).next = ledger.next := by
  unfold take
  split <;> rfl

theorem isSome_key? {ledger : IdLedger} {name : String} :
    (ledger.key? name).isSome = true ↔ name ∈ ledger.taken := by
  rw [key?, List.isSome_idxOf?, List.mem_reverse]

/-- A key stays the same when more names are taken. -/
theorem key?_of_suffix {ledger later : IdLedger} (grown : ledger.taken <:+ later.taken)
    {name : String} (present : name ∈ ledger.taken) : later.key? name = ledger.key? name := by
  obtain ⟨added, same⟩ := grown
  rw [key?, key?, ← same, List.reverse_append]
  exact List.findIdx?_append.trans (Option.or_of_isSome (isSome_key?.mpr present))

/-- Taken names with equal keys are equal. -/
theorem eq_of_key?_eq {ledger : IdLedger} {name other : String} (present : name ∈ ledger.taken)
    (same : ledger.key? name = ledger.key? other) : name = other := by
  obtain ⟨key, found⟩ := Option.isSome_iff_exists.mp (isSome_key?.mpr present)
  obtain ⟨_, here, _⟩ := List.idxOf?_eq_some_iff.mp found
  obtain ⟨_, there, _⟩ := List.idxOf?_eq_some_iff.mp (same.symm.trans found)
  exact here.symm.trans there

end IdLedger

/-! ### Steps -/

namespace IdStep

theorem answer_generate (kind : Kind) (ledger : IdLedger) :
    (generate kind).answer ledger = some ⟨generatedName kind (ledger.nextFree kind)⟩ := rfl

theorem after_generate (kind : Kind) (ledger : IdLedger) :
    (generate kind).after ledger =
      ⟨generatedName kind (ledger.nextFree kind) :: ledger.taken,
        fun other => if other = kind then ledger.nextFree kind + 1 else ledger.next other⟩ :=
  if_neg (generatedName_nextFree_not_mem ledger kind)

/-- A step takes the name of the id that it gives. -/
theorem taken_after (step : IdStep) (ledger : IdLedger) :
    (step.after ledger).taken =
      (step.answer ledger).elim ledger.taken fun id => (ledger.take id.name).taken := by
  cases step with
  | intern name => rfl
  | ofValue value =>
    simp only [after, answer, run]
    cases NodeId.ofValue? value <;> rfl
  | part id name => rfl
  | generate kind =>
    have added : (ledger.take (generatedName kind (ledger.nextFree kind))).taken =
        generatedName kind (ledger.nextFree kind) :: ledger.taken := by
      rw [take, if_neg (generatedName_nextFree_not_mem ledger kind)]
    rw [after_generate, answer_generate, Option.elim_some, added]

theorem next_le_next_after (step : IdStep) (ledger : IdLedger) (kind : Kind) :
    ledger.next kind ≤ (step.after ledger).next kind := by
  cases step with
  | intern name => exact Nat.le_of_eq (congrFun (next_take ledger name) kind).symm
  | ofValue value =>
    simp only [after, run]
    cases NodeId.ofValue? value with
    | none => exact Nat.le_refl _
    | some id => exact Nat.le_of_eq (congrFun (next_take ledger id.name) kind).symm
  | part id name => exact Nat.le_of_eq (congrFun (next_take ledger _) kind).symm
  | generate own =>
    rw [after_generate]
    dsimp only
    split
    case isTrue same =>
      rw [same]
      exact Nat.le_succ_of_le (isLeast_nextFree ledger own).1.1
    case isFalse => exact Nat.le_refl _

theorem suffix_taken_after (step : IdStep) (ledger : IdLedger) :
    ledger.taken <:+ (step.after ledger).taken := by
  rw [taken_after]
  cases step.answer ledger with
  | none => exact List.suffix_refl _
  | some id => exact suffix_taken_take ledger id.name

theorem mem_taken_after {step : IdStep} {ledger : IdLedger} {name : String} :
    name ∈ (step.after ledger).taken ↔
      name ∈ ledger.taken ∨ step.answer ledger = some ⟨name⟩ := by
  rw [taken_after]
  cases step.answer ledger with
  | none => simp
  | some id =>
    rw [Option.elim_some, mem_taken_take, or_comm, Option.some.injEq, NodeId.mk.injEq]
    exact or_congr_right eq_comm

/-! ### Histories -/

theorem given_concat (history : List IdStep) (step : IdStep) :
    given (history ++ [step]) = given history ++ [step.answer (ledgerBehind history)] := by
  rw [given, List.mapM_append]
  rfl

theorem ledgerBehind_concat (history : List IdStep) (step : IdStep) :
    ledgerBehind (history ++ [step]) = step.after (ledgerBehind history) := by
  rw [ledgerBehind, List.mapM_append]
  rfl

theorem length_given (history : List IdStep) : (given history).length = history.length := by
  induction history using List.reverseRecOn with
  | nil => rfl
  | append_singleton earlier step inductionHypothesis =>
    rw [given_concat, List.length_append, List.length_append, inductionHypothesis]
    rfl

theorem generated_concat (history : List IdStep) (step : IdStep) :
    generated (history ++ [step]) = generated history ++
      if step.isGenerate then [step.answer (ledgerBehind history)] else [] := by
  rw [generated, given_concat, List.zip_append (length_given history).symm, List.filter_append,
    List.map_append, ← generated]
  cases generating : step.isGenerate with
  | true => simp [generating]
  | false => simp [generating]

theorem mem_given_of_mem_generated {history : List IdStep} {id : Option NodeId}
    (member : id ∈ generated history) : id ∈ given history := by
  obtain ⟨entry, listed, rfl⟩ := List.mem_map.mp member
  exact (List.of_mem_zip (List.mem_filter.mp listed).1).2

theorem mem_taken_ledgerBehind {history : List IdStep} {name : String} :
    name ∈ (ledgerBehind history).taken ↔ some ⟨name⟩ ∈ given history := by
  induction history using List.reverseRecOn with
  | nil => exact iff_of_false List.not_mem_nil List.not_mem_nil
  | append_singleton earlier step inductionHypothesis =>
    rw [ledgerBehind_concat, mem_taken_after, given_concat, List.mem_append, List.mem_singleton,
      inductionHypothesis, eq_comm]

theorem nodup_taken_ledgerBehind (history : List IdStep) : (ledgerBehind history).taken.Nodup := by
  induction history using List.reverseRecOn with
  | nil => exact List.nodup_nil
  | append_singleton earlier step inductionHypothesis =>
    rw [ledgerBehind_concat, taken_after]
    cases step.answer (ledgerBehind earlier) with
    | none => exact inductionHypothesis
    | some id => exact nodup_taken_take inductionHypothesis id.name

/-- Names stay taken and counters only grow. -/
theorem suffix_taken_ledgerBehind (before behind : List IdStep) :
    (ledgerBehind before).taken <:+ (ledgerBehind (before ++ behind)).taken := by
  induction behind using List.reverseRecOn with
  | nil => simp only [List.append_nil, List.suffix_refl]
  | append_singleton earlier step inductionHypothesis =>
    rw [← List.append_assoc, ledgerBehind_concat]
    exact inductionHypothesis.trans (suffix_taken_after step _)

theorem next_le_next_ledgerBehind (before behind : List IdStep) (kind : Kind) :
    (ledgerBehind before).next kind ≤ (ledgerBehind (before ++ behind)).next kind := by
  induction behind using List.reverseRecOn with
  | nil => simp only [List.append_nil, Nat.le_refl]
  | append_singleton earlier step inductionHypothesis =>
    rw [← List.append_assoc, ledgerBehind_concat]
    exact Nat.le_trans inductionHypothesis (next_le_next_after step _ kind)

/-- A generated id was not given before. -/
theorem answer_generate_not_mem (history : List IdStep) (kind : Kind) :
    (generate kind).answer (ledgerBehind history) ∉ given history := by
  rw [answer_generate, ← mem_taken_ledgerBehind]
  exact generatedName_nextFree_not_mem _ kind

theorem nodup_generated (history : List IdStep) : (generated history).Nodup := by
  induction history using List.reverseRecOn with
  | nil => exact List.nodup_nil
  | append_singleton earlier step inductionHypothesis =>
    rw [generated_concat]
    cases step with
    | generate kind =>
      have new : (generate kind).answer (ledgerBehind earlier) ∉ generated earlier :=
        fun member => answer_generate_not_mem earlier kind (mem_given_of_mem_generated member)
      exact List.nodup_append.mpr ⟨inductionHypothesis, List.nodup_singleton _,
        fun id member other single => by
          rintro rfl
          exact new (List.mem_singleton.mp single ▸ member)⟩
    | intern name => rwa [isGenerate, if_neg Bool.false_ne_true, List.append_nil]
    | ofValue value => rwa [isGenerate, if_neg Bool.false_ne_true, List.append_nil]
    | part id name => rwa [isGenerate, if_neg Bool.false_ne_true, List.append_nil]

theorem generation_nextFree {ledger : IdLedger} {kind : Kind}
    (fits : ledger.nextFree kind < UInt32.size) :
    Generation ledger kind (ledger.nextFree kind) where
  least := isLeast_nextFree ledger kind
  search found := by
    have least := isLeast_nextFree ledger kind
    have reached := WordSearch.of_passed least.1.1 fits
      (fun _ => mem_of_lt_firstFree) least.1.2
    exact ⟨fun other => other.unique reached, fun same => same ▸ reached⟩
  fits := UInt32.toNat_ofNat_of_lt' fits
  answer := answer_generate kind ledger
  after := after_generate kind ledger

/-- Over every history in which no counter of 32 bits overflows, ids are equal exactly when their
names are, and the ids that are generated are new and pairwise distinct. -/
theorem history_identifies {history : List IdStep}
    (fits : ∀ kind, (ledgerBehind history).next kind < UInt32.size) : Identifies history := by
  constructor
  case taken => exact fun name => mem_taken_ledgerBehind
  case once => exact nodup_taken_ledgerBehind history
  case kept =>
    rintro before behind rfl id given
    have present := mem_taken_ledgerBehind.mpr given
    obtain ⟨key, found⟩ := Option.isSome_iff_exists.mp (isSome_key?.mpr present)
    have later := key?_of_suffix (suffix_taken_ledgerBehind before behind) present
    exact ⟨key, found, later.trans found⟩
  case equal =>
    intro id other given _
    exact ⟨eq_of_key?_eq (mem_taken_ledgerBehind.mpr given), congrArg _⟩
  case generation =>
    rintro before kind behind rfl
    have counted := next_le_next_ledgerBehind (before ++ [generate kind]) behind kind
    rw [ledgerBehind_concat, after_generate, List.append_assoc, List.singleton_append] at counted
    dsimp only at counted
    rw [if_pos rfl] at counted
    exact ⟨_, generation_nextFree (Nat.lt_trans (Nat.lt_of_succ_le counted) (fits kind)),
      answer_generate_not_mem before kind⟩
  case distinct => exact nodup_generated history

/-- A history in which names that look generated are claimed before and between generated ones. -/
def claimedNames : List IdStep :=
  [intern "button_0", ofValue " button_1 ", ofValue "  ", generate .button, intern "button",
    part ⟨"button"⟩ "3", generate .button, generate .text, intern "button_2", generate .button]

theorem history_identifies_of_claimedNames :
    (∀ kind, (ledgerBehind claimedNames).next kind < UInt32.size) ∧ Identifies claimedNames ∧
      generated claimedNames =
        [some ⟨"button_2"⟩, some ⟨"button_4"⟩, some ⟨"text_0"⟩, some ⟨"button_5"⟩] := by
  have fits : ∀ kind, (ledgerBehind claimedNames).next kind < UInt32.size := by
    intro kind
    cases kind <;> decide
  exact ⟨fits, history_identifies fits, by decide⟩

end IdStep

end SceneMarkup
