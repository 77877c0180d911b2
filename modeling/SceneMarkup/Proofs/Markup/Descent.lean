import SceneMarkup.Proofs.Markup.Recovery

/-!
Contract: the elements of a document, read by a descent over the indices of its tokens.

Owns:
- `DescentM`, computations that note what they do and that a missing token, a position inside a
  character or a lack of rounds breaks;
- the readers of one element, of the elements in a range of tokens and of a whole document;
- `Follows`, under which a descent does what a building computation does and nothing breaks it.

Does not own: the ranges within which a descent stays.
-/

namespace SceneMarkup.Markup

open SceneMarkup.Text

/-! ### Computations -/

/-- What can break a descent: a token or a part of the source that is not there, and more rounds
than it may take. -/
inductive Fault where
  | missingToken (index : Nat)
  | missingPart (span : Span)
  | noRoundLeft
deriving DecidableEq, Repr

/-- Why a descent gives no value. -/
inductive Stop where
  | refused (cause : ParseError)
  | broken (fault : Fault)
deriving DecidableEq, Repr

/-- What a descent notes: a reading of the element at an index, whose closing tag is looked for
before a limit, within the reading of another element; and a part cut out of the source. -/
inductive Event where
  | element (start limit : Nat)
  | cut (span : Span)
deriving DecidableEq, Repr

structure DescentState where
  ledger : IdLedger
  events : List Event

abbrev DescentM := ExceptT Stop (StateM DescentState)

namespace DescentM

variable {α : Type}

/-- What a descent gives when it starts from a state, and the state it leaves. -/
def outcome (descent : DescentM α) (state : DescentState) : Except Stop α × DescentState :=
  StateT.run (ExceptT.run descent) state

def note (event : Event) : DescentM Unit :=
  modify fun state => { state with events := state.events ++ [event] }

/-- A building computation as a part of a descent. -/
def ofBuild (building : BuildM α) : DescentM α :=
  ExceptT.mk fun state =>
    ((building.outcome state.ledger).1.mapError .refused,
      { state with ledger := (building.outcome state.ledger).2 })

def tokenAt (tokens : List Piece) (index : Nat) : DescentM Piece :=
  match tokens[index]? with
  | some token => return token
  | none => throw (.broken (.missingToken index))

/-- The part of the source at a span. -/
def cut (source : List Char) (span : Span) : DescentM (List Char) := do
  note (.cut span)
  match slice? source span with
  | some part => return part
  | none => throw (.broken (.missingPart span))

end DescentM

/-! ### Readers -/

section Readers

open DescentM

variable (registry : ComponentRegistry) (source : List Char) (tokens : List Piece)

/-- One step through a range of tokens: from the token at index `first` to the one at index `next`,
over a single token or, where there is a child, over those of one element. -/
structure Visit where
  first : Nat
  next : Nat
  child : Option NodeTree

/-- A reader of the elements from one index on before another. -/
abbrev RangeReader := (first limit : Nat) → DescentM (List Visit)

/-- The tree of an element with its content, which ends in front of the token at index `close`. -/
def contentTree (inside : RangeReader) (tree : NodeTree) (start close : Nat) (opening : Piece) :
    DescentM NodeTree := do
  let closing ← tokenAt tokens close
  let text := trim (withoutComments (← cut source ⟨opening.span.stop, closing.span.start⟩))
  if isVerbatim tree.node.kind text then return withVerbatimText tree text
  else
    let visits ← inside (start + 1) close
    return .mk tree.node (tree.children ++ visits.filterMap Visit.child)

/-- The tree of the element that the token at index `start` opens, and the index behind the element.
Its closing tag is looked for before `limit`. -/
def elementAt (inside : RangeReader) (start limit : Nat) : DescentM (NodeTree × Nat) := do
  let opening ← tokenAt tokens start
  match opening.mark with
  | .opening tag =>
    let tree ← ofBuild (resolveTag registry tag opening.start)
    match closingPlace? tokens start tag limit with
    | none => return (tree, start + 1)
    | some close => return (← contentTree source tokens inside tree start close opening, close + 1)
  | _ => throw (.refused .noRootElement)

/-- Whether a token is a text of blanks, for which its text is looked at. -/
def isBlankAt (token : Piece) : DescentM Bool :=
  if token.mark = .text then return allBlank (← cut source token.span) else return false

/-- The steps through the tokens from index `first` on before `limit`, in at most `rounds`
rounds. -/
def childrenAt : (rounds : Nat) → RangeReader
  | 0, _, _ => throw (.broken .noRoundLeft)
  | rounds + 1, first, limit =>
    if first < limit then do
      let token ← tokenAt tokens first
      match token.mark with
      | .opening _ =>
        note (.element first limit)
        let (child, next) ← elementAt registry source tokens (childrenAt rounds) first limit
        return ⟨first, next, some child⟩ :: (← childrenAt rounds next limit)
      | _ =>
        let _ ← isBlankAt source token
        return ⟨first, first + 1, none⟩ :: (← childrenAt rounds (first + 1) limit)
    else return []

/-- The index of the first token of a row that is not a text of blanks. The row begins at an
index. -/
def firstVisible : (index : Nat) → List Piece → DescentM (Option Nat)
  | _, [] => return none
  | index, token :: rest => do
    if ← isBlankAt source token then firstVisible (index + 1) rest else return some index

end Readers

/-- The tree of a document, by a descent from its root. What follows the root element is looked at
and passed over. -/
def documentAt (registry : ComponentRegistry) (source : String) : DescentM NodeTree := do
  match tokenize source with
  | .error tag => throw (.refused (.ofUnterminated tag))
  | .ok tokens =>
    match ← firstVisible source.toList 0 tokens with
    | none => throw (.refused .noRootElement)
    | some root =>
      let (tree, next) ← elementAt registry source.toList tokens
        (childrenAt registry source.toList tokens tokens.length) root tokens.length
      if next ≤ tokens.length then
        let _ ← firstVisible source.toList next (tokens.drop next)
        return tree
      else throw (.broken (.missingToken next))

/-! ### Descents that follow a building computation -/

/-- An end of a descent beside the end of a building computation: a good value whose view is the
other value, or the same refusal. -/
inductive EndsAs {α β : Type} (view : α → β) (good : α → Prop) :
    Except Stop α → Except ParseError β → Prop where
  | given {value : α} (holds : good value) : EndsAs view good (.ok value) (.ok (view value))
  | refused (cause : ParseError) : EndsAs view good (.error (.refused cause)) (.error cause)

/-- A descent does what a building computation does: whatever the ledger, it ends as that one does,
leaves the same ledger and notes only fine events. -/
def Follows {α β : Type} (fine : Event → Prop) (view : α → β) (good : α → Prop)
    (descent : DescentM α) (building : BuildM β) : Prop :=
  ∀ ledger events, ∃ noted, (∀ event ∈ noted, fine event) ∧
    EndsAs view good (descent.outcome ⟨ledger, events⟩).1 (building.outcome ledger).1 ∧
    (descent.outcome ⟨ledger, events⟩).2 = ⟨(building.outcome ledger).2, events ++ noted⟩

section Follows

variable {α β γ δ : Type} {fine wider : Event → Prop} {view : α → β} {good : α → Prop}
  {descent : DescentM α} {building : BuildM β}

theorem follows_pure (view : α → β) {value : α} (holds : good value) :
    Follows fine view good (pure value) (pure (view value)) :=
  fun ledger events => ⟨[], by simp, .given holds, by rw [List.append_nil]; rfl⟩

theorem follows_throw (cause : ParseError) :
    Follows fine view good (throw (.refused cause)) (throw cause) :=
  fun ledger events => ⟨[], by simp, .refused cause, by rw [List.append_nil]; rfl⟩

theorem follows_ofBuild (building : BuildM α) :
    Follows fine id (fun _ => True) (DescentM.ofBuild building) building := by
  intro ledger events
  refine ⟨[], by simp, ?_, by rw [List.append_nil]; rfl⟩
  show EndsAs id (fun _ => True) ((building.outcome ledger).1.mapError .refused)
    (building.outcome ledger).1
  cases (building.outcome ledger).1 with
  | ok value => exact .given trivial
  | error cause => exact .refused cause

/-- A part of the source that is there is cut out of it. -/
theorem follows_cut {source part : List Char} {span : Span}
    (sliced : slice? source span = some part) (allowed : fine (.cut span)) :
    Follows fine (fun _ => ()) (· = part) (DescentM.cut source span) (pure ()) := by
  intro ledger events
  have given : (DescentM.cut source span).outcome ⟨ledger, events⟩ =
      (.ok part, ⟨ledger, events ++ [.cut span]⟩) := by
    rw [DescentM.cut, sliced]
    rfl
  rw [given]
  exact ⟨[.cut span], by simpa using allowed, @EndsAs.given _ _ (fun _ => ()) _ _ rfl, rfl⟩

theorem follows_note {event : Event} (allowed : fine event) :
    Follows fine id (fun _ => True) (DescentM.note event) (pure ()) :=
  fun _ _ => ⟨[event], by simpa using allowed, @EndsAs.given _ _ id _ _ trivial, rfl⟩

theorem follows_tokenAt {tokens : List Piece} {index : Nat} {token : Piece}
    (present : tokens[index]? = some token) :
    Follows fine (fun _ => ()) (· = token) (DescentM.tokenAt tokens index) (pure ()) := by
  rw [DescentM.tokenAt, present]
  exact follows_pure (fun _ => ()) rfl

/-- Two descents in a row follow two building computations in a row. -/
theorem Follows.bind (first : Follows fine view good descent building) {nextView : γ → δ}
    {nextGood : γ → Prop} {next : α → DescentM γ} {nextBuilding : β → BuildM δ}
    (goesOn : ∀ value, good value →
      Follows fine nextView nextGood (next value) (nextBuilding (view value))) :
    Follows fine nextView nextGood (descent >>= next) (building >>= nextBuilding) := by
  intro ledger events
  obtain ⟨noted, allowed, ends, left⟩ := first ledger events
  have run : (descent >>= next).outcome ⟨ledger, events⟩ =
      match descent.outcome ⟨ledger, events⟩ with
      | (.ok value, state) => (next value).outcome state
      | (.error stop, state) => (.error stop, state) := by
    unfold DescentM.outcome
    simp only [ExceptT.run_bind, StateT.run_bind]
    cases StateT.run (ExceptT.run descent) ⟨ledger, events⟩ with
    | mk result state => cases result <;> rfl
  rw [run]
  cases descended : descent.outcome ⟨ledger, events⟩ with
  | mk result state =>
    cases built : building.outcome ledger with
    | mk other middle =>
      rw [descended, built] at ends
      rw [descended, built] at left
      dsimp only at left
      subst left
      cases ends with
      | given holds =>
        rw [BuildM.outcome_bind_ok nextBuilding built]
        obtain ⟨later, allowedLater, endsLater, leftLater⟩ :=
          goesOn _ holds middle (events ++ noted)
        refine ⟨noted ++ later, ?_, endsLater, ?_⟩
        · exact List.forall_mem_append.mpr ⟨allowed, allowedLater⟩
        · rw [← List.append_assoc]
          exact leftLater
      | refused cause =>
        rw [BuildM.outcome_bind_error nextBuilding built]
        exact ⟨noted, allowed, .refused cause, rfl⟩

/-- A descent that builds nothing comes in front of one that does. -/
theorem Follows.silently {silent : DescentM α} {aside : α → Unit}
    (first : Follows fine aside good silent (pure ())) {nextView : γ → δ} {nextGood : γ → Prop}
    {next : α → DescentM γ} {nextBuilding : BuildM δ}
    (goesOn : ∀ value, good value → Follows fine nextView nextGood (next value) nextBuilding) :
    Follows fine nextView nextGood (silent >>= next) nextBuilding := by
  have whole : Follows fine nextView nextGood (silent >>= next)
      (pure () >>= fun _ => nextBuilding) := first.bind goesOn
  rwa [pure_bind] at whole

/-- A descent that builds nothing comes behind one that does. -/
theorem Follows.andThen (follows : Follows fine view good descent building) {nextView : γ → β}
    {nextGood : γ → Prop} {next : α → DescentM γ}
    (goesOn : ∀ value, good value →
      Follows fine nextView nextGood (next value) (pure (view value))) :
    Follows fine nextView nextGood (descent >>= next) building := by
  have whole : Follows fine nextView nextGood (descent >>= next) (building >>= pure) :=
    follows.bind goesOn
  rwa [bind_pure] at whole

/-- A descent may give its value in another form, as long as the view stays. -/
theorem Follows.returning (follows : Follows fine view good descent building) {form : α → γ}
    {nextView : γ → β} {nextGood : γ → Prop} (kept : ∀ value, nextView (form value) = view value)
    (holds : ∀ value, good value → nextGood (form value)) :
    Follows fine nextView nextGood (descent >>= fun value => pure (form value)) building :=
  follows.andThen fun value fineValue => by
    rw [← kept value]
    exact follows_pure nextView (holds value fineValue)

theorem Follows.mono (follows : Follows fine view good descent building) {weaker : α → Prop}
    (allowed : ∀ event, fine event → wider event) (implied : ∀ value, good value → weaker value) :
    Follows wider view weaker descent building := by
  intro ledger events
  obtain ⟨noted, fineNoted, ends, left⟩ := follows ledger events
  refine ⟨noted, fun event member => allowed event (fineNoted event member), ?_, left⟩
  generalize (descent.outcome ⟨ledger, events⟩).1 = result, (building.outcome ledger).1 = other
    at ends
  cases ends with
  | given holds => exact .given (implied _ holds)
  | refused cause => exact .refused cause

/-- A good value is one that the descent gives from some state. -/
theorem Follows.attained (follows : Follows fine view good descent building) :
    Follows fine view (fun value => good value ∧
      ∃ before after, descent.outcome before = (.ok value, after)) descent building := by
  intro ledger events
  obtain ⟨noted, fineNoted, ends, left⟩ := follows ledger events
  refine ⟨noted, fineNoted, ?_, left⟩
  cases descended : descent.outcome ⟨ledger, events⟩ with
  | mk result state =>
    rw [descended] at ends
    dsimp only at ends ⊢
    generalize (building.outcome ledger).1 = other at ends
    cases ends with
    | given holds => exact .given ⟨holds, _, _, descended⟩
    | refused cause => exact .refused cause

end Follows

end SceneMarkup.Markup
