import SceneMarkup.Markup.Piece

/-!
Contract: parts of a source between byte positions.

Owns:
- `slice?`, which has a value exactly for ordered positions between characters inside the source;
- the parts of a source that a slice lies between.

Does not own: the positions of tokens.
-/

namespace SceneMarkup.Markup

theorem length_le_byteCount (text : List Char) : text.length ≤ byteCount text := by
  induction text with
  | nil => exact Nat.le_refl _
  | cons character rest inductionHypothesis =>
    have positive := character.utf8Size_pos
    rw [List.length_cons, byteCount_cons]
    omega

theorem byteCount_pos {text : List Char} (nonempty : text ≠ []) : 0 < byteCount text :=
  Nat.lt_of_lt_of_le (List.length_pos_iff.mpr nonempty) (length_le_byteCount text)

/-- The first `count` bytes of a text and the text behind them. There are none when the position
lies inside a character or behind the end of the text. -/
def splitBytes? : (count : Nat) → List Char → Option (List Char × List Char)
  | 0, text => some ([], text)
  | _ + 1, [] => none
  | count + 1, character :: rest =>
    if character.utf8Size ≤ count + 1 then
      (splitBytes? (count + 1 - character.utf8Size) rest).map fun (before, behind) =>
        (character :: before, behind)
    else none

/-- The characters at the byte positions of a span. -/
def slice? (source : List Char) (span : Span) : Option (List Char) :=
  if span.start ≤ span.stop then do
    let (_, behind) ← splitBytes? span.start source
    let (part, _) ← splitBytes? (span.stop - span.start) behind
    return part
  else none

/-- A position splits a text exactly when it lies between two parts of the text. -/
theorem splitBytes?_eq_some_iff {count : Nat} {text before behind : List Char} :
    splitBytes? count text = some (before, behind) ↔
      text = before ++ behind ∧ count = byteCount before := by
  constructor
  · intro split
    fun_induction splitBytes? count text generalizing before with
    | case1 =>
      cases split
      exact ⟨rfl, rfl⟩
    | case2 => cases split
    | case3 count character rest fits inductionHypothesis =>
      obtain ⟨⟨front, back⟩, found, same⟩ := Option.map_eq_some_iff.mp split
      cases same
      obtain ⟨rfl, left⟩ := inductionHypothesis found
      exact ⟨rfl, by rw [byteCount_cons]; omega⟩
    | case4 => cases split
  · rintro ⟨rfl, rfl⟩
    induction before with
    | nil => rw [byteCount_nil, splitBytes?, List.nil_append]
    | cons character rest inductionHypothesis =>
      have positive := character.utf8Size_pos
      obtain ⟨count, same⟩ : ∃ count, byteCount (character :: rest) = count + 1 :=
        ⟨byteCount (character :: rest) - 1, by rw [byteCount_cons]; omega⟩
      have left : count + 1 - character.utf8Size = byteCount rest := by
        rw [← same, byteCount_cons, Nat.add_sub_cancel_left]
      have fits : character.utf8Size ≤ count + 1 := by
        rw [← same, byteCount_cons]
        exact Nat.le_add_right _ _
      rw [same, List.cons_append, splitBytes?, if_pos fits, left, inductionHypothesis]
      rfl

/-- A slice is the part of the source between what precedes it and what follows it. -/
theorem slice?_eq_some_iff {source part : List Char} {span : Span} :
    slice? source span = some part ↔ ∃ before behind, source = before ++ (part ++ behind) ∧
      span = ⟨byteCount before, byteCount before + byteCount part⟩ := by
  unfold slice?
  constructor
  · intro sliced
    split at sliced
    · rename_i forward
      obtain ⟨⟨before, rest⟩, first, sliced⟩ := Option.bind_eq_some_iff.mp sliced
      obtain ⟨⟨inside, behind⟩, second, same⟩ := Option.bind_eq_some_iff.mp sliced
      cases same
      obtain ⟨rfl, start⟩ := splitBytes?_eq_some_iff.mp first
      obtain ⟨rfl, length⟩ := splitBytes?_eq_some_iff.mp second
      refine ⟨before, behind, rfl, ?_⟩
      rw [← start, ← length, Nat.add_sub_cancel' forward]
    · cases sliced
  · rintro ⟨before, behind, rfl, rfl⟩
    rw [if_pos (Nat.le_add_right _ _), Nat.add_sub_cancel_left,
      splitBytes?_eq_some_iff.mpr ⟨rfl, rfl⟩]
    show (splitBytes? (byteCount part) (part ++ behind)).bind _ = _
    rw [splitBytes?_eq_some_iff.mpr ⟨rfl, rfl⟩]
    rfl

theorem slice?_append (before middle behind : List Char) :
    slice? (before ++ (middle ++ behind))
      ⟨byteCount before, byteCount before + byteCount middle⟩ = some middle :=
  slice?_eq_some_iff.mpr ⟨before, behind, rfl, rfl⟩

/-- What stands in front of a slice, from a position on, and where the slice ends. -/
theorem slice?_in_front {source front pending text behind : List Char} {span : Span}
    (whole : source = front ++ (pending ++ (text ++ behind)))
    (here : span.start = byteCount (front ++ pending)) (sliced : slice? source span = some text) :
    slice? source ⟨byteCount front, span.start⟩ = some pending ∧
      span.stop = byteCount (front ++ pending ++ text) := by
  constructor
  · rw [here, whole, byteCount_append]
    exact slice?_append front pending (text ++ behind)
  · obtain ⟨before, after, _, rfl⟩ := slice?_eq_some_iff.mp sliced
    rw [byteCount_append, ← here]

theorem utf8ByteSize_ofList (text : List Char) :
    (String.ofList text).utf8ByteSize = byteCount text := by
  induction text with
  | nil => rfl
  | cons character rest inductionHypothesis =>
    rw [← List.singleton_append, String.ofList_append, String.utf8ByteSize_append,
      inductionHypothesis, ← String.singleton_eq_ofList, String.utf8ByteSize_singleton]
    rfl

theorem isValid_byteCount (before behind : List Char) :
    (⟨byteCount before⟩ : String.Pos.Raw).IsValid (String.ofList (before ++ behind)) := by
  have here : (String.ofList before).rawEndPos = ⟨byteCount before⟩ :=
    congrArg String.Pos.Raw.mk (utf8ByteSize_ofList before)
  rw [String.ofList_append, ← here]
  exact String.Pos.Raw.isValid_rawEndPos.append_right _

/-- A slice begins and ends at boundaries between the characters of its source. -/
theorem isValid_of_slice? {source part : List Char} {span : Span}
    (sliced : slice? source span = some part) :
    (⟨span.start⟩ : String.Pos.Raw).IsValid (String.ofList source) ∧
      (⟨span.stop⟩ : String.Pos.Raw).IsValid (String.ofList source) := by
  obtain ⟨before, behind, rfl, rfl⟩ := slice?_eq_some_iff.mp sliced
  refine ⟨isValid_byteCount _ _, ?_⟩
  have stop := isValid_byteCount (before ++ part) behind
  rwa [byteCount_append, List.append_assoc] at stop

end SceneMarkup.Markup
