import SceneMarkup.Proofs.Text.Rewriting

/-!
Contract: where a splitting cuts a text.

Owns:
- `Recogniser.Cuts`, what each stretch of a row says about the text from there on;
- the theorem that the stretches of a text are the only row of stretches that is cut so;
- `Recogniser.Local`, under which the text in front of a cut may be scanned without what is behind.

Does not own: any particular recogniser.
-/

namespace SceneMarkup.Text

/-- The text that a row of stretches stands for. -/
def sourcesOf {α : Type} (stretches : List (Stretch α)) : List Char :=
  stretches.flatMap Stretch.source

theorem sourcesOf_cons {α : Type} (here : Stretch α) (after : List (Stretch α)) :
    sourcesOf (here :: after) = here.source ++ sourcesOf after := rfl

theorem sourcesOf_append {α : Type} (before after : List (Stretch α)) :
    sourcesOf (before ++ after) = sourcesOf before ++ sourcesOf after :=
  List.flatMap_append

namespace Recogniser

variable {α : Type} (recogniser : Recogniser α)

/-- A row of stretches each of which is cut as it is found: an item is read where it stands, and a
plain stretch goes from a place at which no item begins up to the next item. -/
inductive Cuts : List (Stretch α) → Prop where
  | nil : Cuts []
  | item {value : α} {source : List Char} {after : List (Stretch α)}
      (read : recogniser.read (source ++ sourcesOf after) = some (value, sourcesOf after))
      (later : Cuts after) : Cuts (.item value source :: after)
  | plain {source : List Char} {after : List (Stretch α)} (nonempty : source ≠ [])
      (unread : recogniser.Unread (sourcesOf after) source)
      (stops : recogniser.Stops (sourcesOf after)) (later : Cuts after) :
      Cuts (.plain source :: after)

/-- The stretches of a text are cut as they are found. -/
theorem cuts_stretches (text : List Char) : recogniser.Cuts (recogniser.stretches text) := by
  have whole (text : List Char) : sourcesOf (recogniser.stretches text) = text :=
    recogniser.flatMap_source_stretches text
  induction text using recogniser.splitting_induction with
  | nil =>
    rw [stretches_nil]
    exact .nil
  | item text behind value read later =>
    rw [stretches_of_read recogniser read]
    refine .item ?_ later
    rwa [whole, readPart_append (recogniser.advances read).suffix]
  | plain plain behind nonempty unread stops later =>
    rw [stretches_plain recogniser nonempty unread stops]
    refine .plain nonempty ?_ ?_ later
    · rwa [whole]
    · rwa [whole]

/-- A row that is cut so is found in the text it stands for. -/
theorem stretches_of_cuts {row : List (Stretch α)} (cuts : recogniser.Cuts row) :
    recogniser.stretches (sourcesOf row) = row := by
  induction cuts with
  | nil => exact recogniser.stretches_nil
  | item read later inductionHypothesis =>
    rw [sourcesOf_cons, Stretch.source, stretches_of_read recogniser read, readPart_of_append,
      inductionHypothesis]
  | plain nonempty unread stops later inductionHypothesis =>
    rw [sourcesOf_cons, Stretch.source, stretches_plain recogniser nonempty unread stops,
      inductionHypothesis]

variable {recogniser}

theorem Cuts.behind {before after : List (Stretch α)} (cuts : recogniser.Cuts (before ++ after)) :
    recogniser.Cuts after := by
  induction before with
  | nil => exact cuts
  | cons here before inductionHypothesis =>
    cases cuts with
    | item _ later => exact inductionHypothesis later
    | plain _ _ _ later => exact inductionHypothesis later

/-- A plain stretch is followed by an item. -/
theorem Cuts.exists_item_of_plain {source : List Char} {next : Stretch α}
    {after : List (Stretch α)} (cuts : recogniser.Cuts (.plain source :: next :: after)) :
    ∃ value itemSource, next = .item value itemSource := by
  cases cuts with
  | plain _ _ stops later =>
    cases later with
    | @item value itemSource _ _ _ => exact ⟨value, itemSource, rfl⟩
    | @plain other _ nonempty unread _ _ =>
      -- The search stops at the second stretch, at whose first character no item begins.
      obtain ⟨character, rest, rfl⟩ := List.exists_cons_of_ne_nil nonempty
      have read := stops.resolve_left (List.cons_ne_nil character (rest ++ sourcesOf after))
      have absent : recogniser.read (character :: (rest ++ sourcesOf after)) = none := unread.1
      rw [sourcesOf_cons, Stretch.source, List.cons_append, absent] at read
      cases read

/-- Of a row that is cut so each stretch is rewritten for itself. -/
theorem rewrite_of_cuts (replace : α → List Char → List Char) {row : List (Stretch α)}
    (cuts : recogniser.Cuts row) :
    recogniser.rewrite replace (sourcesOf row) = row.flatMap (replacement replace) := by
  rw [rewrite, stretches_of_cuts recogniser cuts]

/-- No item begins anywhere inside plain text. -/
theorem read_of_unread {behind source : List Char} (unread : recogniser.Unread behind source)
    {rest : List Char} (inside : rest <:+ source) (nonempty : rest ≠ []) :
    recogniser.read (rest ++ behind) = none := by
  induction source with
  | nil => exact absurd (List.suffix_nil.mp inside) nonempty
  | cons character others inductionHypothesis =>
    rcases List.suffix_cons_iff.mp inside with rfl | later
    · exact unread.1
    · exact inductionHypothesis unread.2 later

/-! ### The text in front of a stretch -/

variable (recogniser) in
/-- Reading does not look beyond what is read: an item that ends inside a text is read there
whatever comes behind, and no item appears when the end of a text is left out. -/
structure Local : Prop where
  item : ∀ {text kept later : List Char} {value : α},
    recogniser.read (text ++ later) = some (value, kept ++ later) →
      recogniser.read text = some (value, kept)
  plain : ∀ {text whole : List Char}, text <+: whole → recogniser.read whole = none →
    recogniser.read text = none

theorem unread_of_append (bounded : recogniser.Local) {source behind later : List Char}
    (unread : recogniser.Unread (behind ++ later) source) : recogniser.Unread behind source := by
  induction source with
  | nil => exact trivial
  | cons character rest inductionHypothesis =>
    refine ⟨bounded.plain ?_ unread.1, inductionHypothesis unread.2⟩
    exact ⟨later, by simp⟩

/-- The stretches in front of any place are cut as if the text ended there. -/
theorem Cuts.front (bounded : recogniser.Local) {before after : List (Stretch α)}
    (cuts : recogniser.Cuts (before ++ after)) : recogniser.Cuts before := by
  induction before with
  | nil => exact .nil
  | cons here before inductionHypothesis =>
    rw [List.cons_append] at cuts
    cases cuts with
    | @item value source _ read later =>
      rw [sourcesOf_append, ← List.append_assoc] at read
      exact .item (bounded.item read) (inductionHypothesis later)
    | plain nonempty unread stops later =>
      have front := inductionHypothesis later
      refine .plain nonempty ?_ ?_ front
      · rw [sourcesOf_append] at unread
        exact unread_of_append bounded unread
      · cases before with
        | nil => exact Or.inl rfl
        | cons next before =>
          obtain ⟨value, source, rfl⟩ :=
            Cuts.exists_item_of_plain (.plain nonempty unread stops later)
          cases front with
          | item read _ => exact Or.inr (Option.isSome_of_eq_some read)

end Recogniser

end SceneMarkup.Text
