import SceneMarkup.Proofs.Markup.Construction
import SceneMarkup.Proofs.Markup.WrittenElement
import SceneMarkup.Proofs.Text.Trimming

/-!
Contract: well-formed documents of built-in elements have the trees they describe.

Owns:
- `Describes`, what a written element says about a tree of nodes;
- the theorem that every well-formed document is parsed, and into a tree that it describes.

Does not own: what attributes do to nodes, and documents that are not well-formed.
-/

namespace SceneMarkup.Markup

open SceneMarkup.Text

/-! ### Statement -/

mutual
/-- A tree has the shape of an element: its node has the kind of the tag, its children are those of
the elements inside, and the node of a text element around a visible run has that run, without the
blanks around it, as its text. -/
def WrittenElement.Describes : WrittenElement → NodeTree → Prop
  | .void tag, .mk node children => Kind.ofTag? tag.name = some node.kind ∧ children = []
  | .verbatim tag _ run _, .mk node children =>
    Kind.ofTag? tag.name = some node.kind ∧ children = [] ∧
      (allBlank run.text = false → node.text = String.ofList (trim run.text))
  | .paired tag content _, .mk node children =>
    Kind.ofTag? tag.name = some node.kind ∧ content.Describes children

/-- Trees side by side are those of the elements in content, in the same order. -/
def WrittenContent.Describes {onlyBlanks : Bool} :
    WrittenContent onlyBlanks → List NodeTree → Prop
  | .last _, trees => trees = []
  | .next _ element rest, trees =>
    ∃ tree others, trees = tree :: others ∧ element.Describes tree ∧ rest.Describes others
end

/-! ### Text of elements -/

/-- An element begins with the `<` of its tag, which begins no comment. -/
theorem exists_cons_of_element (element : WrittenElement) (behind : List Char) :
    ∃ character rest, character ≠ '!' ∧ element.text ++ behind = '<' :: character :: rest := by
  obtain ⟨tag, selfClosing, rest, begins⟩ := exists_text_of_element element behind
  obtain ⟨first, others, _, notComment, _, name⟩ := exists_cons_of_builtIn tag.builtIn
    (tag.body ++ WrittenTag.ending selfClosing ++ rest)
  refine ⟨first, others, notComment, ?_⟩
  rw [begins, ← name]
  simp [WrittenTag.text]

theorem contentText_run {onlyBlanks : Bool} (run : PlainRun onlyBlanks) (start : Nat) :
    contentText (run.pieces start) = trim run.text := by
  have plain := withoutComments_append run.untagged run.unbraced []
  rw [List.append_nil, withoutComments, List.append_nil] at plain
  rw [contentText, sourceOf_run, plain]

theorem isVerbatim_run {onlyBlanks : Bool} (run : PlainRun onlyBlanks) (start : Nat) :
    isVerbatim .text (contentText (run.pieces start)) = true := by
  have untagged : (trim run.text).head? ≠ some '<' := by
    intro begins
    exact run.untagged (mem_of_mem_trim (List.mem_of_head? begins))
  rw [contentText_run, isVerbatim]
  simpa using untagged

/-- Of the content with elements, none is verbatim text: in a text element it begins with a tag. -/
theorem exists_of_isVerbatim {onlyBlanks : Bool} {content : WrittenContent onlyBlanks} {kind : Kind}
    (fits : kind = .text → onlyBlanks = true) {start : Nat}
    (verbatim : isVerbatim kind (contentText (content.pieces start)) = true) :
    ∃ run : PlainRun onlyBlanks, content = .last run ∧ allBlank run.text = true := by
  obtain ⟨isText, untagged⟩ := Bool.and_eq_true_iff.mp verbatim
  have onlyBlank := fits (beq_iff_eq.mp isText)
  cases content with
  | last run => exact ⟨run, rfl, run.blank onlyBlank⟩
  | next run element rest =>
    obtain ⟨character, others, notComment, begins⟩ := exists_cons_of_element element rest.text
    rw [contentText, sourceOf_content, WrittenContent.text, begins,
      withoutComments_append run.untagged run.unbraced,
      withoutComments_cons (commentForm_of_tag notComment _),
      trim_append_of_allBlank (run.blank onlyBlank), trim_cons (by decide)] at untagged
    simp at untagged

/-! ### Trees -/

mutual
/-- An element is built into a tree that it describes. -/
theorem describes_buildElement (element : WrittenElement) (start : Nat) (ledger : IdLedger) :
    ∃ tree later, (buildElement .empty (element.outline start)).outcome ledger = (.ok tree, later) ∧
      element.Describes tree := by
  match element with
  | .void tag =>
    have known := tagKind?_of_builtIn (tag.tag true) tag.builtIn
    obtain ⟨node, later, resolved, kind⟩ := outcome_resolveTag_of_known known start ledger
    refine ⟨.leaf node, later, ?_, kind ▸ tag.builtIn, rfl⟩
    rw [WrittenElement.outline, buildElement, BuildM.outcome_bind_ok _ resolved]
    rfl
  | .verbatim tag isText run _ =>
    have known := tagKind?_of_builtIn (tag.tag false) tag.builtIn
    obtain ⟨node, later, resolved, kind⟩ := outcome_resolveTag_of_known known start ledger
    have verbatim : isVerbatim (NodeTree.leaf node).node.kind
        (contentText (run.pieces (tag.stop start))) = true := by
      rw [show (NodeTree.leaf node).node.kind = .text from kind.trans isText]
      exact isVerbatim_run run _
    refine ⟨withVerbatimText (.leaf node) (trim run.text), later, ?_, ?_⟩
    · rw [WrittenElement.outline, buildElement, BuildM.outcome_bind_ok _ resolved]
      dsimp only
      rw [if_pos verbatim, contentText_run, BuildM.outcome_pure]
    · unfold withVerbatimText
      split
      · rename_i blank
        refine ⟨kind ▸ tag.builtIn, rfl, fun visible => ?_⟩
        rw [trim_eq_nil_iff.mp blank] at visible
        cases visible
      · exact ⟨kind ▸ tag.builtIn, rfl, fun _ => rfl⟩
  | .paired tag content _ =>
    have known := tagKind?_of_builtIn (tag.tag false) tag.builtIn
    obtain ⟨node, later, resolved, kind⟩ := outcome_resolveTag_of_known known start ledger
    rw [WrittenElement.outline, buildElement, BuildM.outcome_bind_ok _ resolved]
    dsimp only
    -- Content that consists of blanks alone is verbatim text in a text element, and leaves no text.
    by_cases verbatim : isVerbatim (NodeTree.leaf node).node.kind
        (contentText (content.pieces (tag.stop start))) = true
    · have fits : (NodeTree.leaf node).node.kind = .text → (tag.kind == .text) = true := by
        intro isText
        rw [← kind]
        exact beq_iff_eq.mpr isText
      obtain ⟨run, rfl, blank⟩ := exists_of_isVerbatim fits verbatim
      have nothing : contentText ((WrittenContent.last run).pieces (tag.stop start)) = [] :=
        (contentText_run run _).trans (trim_eq_nil_iff.mpr blank)
      rw [if_pos verbatim, nothing, BuildM.outcome_pure]
      exact ⟨.leaf node, later, rfl, kind ▸ tag.builtIn, rfl⟩
    · obtain ⟨trees, last, built, described⟩ :=
        describes_buildElements content (tag.stop start) later
      rw [if_neg verbatim, BuildM.outcome_bind_ok _ built, BuildM.outcome_pure]
      exact ⟨_, last, rfl, kind ▸ tag.builtIn, described⟩

theorem describes_buildElements {onlyBlanks : Bool} (content : WrittenContent onlyBlanks)
    (start : Nat) (ledger : IdLedger) :
    ∃ trees later, (buildElements .empty (content.outlines start)).outcome ledger =
      (.ok trees, later) ∧ content.Describes trees := by
  match content with
  | .last run => exact ⟨[], ledger, by rw [WrittenContent.outlines, buildElements]; rfl, rfl⟩
  | .next run element rest =>
    obtain ⟨tree, middle, built, described⟩ :=
      describes_buildElement element (start + byteCount run.text) ledger
    obtain ⟨trees, later, builtRest, describedRest⟩ :=
      describes_buildElements rest (start + byteCount run.text + byteCount element.text) middle
    refine ⟨tree :: trees, later, ?_, tree, trees, rfl, described, describedRest⟩
    rw [WrittenContent.outlines, buildElements, BuildM.outcome_bind_ok _ built,
      BuildM.outcome_bind_ok _ builtRest]
    rfl
end

/-! ### Documents -/

theorem exists_cons_of_pieces (element : WrittenElement) (start : Nat) :
    ∃ tag selfClosing rest,
      element.pieces start = WrittenTag.piece tag selfClosing start :: rest := by
  cases element with
  | void tag => exact ⟨tag, true, _, rfl⟩
  | verbatim tag isText run close => exact ⟨tag, false, _, rfl⟩
  | paired tag content close => exact ⟨tag, false, _, rfl⟩

/-- Blanks in front of the root element are passed over. -/
theorem rootElement?_element (before : PlainRun true) (element : WrittenElement)
    (start middle : Nat) (behind : List Piece) :
    rootElement? (before.pieces start ++ (element.pieces middle ++ behind)) =
      some (element.outline middle) := by
  have passed : ∀ piece ∈ before.pieces start,
      (piece.mark == .comment || piece.isBlankText) = true := by
    unfold PlainRun.pieces
    split
    · exact fun piece member => absurd member List.not_mem_nil
    · intro piece member
      rw [List.mem_singleton.mp member]
      simpa [Piece.isBlankText] using before.blank rfl
  obtain ⟨tag, selfClosing, rest, begins⟩ := exists_cons_of_pieces element middle
  have outline := elements_element element middle behind
  rw [begins, List.cons_append] at outline
  rw [begins, List.cons_append, rootElement?, List.dropWhile_append_of_pos passed,
    List.dropWhile_cons_of_neg (by simp [WrittenTag.piece, Piece.isBlankText])]
  dsimp only [WrittenTag.piece] at outline ⊢
  rw [outline, List.head?_cons]

/-- A well-formed document, with blanks around its root element, is parsed into a tree that it
describes. -/
theorem parseTree_of_written (before after : PlainRun true) (root : WrittenElement)
    (ledger : IdLedger) :
    ∃ tree later,
      (parseTree .empty (String.ofList (before.text ++ (root.text ++ after.text)))).outcome ledger =
        (.ok tree, later) ∧ root.Describes tree := by
  have behind : piecesAt .strict (0 + byteCount before.text + byteCount root.text) after.text =
      after.pieces (0 + byteCount before.text + byteCount root.text) := by
    simpa using @piecesAt_run .strict _ after [] (Or.inl rfl)
      (0 + byteCount before.text + byteCount root.text)
  have scanned : pieces .strict (before.text ++ (root.text ++ after.text)) =
      before.pieces 0 ++ (root.pieces (0 + byteCount before.text) ++
        after.pieces (0 + byteCount before.text + byteCount root.text)) := by
    show piecesAt .strict 0 _ = _
    rw [piecesAt_run before (stops_element root _), piecesAt_element, behind]
  have accepted := strictPieces_eq_ok_iff.mpr ⟨scanned.symm, fun piece member => by
    rcases List.mem_append.mp member with member | member
    · exact ended_run before _ piece member
    rcases List.mem_append.mp member with member | member
    · exact ended_element root _ piece member
    · exact ended_run after _ piece member⟩
  rw [parseTree, String.toList_ofList, accepted]
  dsimp only
  rw [rootElement?_element]
  exact describes_buildElement root _ ledger

end SceneMarkup.Markup
