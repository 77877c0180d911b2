import SceneMarkup.Proofs.Document.Ids
import SceneMarkup.Proofs.Markup.Locality
import SceneMarkup.Proofs.Markup.Recovery
import SceneMarkup.Proofs.Markup.Scanned

/-!
Contract: the text that elements show, against the text tokens between their tags.

Owns:
- the comments that share characters between opener and terminator;
- `keptText`, what is left of the pieces between two tags when comments are dropped;
- the elements of a document that get nodes, each beside its node;
- the theorem about the text of every closed text element.

Does not own: text elements around other elements.
-/

namespace SceneMarkup.Markup

open SceneMarkup.Text

/-! ### Statement -/

/-- The comments whose terminator shares characters with their opener, with their forms. -/
def sharingComments : List (List Char × CommentForm) :=
  [("<!-->".toList, .angled), ("<!--->".toList, .angled), ("\x7b/*/\x7d".toList, .braced)]

/-- The text of pieces between two tags. Comments are dropped; behind one whose characters are
shared, everything up to another terminator is dropped as well. -/
def keptText : List Piece → List Char
  | [] => []
  | piece :: rest =>
    if piece.mark = .comment then
      match sharingComments.lookup piece.source with
      | some form => withoutComments (form.behindTerminator (sourceOf rest))
      | none => keptText rest
    else piece.source ++ keptText rest

/-- Pieces among which there are no tags. -/
def Tagless (content : List Piece) : Prop :=
  ∀ piece ∈ content, piece.mark = .text ∨ piece.mark = .comment

mutual
/-- The elements that get nodes, an element before those inside it; verbatim text has none. -/
def Element.shown : Element → List Element
  | .mk tag start content children => .mk tag start content children ::
    match content with
    | none => []
    | some pieces => if isVerbatimContent tag (sourceOf pieces) then [] else shownAll children

def shownAll : List Element → List Element
  | [] => []
  | element :: rest => element.shown ++ shownAll rest
end

/-- A node with another text; the empty text leaves its own. -/
def withText (text : List Char) (node : Node) : Node :=
  if text = [] then node else { node with text := String.ofList text }

/-- The node that a text tag makes of its attributes, with another text. -/
def ShowsText (tag : OpeningTag) (text : List Char) (node : Node) : Prop :=
  ∃ ledger, node = withText text (Node.made .text .argb tag.attributes ledger).1

/-- A text element without tags inside shows exactly its text tokens, unless one of its comments
shares characters; and in any case what is left of its content. -/
def TextAgrees (element : Element) (node : Node) : Prop :=
  ∀ content, tagKind? element.tag = some .text → element.content = some content →
    Tagless content →
    ((trim (keptText content)).head? ≠ some '<' →
      ShowsText element.tag (trim (keptText content)) node) ∧
    ((∀ piece ∈ content, sharingComments.lookup piece.source = none) →
      keptText content = sourceOf (tokensOf content))

/-! ### Comments -/

/-- A comment that shares no characters is its inner text between opener and terminator. -/
theorem exists_inner_of_comment {form : CommentForm} {comment : List Char}
    (known : form ∈ [CommentForm.angled, CommentForm.braced])
    (opened : form.opener <+: comment) (ended : form.terminator <:+ comment)
    (first : ¬ form.terminator <:+: comment.dropLast)
    (unshared : sharingComments.lookup comment = none) :
    ∃ inner, comment = form.opener ++ (inner ++ form.terminator) ∧
      ¬ form.terminator <:+: inner ++ form.terminator.dropLast := by
  obtain ⟨tail, rfl⟩ := opened
  have inside : form.terminator <:+ tail := by
    simp only [List.mem_cons, List.not_mem_nil, or_false] at known
    match tail with
    | [] => rcases known with rfl | rfl <;> revert ended <;> decide
    | [one] =>
      rcases known with rfl | rfl
      · have same : '>' = one := by
          simpa [CommentForm.angled, List.suffix_iff_eq_drop] using ended
        subst same
        revert unshared
        decide
      · simp [CommentForm.braced, List.suffix_iff_eq_drop] at ended
    | [one, two] =>
      rcases known with rfl | rfl
      · have same : '-' = one ∧ '>' = two := by
          simpa [CommentForm.angled, List.suffix_iff_eq_drop] using ended
        obtain ⟨rfl, rfl⟩ := same
        revert unshared
        decide
      · have same : '/' = one ∧ '\x7d' = two := by
          simpa [CommentForm.braced, List.suffix_iff_eq_drop] using ended
        obtain ⟨rfl, rfl⟩ := same
        revert unshared
        decide
    | one :: two :: three :: others =>
      refine List.suffix_of_suffix_length_le ended (List.suffix_append _ _) ?_
      rcases known with rfl | rfl <;> simp [CommentForm.angled, CommentForm.braced]
  obtain ⟨inner, rfl⟩ := inside
  refine ⟨inner, rfl, fun occurs => first ?_⟩
  have nonempty : form.terminator ≠ [] := by
    simp only [List.mem_cons, List.not_mem_nil, or_false] at known
    rcases known with rfl | rfl <;> decide
  rw [← List.append_assoc, List.dropLast_append_of_ne_nil nonempty, List.append_assoc]
  exact occurs.trans (List.suffix_append _ _).isInfix

/-- Behind its opener, a comment that shares no characters is dropped up to its end. -/
theorem withoutComments_comment {form : CommentForm} {inner : List Char}
    (known : form ∈ [CommentForm.angled, CommentForm.braced])
    (first : ¬ form.terminator <:+: inner ++ form.terminator.dropLast) (rest : List Char) :
    withoutComments (form.opener ++ (inner ++ (form.terminator ++ rest))) =
      withoutComments rest := by
  have cut (nonempty : form.terminator ≠ []) :
      form.behindTerminator (inner ++ (form.terminator ++ rest)) = rest := by
    rw [CommentForm.behindTerminator, cutAt?_eq_some nonempty first]
  simp only [List.mem_cons, List.not_mem_nil, or_false] at known
  rcases known with rfl | rfl
  · exact (withoutComments_of_opened .angled rfl).trans
      (congrArg withoutComments (cut (by decide)))
  · exact (withoutComments_of_opened .braced rfl).trans
      (congrArg withoutComments (cut (by decide)))

/-- A terminator that does not begin a text is looked for behind its first character. -/
theorem behindTerminator_cons {form : CommentForm} {character : Char} {rest : List Char}
    (unended : behindPattern? form.terminator (character :: rest) = none) :
    form.behindTerminator (character :: rest) = form.behindTerminator rest := by
  rw [CommentForm.behindTerminator, CommentForm.behindTerminator, cutAt?_cons, unended]
  cases cutAt? form.terminator rest <;> rfl

/-- A comment that shares characters is not ended by its own terminator. -/
theorem withoutComments_sharing {comment : List Char} {form : CommentForm}
    (shared : sharingComments.lookup comment = some form) (rest : List Char) :
    withoutComments (comment ++ rest) = withoutComments (form.behindTerminator rest) := by
  obtain ⟨before, behind, listed, -⟩ := List.lookup_eq_some_iff.mp shared
  have member : (comment, form) ∈ sharingComments := by rw [listed]; simp
  simp only [sharingComments, List.mem_cons, List.not_mem_nil, or_false, Prod.mk.injEq] at member
  rcases member with ⟨rfl, rfl⟩ | ⟨rfl, rfl⟩ | ⟨rfl, rfl⟩
  · refine (withoutComments_of_opened .angled rfl).trans (congrArg withoutComments ?_)
    exact behindTerminator_cons rfl
  · refine (withoutComments_of_opened .angled rfl).trans (congrArg withoutComments ?_)
    exact (behindTerminator_cons rfl).trans (behindTerminator_cons rfl)
  · refine (withoutComments_of_opened .braced rfl).trans (congrArg withoutComments ?_)
    exact (behindTerminator_cons rfl).trans (behindTerminator_cons rfl)

/-- Plain text of a source stays, whatever is cut off behind it. -/
theorem withoutComments_unread {plain kept cut : List Char}
    (unread : (marks .strict).Unread (kept ++ cut) plain) :
    withoutComments (plain ++ kept) = plain ++ withoutComments kept := by
  induction plain with
  | nil => rfl
  | cons character plain inductionHypothesis =>
    obtain ⟨here, later⟩ := unread
    have begins : character :: (plain ++ kept) <+: character :: (plain ++ (kept ++ cut)) :=
      ⟨cut, by simp⟩
    rw [List.cons_append, withoutComments_cons (commentForm_eq_none_of_isPrefix begins
      (commentForm_of_unread here)), inductionHypothesis later]
    rfl

/-! ### Content -/

/-- The text of an element without its comments is what is kept of its pieces. -/
theorem withoutComments_content {position : Nat} {content behind : List Piece}
    (scanned : Scanned position (content ++ behind)) (followed : sourceOf behind ≠ [])
    (tagless : Tagless content) : withoutComments (sourceOf content) = keptText content := by
  induction content generalizing position with
  | nil => exact withoutComments.eq_1
  | cons piece rest inductionHypothesis =>
    obtain ⟨first, others⟩ := List.forall_mem_cons.mp tagless
    have later {position : Nat} (scanned : Scanned position (rest ++ behind)) :=
      inductionHypothesis scanned others
    have split : sourceOf (piece :: rest) = piece.source ++ sourceOf rest := rfl
    rw [List.cons_append] at scanned
    rw [split]
    cases scanned with
    | @marked _ mark source _ read laterScanned =>
      have comment : mark = .comment := first.resolve_left (ne_text_of_mark? read)
      subst comment
      have written := writes_of_mark? read
      rw [readPart_of_append] at written
      obtain ⟨form, known, opened, closed⟩ := written
      rw [keptText, if_pos rfl]
      cases shared : sharingComments.lookup source with
      | some other => exact withoutComments_sharing shared _
      | none =>
        rcases closed with ⟨ended, unended⟩ | ⟨-, nothing⟩
        · obtain ⟨inner, rfl, unterminated⟩ :=
            exists_inner_of_comment known opened ended unended shared
          dsimp only
          rw [List.append_assoc, List.append_assoc, withoutComments_comment known unterminated,
            later laterScanned]
        · rw [sourceOf_append, List.append_eq_nil_iff] at nothing
          exact absurd nothing.2 followed
    | plain unread laterScanned =>
      rw [sourceOf_append] at unread
      rw [withoutComments_unread unread, later laterScanned, keptText, if_neg Mark.noConfusion]

/-- Without comments that share characters, exactly the text tokens are kept. -/
theorem keptText_eq_tokens {content : List Piece}
    (unshared : ∀ piece ∈ content, sharingComments.lookup piece.source = none) :
    keptText content = sourceOf (tokensOf content) := by
  induction content with
  | nil => rfl
  | cons piece rest inductionHypothesis =>
    obtain ⟨first, others⟩ := List.forall_mem_cons.mp unshared
    rw [keptText, tokensOf_cons]
    split
    · rw [first]
      exact inductionHypothesis others
    · rw [inductionHypothesis others]
      rfl

/-! ### Elements -/

/-- Content that stands in front of a closing tag among pieces. -/
def ClosedIn (pieces content : List Piece) : Prop :=
  ∃ before closing other behind, pieces = before ++ (content ++ closing :: behind) ∧
    closing.mark = .closing other

theorem ClosedIn.mono {content inner outer : List Piece} (closed : ClosedIn inner content)
    (part : inner <:+: outer) : ClosedIn outer content := by
  obtain ⟨before, closing, other, behind, rfl, marked⟩ := closed
  obtain ⟨front, back, rfl⟩ := part
  exact ⟨front ++ before, closing, other, behind ++ back, by simp, marked⟩

/-- An element without the elements inside it is among those that it shows. -/
theorem mem_shown {tag : OpeningTag} {start : Nat} {content : Option (List Piece)}
    {children : List Element} {element : Element}
    (member : element ∈ (Element.mk tag start content children).shown) :
    element = .mk tag start content children ∨ content ≠ none ∧ element ∈ shownAll children := by
  cases content with
  | none =>
    rw [Element.shown] at member
    exact .inl (List.mem_singleton.mp member)
  | some pieces =>
    rw [Element.shown] at member
    refine (List.mem_cons.mp member).imp_right fun inside => ⟨Option.some_ne_none _, ?_⟩
    split at inside
    · cases inside
    · exact inside

/-- The content of every element stands in front of the closing tag of the element. -/
theorem closedIn_of_mem_shownAll (pieces : List Piece) :
    ∀ element ∈ shownAll (elements pieces), ∀ content, element.content = some content →
      ClosedIn pieces content := by
  fun_induction elements pieces with
  | case1 =>
    rw [shownAll]
    exact fun _ member => absurd member List.not_mem_nil
  | case2 piece rest tag marked index closed insideHypothesis behindHypothesis =>
    obtain ⟨inside, closing, other, behind, rfl, rfl, ended⟩ := exists_of_closeOf? closed
    rw [shownAll]
    intro element member content contained
    rcases List.mem_append.mp member with here | later
    · rcases mem_shown here with rfl | ⟨-, deeper⟩
      · cases contained
        rw [List.take_left]
        exact ⟨[piece], closing, other, behind, rfl, ended⟩
      · exact (insideHypothesis element deeper content contained).mono
          ((List.take_prefix _ _).isInfix.trans (List.suffix_cons _ _).isInfix)
    · exact (behindHypothesis element later content contained).mono
        ((List.drop_suffix _ _).isInfix.trans (List.suffix_cons _ _).isInfix)
  | case3 piece rest tag marked closed behindHypothesis =>
    rw [shownAll]
    intro element member content contained
    rcases List.mem_append.mp member with here | later
    · rcases mem_shown here with rfl | ⟨impossible, -⟩
      · cases contained
      · exact absurd rfl impossible
    · exact (behindHypothesis element later content contained).mono (List.suffix_cons _ _).isInfix
  | case4 piece rest other behindHypothesis =>
    intro element member content contained
    exact (behindHypothesis element member content contained).mono (List.suffix_cons _ _).isInfix

theorem closedIn_of_rootElement? {pieces : List Piece} {root : Element}
    (found : rootElement? pieces = some root) :
    ∀ element ∈ root.shown, ∀ content, element.content = some content →
      ClosedIn pieces content := by
  unfold rootElement? at found
  split at found
  · cases found
  · rename_i piece rest left
    split at found
    · obtain ⟨others, same⟩ := List.head?_eq_some_iff.mp found
      intro element member content contained
      have listed : element ∈ shownAll (elements (piece :: rest)) := by
        rw [same, shownAll]
        exact List.mem_append_left _ member
      refine (closedIn_of_mem_shownAll _ element listed content contained).mono ?_
      rw [← left]
      exact (List.dropWhile_suffix _).isInfix
    · cases found

/-! ### Nodes -/

/-- The text that the content of an element gives to its node. -/
def verbatimText (kind : Kind) : Option (List Piece) → List Char
  | none => []
  | some pieces => if isVerbatim kind (contentText pieces) then contentText pieces else []

/-- A node that the tag of an element makes, with the text of its content. -/
def MadeFrom (element : Element) (node : Node) : Prop :=
  ∃ kind ledger, tagKind? element.tag = some kind ∧
    node = withText (verbatimText kind element.content)
      (Node.made kind .argb (Opening.applied ⟨element.tag, element.start⟩) ledger).1

theorem nodes_withVerbatimText (node : Node) (text : List Char) :
    (withVerbatimText (.leaf node) text).nodes = [withText text node] := by
  unfold withVerbatimText withText
  split <;> rfl

mutual
/-- Building an element makes its nodes one after the other. -/
theorem madeFrom_buildElement {element : Element} {ledger after : IdLedger} {tree : NodeTree}
    (built : (buildElement .empty element).outcome ledger = (.ok tree, after)) :
    List.Forall₂ MadeFrom element.shown tree.nodes := by
  match element with
  | .mk tag start content children =>
    cases known : tagKind? tag with
    | none =>
      rw [outcome_buildElement_of_unknown known] at built
      cases built
    | some kind =>
      have resolved := outcome_resolveTag_made ⟨tag, start⟩ known start ledger
      rw [buildElement, BuildM.outcome_bind_ok _ resolved] at built
      cases content with
      | none =>
        cases built
        rw [Element.shown]
        exact .cons ⟨kind, ledger, known, rfl⟩ .nil
      | some pieces =>
        have kindOfLeaf : (NodeTree.leaf
            (Node.made kind .argb (Opening.applied ⟨tag, start⟩) ledger).1).node.kind = kind :=
          Node.kind_bindAll _ _ _
        rw [Element.shown]
        dsimp only at built ⊢
        rw [isVerbatimContent_of_known known]
        rw [kindOfLeaf] at built
        by_cases verbatim : isVerbatim kind (contentText pieces) = true
        · have text : verbatimText kind (some pieces) = contentText pieces := if_pos verbatim
          rw [if_pos verbatim] at built ⊢
          cases built
          rw [nodes_withVerbatimText, ← text]
          exact .cons ⟨kind, ledger, known, rfl⟩ .nil
        · have text : verbatimText kind (some pieces) = [] := if_neg verbatim
          rw [if_neg verbatim] at built ⊢
          cases inside : (buildElements .empty children).outcome
              (Node.made kind .argb (Opening.applied ⟨tag, start⟩) ledger).2 with
          | mk result last =>
            cases result with
            | error cause =>
              rw [BuildM.outcome_bind_error _ inside] at built
              cases built
            | ok trees =>
              rw [BuildM.outcome_bind_ok _ inside, BuildM.outcome_pure] at built
              cases built
              rw [NodeTree.nodes_mk]
              refine .cons ⟨kind, ledger, known, ?_⟩ (madeFrom_buildElements inside)
              exact (congrArg (withText · _) text).symm

theorem madeFrom_buildElements {elements : List Element} {ledger after : IdLedger}
    {trees : List NodeTree}
    (built : (buildElements .empty elements).outcome ledger = (.ok trees, after)) :
    List.Forall₂ MadeFrom (shownAll elements) (NodeTree.nodesAll trees) := by
  match elements with
  | [] =>
    cases built
    rw [shownAll]
    exact .nil
  | element :: rest =>
    rw [buildElements] at built
    rw [shownAll]
    cases first : (buildElement .empty element).outcome ledger with
    | mk result middle =>
      cases result with
      | error cause =>
        rw [BuildM.outcome_bind_error _ first] at built
        cases built
      | ok tree =>
        rw [BuildM.outcome_bind_ok _ first] at built
        cases others : (buildElements .empty rest).outcome middle with
        | mk result last =>
          cases result with
          | error cause =>
            rw [BuildM.outcome_bind_error _ others] at built
            cases built
          | ok trees =>
            rw [BuildM.outcome_bind_ok _ others, BuildM.outcome_pure] at built
            cases built
            rw [NodeTree.nodesAll_cons]
            exact List.rel_append (madeFrom_buildElement first) (madeFrom_buildElements others)
end

theorem applied_of_text {tag : OpeningTag} (known : tagKind? tag = some .text) (start : Nat) :
    Opening.applied ⟨tag, start⟩ = tag.attributes := by
  unfold tagKind? at known
  split at known
  · cases known
  · rename_i notIncluded
    exact if_neg notIncluded

theorem MadeFrom.showsText {element : Element} {node : Node} (made : MadeFrom element node)
    (isText : tagKind? element.tag = some .text) {content : List Piece}
    (contained : element.content = some content) (plain : (contentText content).head? ≠ some '<') :
    ShowsText element.tag (contentText content) node := by
  obtain ⟨kind, ledger, known, same⟩ := made
  cases known.symm.trans isText
  have text : verbatimText .text element.content = contentText content := by
    rw [contained]
    exact if_pos (by simp [isVerbatim, plain])
  rw [text, applied_of_text known] at same
  exact ⟨ledger, same⟩

/-- Where an element is made from content of the source, its text agrees with its tokens. -/
theorem MadeFrom.textAgrees {source : List Char} {pieces : List Piece} {element : Element}
    {node : Node} (made : MadeFrom element node) (lexed : strictPieces source = .ok pieces)
    (closed : ∀ content, element.content = some content → ClosedIn pieces content) :
    TextAgrees element node := by
  intro content isText contained tagless
  obtain ⟨before, closing, other, behind, whole, ended⟩ := closed content contained
  obtain ⟨rfl, -⟩ := strictPieces_eq_ok_iff.mp lexed
  have scanned := (scanned_piecesAt source 0).drop before.length
  have followed : sourceOf (closing :: behind) ≠ [] := by
    have nonempty := source_ne_nil_of_mem source 0 closing
      (show closing ∈ pieces .strict source by rw [whole]; simp)
    exact fun empty => nonempty (List.append_eq_nil_iff.mp empty).1
  rw [show piecesAt .strict 0 source = _ from whole, List.drop_left] at scanned
  have kept : contentText content = trim (keptText content) := by
    rw [contentText, withoutComments_content scanned followed tagless]
  rw [← kept]
  exact ⟨made.showsText isText contained, keptText_eq_tokens⟩

/-- Every closed text element without tags inside shows the text tokens of its content, and the text
of its attributes where these are blank; only a comment that shares characters between its opener and
its terminator drops more. -/
theorem text_elements_show_tokens {source : String} {ledger after : IdLedger} {tree : NodeTree}
    (accepted : (parseTree .empty source).outcome ledger = (.ok tree, after)) :
    ∃ pieces root, strictPieces source.toList = .ok pieces ∧ rootElement? pieces = some root ∧
      List.Forall₂ TextAgrees root.shown tree.nodes := by
  unfold parseTree at accepted
  cases lexed : strictPieces source.toList with
  | error tag =>
    rw [lexed] at accepted
    cases accepted
  | ok pieces =>
    rw [lexed] at accepted
    dsimp only at accepted
    cases found : rootElement? pieces with
    | none =>
      rw [found] at accepted
      cases accepted
    | some root =>
      rw [found] at accepted
      have both := (List.forall₂_and_left _ _).mpr
        ⟨closedIn_of_rootElement? found, madeFrom_buildElement accepted⟩
      exact ⟨pieces, root, rfl, found, both.imp fun element node facts =>
        facts.2.textAgrees lexed facts.1⟩

/-- Text around a comment, and an element of which a comment leaves the text of its attribute. -/
theorem text_elements_show_tokens_around_comments :
    ∃ tree after, (parseTree .empty
        "<view><text>a<!-- b --> c </text><text text='d'>\x7b/* e */\x7d</text></view>").outcome
          .empty = (.ok tree, after) ∧
      tree.nodes.map Node.text = ["", "a c", "d"] ∧
      ∃ pieces root, strictPieces
          "<view><text>a<!-- b --> c </text><text text='d'>\x7b/* e */\x7d</text></view>".toList =
            .ok pieces ∧
        rootElement? pieces = some root ∧ List.Forall₂ TextAgrees root.shown tree.nodes := by
  obtain ⟨tree, given, texts⟩ : ∃ tree ∈ ((parseTree .empty
      "<view><text>a<!-- b --> c </text><text text='d'>\x7b/* e */\x7d</text></view>").outcome
        .empty).1.toOption, tree.nodes.map Node.text = ["", "a c", "d"] := by
    decide +kernel
  obtain ⟨after, accepted⟩ := BuildM.outcome_of_mem given
  exact ⟨tree, after, accepted, texts, text_elements_show_tokens accepted⟩

/-- A comment that shares characters takes the text behind it along. -/
theorem text_lost_behind_sharing_comment :
    ∃ pieces ∈ (strictPieces "<text><!-->Hello</text>".toList).toOption,
      ∃ root ∈ rootElement? pieces, ∃ content ∈ root.content,
        sourceOf (tokensOf content) = "Hello".toList ∧
        ∃ tree ∈ ((parseTree .empty "<text><!-->Hello</text>").outcome .empty).1.toOption,
          tree.nodes.map Node.text = [""] := by
  decide +kernel

end SceneMarkup.Markup
