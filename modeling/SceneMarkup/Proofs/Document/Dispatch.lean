import SceneMarkup.Document
import SceneMarkup.Proofs.Json.Reading
import SceneMarkup.Proofs.Json.WrittenDraft
import SceneMarkup.Proofs.Markup.Locality
import SceneMarkup.Proofs.Markup.Scanning
import SceneMarkup.Proofs.Node.Building
import SceneMarkup.Proofs.Text.Trimming

/-!
Contract: documents that one of the parsers accepts, and what becomes of them when their format is
told by their first character.

Owns:
- the first characters of accepted markup and of accepted literals;
- the theorem that accepted documents are read as what they are, except for markup behind a comment
  in braces, which is refused as a malformed literal.

Does not own: documents with includes, whose beginning depends on the templates.
-/

namespace SceneMarkup

open SceneMarkup.Number SceneMarkup.Text

/-! ### Beginnings of markup -/

namespace Markup

/-- Whether the first characters other than blanks open a comment in braces. -/
def beginsWithBracedComment (content : String) : Bool :=
  CommentForm.braced.opener.isPrefixOf (trimStart content.toList)

/-- Everything that is read begins with `<`, except for a comment in braces. -/
theorem begins_of_mark? {recovery : Recovery} {text behind : List Char} {mark : Mark}
    (read : mark? recovery text = some (mark, behind)) :
    text.head? = some '<' ∨ CommentForm.braced.opener <+: text := by
  cases markRead_of_mark? read with
  | comment commented =>
    obtain ⟨form, opened, _⟩ := Option.map_eq_some_iff.mp commented
    obtain ⟨known, begins⟩ := opener_prefix_of_commentForm opened
    simp only [List.mem_cons, List.not_mem_nil, or_false] at known
    rcases known with rfl | rfl
    · obtain ⟨rest, rfl⟩ := begins
      exact Or.inl rfl
    · exact Or.inr begins
  | closing => exact Or.inl rfl
  | opening => exact Or.inl rfl
  | brokenClosing => exact Or.inl rfl
  | brokenOpening => exact Or.inl rfl

/-- Neither of the two beginnings has a blank in front of it. -/
theorem trimStart_of_mark? {recovery : Recovery} {text behind : List Char} {mark : Mark}
    (read : mark? recovery text = some (mark, behind)) : trimStart text = text := by
  have visible : ∃ first rest, text = first :: rest ∧ isBlank first = false := by
    rcases begins_of_mark? read with opened | ⟨rest, rfl⟩
    · obtain ⟨rest, rfl⟩ := List.head?_eq_some_iff.mp opened
      exact ⟨'<', rest, rfl, by decide⟩
    · exact ⟨'\x7b', _, rfl, by decide⟩
  obtain ⟨first, rest, rfl, visible⟩ := visible
  rw [trimStart, List.dropWhile_cons_of_neg (by rw [visible]; exact Bool.false_ne_true)]

/-- A document with a root element begins with a tag or a comment, behind blanks. -/
theorem begins_of_rootElement? {text : List Char} {position : Nat} {element : Element}
    (rooted : rootElement? (piecesAt .strict position text) = some element) :
    (trimStart text).head? = some '<' ∨ CommentForm.braced.opener <+: trimStart text := by
  induction text using (marks .strict).splitting_induction with
  | nil =>
    rw [piecesAt_nil] at rooted
    cases rooted
  | item text behind mark read _ =>
    rw [trimStart_of_mark? read]
    exact begins_of_mark? read
  | plain plain behind nonempty unread stops _ =>
    rw [piecesAt_plain nonempty unread stops] at rooted
    by_cases blank : allBlank plain = true
    · rw [trimStart, List.dropWhile_append_of_pos (List.all_eq_true.mp blank)]
      rcases stops with rfl | found
      · rw [piecesAt_nil] at rooted
        simp [rootElement?, Piece.isBlankText, blank] at rooted
      · obtain ⟨⟨mark, after⟩, read⟩ := Option.isSome_iff_exists.mp found
        have read : mark? .strict behind = some (mark, after) := read
        have here := trimStart_of_mark? read
        rw [trimStart] at here
        rw [here]
        exact begins_of_mark? read
    · simp [rootElement?, Piece.isBlankText, blank] at rooted

/-- Accepted markup has a root element. -/
theorem exists_rootElement_of_parseTree {registry : ComponentRegistry} {source : String}
    {ledger after : IdLedger} {tree : NodeTree}
    (accepted : (parseTree registry source).outcome ledger = (.ok tree, after)) :
    ∃ element, rootElement? (pieces .strict source.toList) = some element := by
  unfold parseTree at accepted
  split at accepted
  · cases accepted
  · rename_i all scanned
    obtain ⟨rfl, _⟩ := strictPieces_eq_ok_iff.mp scanned
    split at accepted
    · cases accepted
    · rename_i element found
      exact ⟨element, found⟩

/-- Accepted markup is told by its first character, unless a comment in braces comes first. -/
theorem detect_of_parseTree {registry : ComponentRegistry} {source : String}
    {ledger after : IdLedger} {tree : NodeTree}
    (accepted : (parseTree registry source).outcome ledger = (.ok tree, after)) :
    DocumentFormat.detect source =
      if beginsWithBracedComment source then .json else .markup := by
  obtain ⟨element, rooted⟩ := exists_rootElement_of_parseTree accepted
  unfold DocumentFormat.detect beginsWithBracedComment
  rcases @begins_of_rootElement? source.toList 0 element rooted with opened | commented
  · obtain ⟨rest, begins⟩ := List.head?_eq_some_iff.mp opened
    rw [begins]
    rfl
  · rw [if_pos (List.isPrefixOf_iff_prefix.mpr commented)]
    obtain ⟨rest, begins⟩ := commented
    rw [← begins]
    rfl

end Markup

/-! ### Beginnings of literals -/

namespace Json

/-- Spaces are blanks, so trimming drops them and goes on. -/
theorem trimStart_skipSpaces (text : List Char) : trimStart (skipSpaces text) = trimStart text := by
  induction text with
  | nil => rfl
  | cons character rest inductionHypothesis =>
    by_cases space : isSpace character = true
    · have blank : isBlank character = true := by
        simp only [isSpace, Bool.or_eq_true, beq_iff_eq] at space
        rcases space with ((rfl | rfl) | rfl) | rfl <;> decide
      have dropped : trimStart (character :: rest) = trimStart rest :=
        List.dropWhile_cons_of_pos blank
      rw [skipSpaces, List.dropWhile_cons_of_pos space, dropped]
      exact inductionHypothesis
    · rw [skipSpaces, List.dropWhile_cons_of_neg space]

theorem isDigit_of_isBlank {character : Char} (blank : isBlank character = true) :
    isDigit character = false := by
  by_contra digit
  rw [Bool.not_eq_false, isDigit, Bool.and_eq_true, decide_eq_true_eq, decide_eq_true_eq] at digit
  have range : 48 ≤ character.toNat ∧ character.toNat ≤ 57 := digit
  simp only [isBlank, Bool.or_eq_true, Bool.and_eq_true, decide_eq_true_eq, beq_iff_eq] at blank
  omega

/-- A blank begins no value. -/
theorem value?_eq_none_of_blank {levels : Nat} {first : Char} (blank : isBlank first = true)
    (rest : List Char) : value? levels (first :: rest) = none := by
  have other (character : Char) (visible : isBlank character = false) : first ≠ character := by
    rintro rfl
    rw [visible] at blank
    cases blank
  rw [value?_of_scalar (other _ (by decide)) (other _ (by decide)), scalar?]
  · split
    · rename_i found
      unfold word? at found
      split at found
      · exact absurd (List.cons.inj ‹_›).1 (other _ (by decide))
      · exact absurd (List.cons.inj ‹_›).1 (other _ (by decide))
      · exact absurd (List.cons.inj ‹_›).1 (other _ (by decide))
      · cases found
    · split
      · rename_i found
        obtain ⟨_, _, same, numeric⟩ := exists_cons_of_number? found
        cases same
        rw [isDigit_of_isBlank blank] at numeric
        exact absurd (numeric.resolve_right Bool.false_ne_true) (other _ (by decide))
      · rfl
  · exact fun _ same => other '"' (by decide) (List.cons.inj same).1

/-- A slash behind a brace begins neither a member nor the end of the object. -/
theorem value?_eq_none_of_slash (levels : Nat) (rest : List Char) :
    value? (levels + 1) ('\x7b' :: '/' :: rest) = none := by
  have skipped : skipSpaces ('/' :: rest) = '/' :: rest := skipSpaces_cons (by decide) rest
  rw [value?]
  split
  · rename_i closed
    rw [skipped] at closed
    cases closed
  · have keyless : key? (skipSpaces ('/' :: rest)) = none := by
      rw [skipped]
      rfl
    rw [Option.map_eq_none_iff, members?, keyless]

theorem read?_eq_none_of_comment {text : List Char}
    (commented : Markup.CommentForm.braced.opener <+: trimStart text) : read? text = none := by
  obtain ⟨after, begins⟩ := commented
  have unread : value? maximalDepth (skipSpaces text) = none := by
    rw [← trimStart_skipSpaces] at begins
    cases skipped : skipSpaces text with
    | nil =>
      rw [skipped] at begins
      cases begins
    | cons first rest =>
      rw [skipped] at begins
      by_cases blank : isBlank first = true
      · exact value?_eq_none_of_blank blank rest
      · rw [trimStart, List.dropWhile_cons_of_neg blank] at begins
        cases begins
        exact value?_eq_none_of_slash _ _
  rw [read?, unread]

theorem scalar?_ne_object {text : List Char} {members : List (String × Value)} {rest : Rest text} :
    scalar? text ≠ some (.object members, rest) := by
  intro found
  unfold scalar? at found
  split at found
  · split at found <;> cases found
  · split at found
    · rename_i read
      cases found
      unfold word? at read
      split at read <;> cases read
    · split at found <;> cases found

/-- Only a brace begins an object. -/
theorem begins_of_value? {levels : Nat} {text : List Char} {members : List (String × Value)}
    {rest : Rest text} (found : value? levels text = some (.object members, rest)) :
    text.head? = some '\x7b' := by
  unfold value? at found
  split at found
  · split at found
    · cases found
    · split at found
      · cases found
      · obtain ⟨_, _, same⟩ := Option.map_eq_some_iff.mp found
        cases same
  · rfl
  · exact absurd found scalar?_ne_object

/-- A text whose value is an object begins with a brace, behind blanks. -/
theorem begins_of_read? {text : List Char} {members : List (String × Value)}
    (found : read? text = some (.object members)) : (trimStart text).head? = some '\x7b' := by
  unfold read? at found
  split at found
  · rename_i value rest read
    split at found
    · cases found
      obtain ⟨others, begins⟩ := List.head?_eq_some_iff.mp (begins_of_value? read)
      rw [← trimStart_skipSpaces, begins]
      rfl
    · cases found
  · cases found

end Json

namespace Literal

open SceneMarkup.Json

theorem detect_of_parse {source : String} {ledger after : IdLedger} {tree : NodeTree}
    (accepted : (parse source).outcome ledger = (.ok tree, after)) :
    DocumentFormat.detect source = .json := by
  unfold parse at accepted
  split at accepted
  · cases accepted
  · rename_i value read
    cases value with
    | object members =>
      rw [DocumentFormat.detect, begins_of_read? read]
      rfl
    | _ =>
      rw [build] at accepted
      · cases accepted
      · exact fun _ => Value.noConfusion

end Literal

/-! ### Accepted documents -/

namespace Engine

open SceneMarkup.Markup

variable {components : ComponentRegistry} {content : String} {ledger after : IdLedger}

theorem exists_of_isOk {computation : BuildM NodeTree} {ledger : IdLedger}
    (accepted : (computation.outcome ledger).1.isOk = true) :
    ∃ tree after, computation.outcome ledger = (.ok tree, after) := by
  cases ended : computation.outcome ledger with
  | mk result after =>
    rw [ended] at accepted
    cases result with
    | error cause => cases accepted
    | ok tree => exact ⟨tree, after, rfl⟩

/-- The scene of a document without templates is that of the parser for its format. -/
theorem run_parse {format : DocumentFormat} (detected : DocumentFormat.detect content = format)
    {result : Except ParseError NodeTree}
    (built : (treeOf ⟨components, none⟩ content format).outcome ledger = (result, after)) :
    StateT.run (parse ⟨components, none⟩ content) ledger =
      (match result with
        | .ok tree => .ok (.ofTree tree)
        | .error cause => .error ⟨format, cause⟩, after) := by
  subst detected
  unfold BuildM.outcome at built
  unfold parse
  rw [StateT.run_bind, show expand ⟨components, none⟩ content = content from rfl, built]
  cases result <;> rfl

/-- A document that one of the parsers accepts is read by that parser, unless it is markup that
begins with a comment in braces, which is read as a malformed literal. -/
theorem parse_of_accepted (components : ComponentRegistry) (content : String)
    (ledger after : IdLedger) (tree : NodeTree) :
    ((parseTree components content).outcome ledger = (.ok tree, after) →
      StateT.run (parse ⟨components, none⟩ content) ledger =
        if beginsWithBracedComment content then (.error ⟨.json, .malformedJson⟩, ledger)
        else (.ok (.ofTree tree), after)) ∧
      ((Literal.parse content).outcome ledger = (.ok tree, after) →
        StateT.run (parse ⟨components, none⟩ content) ledger = (.ok (.ofTree tree), after)) := by
  constructor
  · intro accepted
    have detected := detect_of_parseTree accepted
    by_cases commented : beginsWithBracedComment content = true
    · rw [if_pos commented] at detected ⊢
      have unread := Json.read?_eq_none_of_comment (List.isPrefixOf_iff_prefix.mp commented)
      have refused : (Literal.parse content).outcome ledger = (.error .malformedJson, ledger) := by
        rw [Literal.parse, unread]
        rfl
      exact run_parse detected refused
    · rw [if_neg commented] at detected ⊢
      exact run_parse detected accepted
  · intro accepted
    exact run_parse (Literal.detect_of_parse accepted) accepted

/-- Markup behind both forms of comments, and an empty object. -/
theorem parse_of_accepted_at_comments :
    ∃ markup later literal after,
      (parseTree .empty "<!-- a --> \x7b/* b */\x7d<view/>").outcome .empty = (.ok markup, later) ∧
      StateT.run (parse ⟨.empty, none⟩ "<!-- a --> \x7b/* b */\x7d<view/>") .empty =
        (.ok (.ofTree markup), later) ∧
      (Literal.parse " \x7b\x7d").outcome .empty = (.ok literal, after) ∧
      StateT.run (parse ⟨.empty, none⟩ " \x7b\x7d") .empty = (.ok (.ofTree literal), after) := by
  obtain ⟨markup, later, accepted⟩ := exists_of_isOk
    (show ((parseTree .empty "<!-- a --> \x7b/* b */\x7d<view/>").outcome .empty).1.isOk by
      decide +kernel)
  have read : Json.read? " \x7b\x7d".toList = some (.object []) := by
    have object :
        Json.Reads Json.maximalDepth (Json.skipSpaces " \x7b\x7d".toList) (.object []) [] :=
      @Json.reads_emptyObject 126 []
    obtain ⟨rest, found, nothing⟩ := object
    rw [Json.read?, found]
    dsimp only
    rw [nothing]
    rfl
  obtain ⟨literal, after, object⟩ := exists_of_isOk
    (show ((Literal.parse " \x7b\x7d").outcome .empty).1.isOk by
      rw [Literal.parse, read]
      dsimp only
      rw [Literal.build]
      simp only [Literal.children, Literal.field?, lookupWord, List.find?_nil, Option.map_none,
        Literal.buildAll]
      rfl)
  exact ⟨markup, later, literal, after, accepted,
    (parse_of_accepted .empty _ .empty later markup).1 accepted,
    object, (parse_of_accepted .empty _ .empty after literal).2 object⟩

/-- Markup that is accepted, and refused when it is read as a document. -/
theorem parse_refuses_braced_comment :
    ∃ tree after,
      (parseTree .standard "\x7b/* c */\x7d<view/>").outcome .empty = (.ok tree, after) ∧
      ¬ ∃ scene later, StateT.run (parse ⟨.standard, none⟩ "\x7b/* c */\x7d<view/>") .empty =
        (.ok scene, later) := by
  obtain ⟨tree, after, accepted⟩ := exists_of_isOk
    (show ((parseTree .standard "\x7b/* c */\x7d<view/>").outcome .empty).1.isOk by decide +kernel)
  refine ⟨tree, after, accepted, ?_⟩
  rintro ⟨scene, later, parsed⟩
  have unread : Json.read? "\x7b/* c */\x7d<view/>".toList = none :=
    Json.read?_eq_none_of_comment ⟨" c */\x7d<view/>".toList, by decide⟩
  have refused : (Literal.parse "\x7b/* c */\x7d<view/>").outcome .empty =
      (.error .malformedJson, .empty) := by
    rw [Literal.parse, unread]
    rfl
  have detected : DocumentFormat.detect "\x7b/* c */\x7d<view/>" = .json := by decide
  rw [run_parse detected refused] at parsed
  cases parsed

end Engine

end SceneMarkup
