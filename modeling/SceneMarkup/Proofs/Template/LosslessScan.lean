import SceneMarkup.Proofs.Markup.Locality
import SceneMarkup.Proofs.Markup.SpelledTag
import SceneMarkup.Proofs.Template.Rendering
import SceneMarkup.Proofs.Text.Cuts

/-!
Contract: the scan for placeholders loses nothing.

Owns:
- `BraceGroup`, the shortest group of braces that balances;
- `Segment.Stands`, what a part of a scanned text says about the place at which it stands;
- what the scan reads at the beginning of a text, and when it reads nothing;
- the theorem that the parts make up the text, that each of them stands where it is found, and that
  rendering changes no other part than it has to.

Does not own: the value of a placeholder, and which content fills a slot.
-/

namespace SceneMarkup.Template

open SceneMarkup.Text SceneMarkup.Markup

/-! ### Statement -/

/-- A group of braces: it closes as many as it opens, and any shorter beginning of it leaves one
open. -/
structure BraceGroup (group : List Char) : Prop where
  opened : ['\x7b'] <+: group
  even : group.count '\x7d' = group.count '\x7b'
  shortest : ∀ front, front <+: group → front ≠ [] → front ≠ group →
    front.count '\x7d' < front.count '\x7b'

/-- A text that begins neither with a comment nor with a group of braces. -/
structure BeginsPlain (text : List Char) : Prop where
  uncommented : ∀ form ∈ [CommentForm.angled, CommentForm.braced], ¬ form.opener <+: text
  ungrouped : ∀ group, group <+: text → ¬ BraceGroup group

/-- A part of a scanned text in front of the text behind it. -/
inductive Segment.Stands : Stretch Segment → List Char → Prop where
  | placeholder {inner behind : List Char}
      (group : BraceGroup ('\x7b' :: (inner ++ ['\x7d'])))
      (uncommented : ¬ CommentForm.braced.opener <+: '\x7b' :: (inner ++ '\x7d' :: behind)) :
      Stands (.item (.placeholder inner) ('\x7b' :: (inner ++ ['\x7d']))) behind
  | comment {source behind : List Char} (comment : IsComment source behind) :
      Stands (.item .comment source) behind
  | plain {source behind : List Char} (nonempty : source ≠ [])
      (inert : ∀ rest, rest <:+ source → rest ≠ [] → BeginsPlain (rest ++ behind)) :
      Stands (.plain source) behind

/-- A part as it is written: text and comments as they are, and a placeholder between braces. -/
def Segment.written : Stretch Segment → List Char
  | .item (.placeholder inner) _ => '\x7b' :: (inner ++ ['\x7d'])
  | stretch => stretch.source

/-- What evaluation makes of a part: a placeholder becomes its value, everything else stays. -/
def Segment.evaluated (attributes : Attributes) : Stretch Segment → List Char
  | .item (.placeholder inner) _ => placeholderValue attributes inner
  | stretch => stretch.source

/-- Whether filling slots leaves a part alone: it is no slot, and no placeholder that stands for the
main content. -/
def Segment.IsCopied : Segment → Prop
  | .comment => True
  | .placeholder inner =>
    ∀ name ∈ contentNames, sameWord name (String.ofList (trim inner)) = false
  | .slot _ _ => False
  | .malformed => False

/-- What the scan of a text for placeholders finds. -/
structure ScansLosslessly (text : List Char) : Prop where
  joined : (placeholderSegments.stretches text).flatMap Segment.written = text
  apart : (placeholderSegments.stretches text).IsChain fun first second =>
    ∀ source other, ¬ (first = .plain source ∧ second = .plain other)
  stands : ∀ before here after, placeholderSegments.stretches text = before ++ here :: after →
    Segment.Stands here (after.flatMap Segment.written)
  evaluated : ∀ attributes before here after,
    placeholderSegments.stretches text = before ++ here :: after →
      evaluatePlaceholders attributes text =
        evaluatePlaceholders attributes (before.flatMap Segment.written) ++
          (Segment.evaluated attributes here ++
            evaluatePlaceholders attributes (after.flatMap Segment.written))
  unchanged : ∀ attributes,
    (∀ inner source, .item (.placeholder inner) source ∉ placeholderSegments.stretches text) →
      evaluatePlaceholders attributes text = text
  copied : ∀ attributes content,
    (∀ segment source, .item segment source ∈ bodySegments.stretches text → segment.IsCopied) →
      fillSlots attributes content text = text

/-! ### Groups of braces -/

theorem bracesBalance_of_braceGroup {group : List Char} (braces : BraceGroup group) :
    ∃ inner, group = '\x7b' :: (inner ++ ['\x7d']) ∧ BracesBalance inner := by
  obtain ⟨tail, rfl⟩ := braces.opened
  have even := braces.even
  rcases List.eq_nil_or_concat' tail with rfl | ⟨inner, last, rfl⟩
  · exact absurd even (by decide)
  · have begins (front : List Char) (inside : front <+: inner) :
        front.count '\x7d' < front.count '\x7b' + 1 := by
      have shorter := braces.shortest ('\x7b' :: front)
        (List.cons_prefix_cons.mpr ⟨rfl, inside.trans (List.prefix_append _ _)⟩)
        (List.cons_ne_nil _ _)
        (by
          intro same
          have lengths := congrArg List.length same
          have bound := inside.length_le
          simp at lengths
          omega)
      simpa using shorter
    have whole := begins inner List.prefix_rfl
    simp only [List.singleton_append, List.count_cons, List.count_append, List.count_nil,
      beq_iff_eq] at even
    by_cases closes : last = '\x7d'
    · subst closes
      refine ⟨inner, rfl, fun front inside => Nat.le_of_lt_succ (begins front inside), ?_⟩
      simp at even
      omega
    · simp [closes] at even
      omega

theorem braceGroup_of_bracesBalance {inner : List Char} (balance : BracesBalance inner) :
    BraceGroup ('\x7b' :: (inner ++ ['\x7d'])) := by
  refine ⟨⟨_, rfl⟩, by simp [balance.even], ?_⟩
  intro front begins nonempty shorter
  obtain ⟨first, rest, rfl⟩ := List.exists_cons_of_ne_nil nonempty
  obtain ⟨rfl, inside⟩ := List.cons_prefix_cons.mp begins
  rcases List.prefix_concat_iff.mp inside with rfl | within
  · exact absurd rfl shorter
  · simpa [Nat.lt_succ_iff] using balance.forward rest within

/-- A text read up to a closing brace, of which `depth` more are closed than opened. -/
theorem counts_of_bracedText? {depth : Nat} {text inner behind : List Char}
    (read : bracedText? depth text = some (inner, behind)) :
    text = inner ++ '\x7d' :: behind ∧
      (∀ front, front <+: inner → front.count '\x7d' ≤ front.count '\x7b' + depth) ∧
      inner.count '\x7d' = inner.count '\x7b' + depth := by
  induction text generalizing depth inner with
  | nil => simp [bracedText?] at read
  | cons character rest inductionHypothesis =>
    -- A character in front of what is read counts in every beginning but the empty one.
    have add {inner : List Char} {next : Nat}
        (balance : (if character = '\x7d' then 1 else 0) + next =
          (if character = '\x7b' then 1 else 0) + depth)
        (counts : rest = inner ++ '\x7d' :: behind ∧
          (∀ front, front <+: inner → front.count '\x7d' ≤ front.count '\x7b' + next) ∧
          inner.count '\x7d' = inner.count '\x7b' + next) :
        character :: rest = (character :: inner) ++ '\x7d' :: behind ∧
          (∀ front, front <+: character :: inner →
            front.count '\x7d' ≤ front.count '\x7b' + depth) ∧
          (character :: inner).count '\x7d' = (character :: inner).count '\x7b' + depth := by
      obtain ⟨same, forward, even⟩ := counts
      refine ⟨by rw [same]; rfl, ?_, ?_⟩
      · intro front inside
        rcases List.prefix_cons_iff.mp inside with rfl | ⟨tail, rfl, within⟩
        · exact Nat.zero_le _
        · have bound := forward tail within
          simp only [List.count_cons, beq_iff_eq]
          omega
      · simp only [List.count_cons, beq_iff_eq]
        omega
    rw [bracedText?_cons] at read
    split at read
    · rename_i opens
      obtain ⟨cut, found, same⟩ := Option.map_eq_some_iff.mp read
      cases same
      exact add (by subst opens; simp; omega) (inductionHypothesis found)
    · rename_i notOpening
      split at read
      · rename_i closes
        cases depth with
        | zero =>
          cases read
          refine ⟨by rw [closes]; rfl, fun front inside => ?_, rfl⟩
          rw [List.prefix_nil.mp inside]
          exact Nat.zero_le _
        | succ depth =>
          obtain ⟨cut, found, same⟩ := Option.map_eq_some_iff.mp read
          cases same
          exact add (by subst closes; simp; omega) (inductionHypothesis found)
      · rename_i notClosing
        obtain ⟨cut, found, same⟩ := Option.map_eq_some_iff.mp read
        cases same
        exact add (by rw [if_neg notClosing, if_neg notOpening]) (inductionHypothesis found)

/-- Behind a brace the text is read up to the brace that balances it. -/
theorem bracedText?_eq_some_iff {text inner behind : List Char} :
    bracedText? 0 text = some (inner, behind) ↔
      text = inner ++ '\x7d' :: behind ∧ BraceGroup ('\x7b' :: (inner ++ ['\x7d'])) := by
  constructor
  · intro read
    obtain ⟨same, forward, even⟩ := counts_of_bracedText? read
    exact ⟨same, braceGroup_of_bracesBalance ⟨forward, even⟩⟩
  · rintro ⟨rfl, braces⟩
    obtain ⟨other, same, balance⟩ := bracesBalance_of_braceGroup braces
    obtain rfl : inner = other := by simpa using same
    exact bracedText?_of_count balance.forward balance.even behind

/-! ### What the scan reads -/

theorem commentForm_eq_none_iff {text : List Char} : CommentForm.of? text = none ↔
    ∀ form ∈ [CommentForm.angled, CommentForm.braced], ¬ form.opener <+: text := by
  simp only [CommentForm.of?, List.find?_eq_none, List.isPrefixOf_iff_prefix]

/-- An item of the scan is a comment, or a group of braces with which no comment begins. -/
theorem read_eq_some_iff {text behind : List Char} {segment : Segment} :
    placeholderSegments.read text = some (segment, behind) ↔
      (segment = .comment ∧ behindComment? text = some behind) ∨
      ∃ inner, segment = .placeholder inner ∧ CommentForm.of? text = none ∧
        text = '\x7b' :: (inner ++ '\x7d' :: behind) ∧
        BraceGroup ('\x7b' :: (inner ++ ['\x7d'])) := by
  show segment? false text = some (segment, behind) ↔ _
  unfold segment?
  cases commented : behindComment? text with
  | some after =>
    have opened : CommentForm.of? text ≠ none := by
      intro absent
      rw [behindComment?, absent] at commented
      cases commented
    constructor
    · intro read
      cases read
      exact .inl ⟨rfl, rfl⟩
    · rintro (⟨rfl, same⟩ | ⟨_, _, absent, _⟩)
      · cases same
        rfl
      · exact absurd absent opened
  | none =>
    have unopened : CommentForm.of? text = none := Option.map_eq_none_iff.mp commented
    cases text with
    | nil =>
      constructor
      · intro read
        cases read
      · rintro (⟨_, same⟩ | ⟨_, _, _, same, _⟩)
        · cases same
        · cases same
    | cons character rest =>
      simp only [Bool.false_and, Bool.false_eq_true, if_false]
      constructor
      · intro read
        split at read
        · rename_i brace
          obtain ⟨cut, found, same⟩ := Option.map_eq_some_iff.mp read
          cases same
          obtain ⟨same, group⟩ := bracedText?_eq_some_iff.mp found
          exact .inr ⟨_, rfl, unopened, by rw [brace, same], group⟩
        · cases read
      · rintro (⟨_, same⟩ | ⟨inner, rfl, _, same, group⟩)
        · cases same
        · obtain ⟨rfl, within⟩ := List.cons_eq_cons.mp same
          rw [if_pos rfl, bracedText?_eq_some_iff.mpr ⟨within, group⟩, Option.map_some]

/-- The scan reads nothing where a text begins plainly. -/
theorem read_eq_none_iff {text : List Char} :
    placeholderSegments.read text = none ↔ BeginsPlain text := by
  constructor
  · intro unread
    have unopened : CommentForm.of? text = none := by
      cases opened : CommentForm.of? text with
      | none => rfl
      | some form =>
        have commented : behindComment? text = some (form.behindTerminator text) := by
          rw [behindComment?, opened, Option.map_some]
        rw [read_eq_some_iff.mpr (.inl ⟨rfl, commented⟩)] at unread
        cases unread
    refine ⟨commentForm_eq_none_iff.mp unopened, ?_⟩
    rintro group ⟨behind, rfl⟩ braces
    obtain ⟨inner, rfl, _⟩ := bracesBalance_of_braceGroup braces
    have read := read_eq_some_iff.mpr
      (.inr ⟨inner, rfl, unopened, by rw [List.cons_append, List.append_assoc]; rfl, braces⟩)
    rw [read] at unread
    cases unread
  · intro plain
    cases read : placeholderSegments.read text with
    | none => rfl
    | some found =>
      rcases read_eq_some_iff.mp read with ⟨_, commented⟩ | ⟨inner, _, _, same, group⟩
      · rw [behindComment?, commentForm_eq_none_iff.mpr plain.uncommented] at commented
        cases commented
      · exact absurd group (plain.ungrouped _ ⟨found.2, by rw [same]; simp⟩)

/-- Of a longer text the scan reads the same items, as long as they end inside. -/
theorem local_placeholderSegments : placeholderSegments.Local where
  item := by
    intro text kept later segment read
    rcases read_eq_some_iff.mp read with ⟨rfl, commented⟩ | ⟨inner, rfl, unopened, same, group⟩
    · refine read_eq_some_iff.mpr (.inl ⟨rfl, ?_⟩)
      by_cases empty : later = []
      · rwa [empty, List.append_nil, List.append_nil] at commented
      · exact behindComment?_of_append empty commented
    · refine read_eq_some_iff.mpr (.inr ⟨inner, rfl, ?_, ?_, group⟩)
      · exact commentForm_eq_none_of_isPrefix (List.prefix_append text later) unopened
      · have whole : text ++ later = '\x7b' :: (inner ++ '\x7d' :: kept) ++ later := by
          simpa using same
        exact List.append_cancel_right whole
  plain := by
    intro text whole begins unread
    have plain := read_eq_none_iff.mp unread
    exact read_eq_none_iff.mpr
      ⟨fun form known opened => plain.uncommented form known (opened.trans begins),
        fun group inside => plain.ungrouped group (inside.trans begins)⟩

/-! ### Parts of a scanned text -/

/-- An item stands where it was read. -/
theorem stands_of_read {segment : Segment} {source behind : List Char}
    (read : placeholderSegments.read (source ++ behind) = some (segment, behind)) :
    Segment.Stands (.item segment source) behind := by
  rcases read_eq_some_iff.mp read with ⟨rfl, commented⟩ | ⟨inner, rfl, unopened, same, group⟩
  · have comment := isComment_of_behindComment? commented
    rw [readPart_of_append] at comment
    exact .comment comment
  · have whole : source ++ behind = '\x7b' :: (inner ++ ['\x7d']) ++ behind := by
      simpa using same
    obtain rfl := List.append_cancel_right whole
    rw [same] at unopened
    exact .placeholder group (commentForm_eq_none_iff.mp unopened _ (by simp))

theorem Segment.Stands.written_eq {here : Stretch Segment} {behind : List Char}
    (stands : Segment.Stands here behind) : Segment.written here = here.source := by
  cases stands with
  | placeholder _ _ => rfl
  | comment _ => rfl
  | plain _ _ => rfl

theorem stands_of_cuts {here : Stretch Segment} {after : List (Stretch Segment)}
    (cuts : placeholderSegments.Cuts (here :: after)) :
    Segment.Stands here (sourcesOf after) := by
  cases cuts with
  | item read _ => exact stands_of_read read
  | plain nonempty unread _ _ =>
    exact .plain nonempty fun rest inside nonempty =>
      read_eq_none_iff.mp (Recogniser.read_of_unread unread inside nonempty)

/-- Written out, the parts are what was scanned. -/
theorem flatMap_written {row : List (Stretch Segment)} (cuts : placeholderSegments.Cuts row) :
    row.flatMap Segment.written = sourcesOf row := by
  induction row with
  | nil => rfl
  | cons here after inductionHypothesis =>
    rw [← List.singleton_append] at cuts
    rw [List.flatMap_cons, (stands_of_cuts cuts).written_eq, inductionHypothesis cuts.behind,
      sourcesOf_cons]

theorem isChain_of_cuts {row : List (Stretch Segment)} (cuts : placeholderSegments.Cuts row) :
    row.IsChain fun first second =>
      ∀ source other, ¬ (first = .plain source ∧ second = .plain other) := by
  induction cuts with
  | nil => exact .nil
  | @item segment source after _ _ inductionHypothesis =>
    cases after with
    | nil => exact .singleton _
    | cons next after => exact .cons_cons (fun _ _ both => by cases both.1) inductionHypothesis
  | @plain source after nonempty unread stops later inductionHypothesis =>
    cases after with
    | nil => exact .singleton _
    | cons next after =>
      obtain ⟨value, itemSource, rfl⟩ :=
        Recogniser.Cuts.exists_item_of_plain (.plain nonempty unread stops later)
      exact .cons_cons (fun _ _ both => by cases both.2) inductionHypothesis

/-! ### Rendering -/

/-- Of a text cut into its parts, each part is evaluated for itself. -/
theorem evaluatePlaceholders_of_cuts (attributes : Attributes) {row : List (Stretch Segment)}
    (cuts : placeholderSegments.Cuts row) :
    evaluatePlaceholders attributes (sourcesOf row) =
      row.flatMap (Segment.evaluated attributes) := by
  have same (here : Stretch Segment) : Recogniser.replacement (evaluatePart attributes) here =
      Segment.evaluated attributes here := by
    cases here with
    | plain source => rfl
    | item segment source => cases segment <;> rfl
  rw [evaluatePlaceholders_eq, Recogniser.rewrite_of_cuts _ cuts, funext same]

/-- Without a placeholder among its parts a text stays as it is. -/
theorem evaluatePlaceholders_of_unheld (attributes : Attributes) {row : List (Stretch Segment)}
    (cuts : placeholderSegments.Cuts row)
    (unheld : ∀ inner source, .item (.placeholder inner) source ∉ row) :
    evaluatePlaceholders attributes (sourcesOf row) = sourcesOf row := by
  rw [evaluatePlaceholders_of_cuts attributes cuts, sourcesOf]
  refine List.flatMap_congr fun here member => ?_
  cases here with
  | plain source => rfl
  | item segment source =>
    cases segment with
    | placeholder inner => exact absurd member (unheld inner source)
    | comment => rfl
    | slot name fallback => rfl
    | malformed => rfl

/-- A placeholder that stands for no content is not replaced when slots are filled. -/
theorem contentFor?_eq_none (attributes : Attributes) (content : SlotContent) {inner : List Char}
    (copied : Segment.IsCopied (.placeholder inner)) :
    contentFor? attributes content inner = none := by
  have other : contentNames.any (sameWord · (String.ofList (trim inner))) = false :=
    List.any_eq_false.mpr fun name member => by
      rw [copied name member]
      exact Bool.false_ne_true
  rw [contentFor?]
  exact if_neg (by rw [other]; exact Bool.false_ne_true)

/-- A body all of whose parts are left alone stays as it is. -/
theorem fillSlots_of_copied (attributes : Attributes) (content : SlotContent) {body : List Char}
    (copied : ∀ segment source, .item segment source ∈ bodySegments.stretches body →
      segment.IsCopied) : fillSlots attributes content body = body := by
  have kept : ∀ stretch ∈ bodySegments.stretches body,
      Recogniser.replacement (fillPart attributes content) stretch = stretch.source := by
    intro stretch member
    cases stretch with
    | plain source => rfl
    | item segment source =>
      have alone := copied segment source member
      cases segment with
      | comment => rfl
      | placeholder inner =>
        show (contentFor? attributes content inner).getD source = source
        rw [contentFor?_eq_none attributes content alone, Option.getD_none]
      | slot name fallback => exact absurd alone id
      | malformed => exact absurd alone id
  rw [fillSlots_eq, Recogniser.rewrite, List.flatMap_congr kept]
  exact bodySegments.flatMap_source_stretches body

/-- Placeholder scanning is lossless: the parts of a text make it up, text and comments are kept by
rendering, and each placeholder is exactly one group of braces. -/
theorem scanning_is_lossless (text : List Char) : ScansLosslessly text := by
  have cuts := placeholderSegments.cuts_stretches text
  have whole : sourcesOf (placeholderSegments.stretches text) = text :=
    placeholderSegments.flatMap_source_stretches text
  exact
    { joined := by rw [flatMap_written cuts, whole]
      apart := isChain_of_cuts cuts
      stands := by
        intro before here after split
        rw [split] at cuts
        have onward := cuts.behind
        rw [← List.singleton_append] at onward
        rw [flatMap_written onward.behind]
        exact stands_of_cuts onward
      evaluated := by
        intro attributes before here after split
        rw [split] at cuts whole
        have onward := cuts.behind
        rw [← List.singleton_append] at onward
        have front := cuts.front local_placeholderSegments
        rw [flatMap_written front, flatMap_written onward.behind, ← whole,
          evaluatePlaceholders_of_cuts attributes cuts,
          evaluatePlaceholders_of_cuts attributes front,
          evaluatePlaceholders_of_cuts attributes onward.behind, List.flatMap_append,
          List.flatMap_cons]
      unchanged := by
        intro attributes unheld
        have unchanged := evaluatePlaceholders_of_unheld attributes cuts unheld
        rwa [whole] at unchanged
      copied := fun attributes content copied => fillSlots_of_copied attributes content copied }

-- The opener and the terminator of a comment may share a star, and a brace that nothing closes is
-- text.
example : placeholderSegments.stretches "é\x7b/*/\x7d\x7ba\x7bb\x7d\x7d\x7b".toList =
    [.plain ['é'], .item .comment "\x7b/*/\x7d".toList,
      .item (.placeholder "a\x7bb\x7d".toList) "\x7ba\x7bb\x7d\x7d".toList, .plain ['\x7b']] := by
  cbv

end SceneMarkup.Template
