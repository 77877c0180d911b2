import SceneMarkup.Proofs.Markup.Comment
import SceneMarkup.Proofs.Markup.Scanning
import SceneMarkup.Template.Expansion

/-!
Contract: the comment that stands in place of an include without a component.

Owns:
- `WholeComment`, text that every reader of markup takes for exactly one comment;
- `HasOddHyphens`, the component names that end their comment early;
- the comments of messages, up to their first terminator;
- the theorem about the comments of all such includes.

Does not own: includes whose component is there.
-/

namespace SceneMarkup.Template

open SceneMarkup.Text SceneMarkup.Markup

/-! ### Statement -/

/-- A tag or a comment that begins in front of a byte position and ends behind it. -/
def ReachesAcross (position : Nat) (piece : Piece) : Prop :=
  piece.mark ≠ .text ∧ piece.start < position ∧ position < piece.span.stop

/-- Among the pieces of a source, a text behind `before` is a comment of its own that begins at
`place`, unless a tag or a comment reaches across that place. -/
def StandsAlone (recovery : Recovery) (before text behind : List Char) (place : Nat)
    (all : List Piece) : Prop :=
  (∃ piece ∈ all, ReachesAcross place piece) ∨
    ∃ front, sourceOf front = before ∧
      all = front ++ ⟨.comment, text, place⟩ :: piecesAt recovery (place + byteCount text) behind

/-- Text that is exactly one comment: it does not end early, and nothing behind it is lost. -/
structure WholeComment (text : List Char) : Prop where
  /-- Wherever a scan arrives at the text, it reads one comment and goes on behind it. -/
  marked : ∀ recovery behind, mark? recovery (text ++ behind) = some (.comment, behind)
  /-- The scans of a component body keep it as one comment, with all placeholders in it. -/
  segmented : ∀ slots behind, segment? slots (text ++ behind) = some (.comment, behind)
  /-- The text of an element loses it and nothing else. -/
  stripped : ∀ behind, withoutComments (text ++ behind) = withoutComments behind
  tokenless : tokenize (String.ofList text) = .ok []
  placed : ∀ recovery before behind, StandsAlone recovery before text behind (byteCount before)
    (pieces recovery (before ++ (text ++ behind)))

/-- The name that an include gives for its component; an include without one counts as giving the
empty name. -/
def componentName (attributes : Attributes) : List Char :=
  ((attributes.nonEmpty? "component").getD "").toList

/-- A `>` right behind an odd number of hyphens, of which there are at least three. -/
def HasOddHyphens (text : List Char) : Prop :=
  ∃ before count behind, before.getLast? ≠ some '-' ∧
    text = before ++ (List.replicate (2 * count + 3) '-' ++ '>' :: behind)

/-! ### Spaced hyphens -/

theorem spaceHyphens_cons {character : Char} {rest : List Char}
    (unpaired : character = '-' → rest.head? ≠ some '-') :
    spaceHyphens (character :: rest) = character :: spaceHyphens rest := by
  rw [spaceHyphens]
  rintro others rfl rfl
  exact unpaired rfl rfl

theorem not_hasOddHyphens_nil : ¬ HasOddHyphens [] := by
  rintro ⟨before, count, behind, _, same⟩
  simp at same

/-- A pair of hyphens in front of a text leaves the parity of the run as it is. -/
theorem hasOddHyphens_pair (rest : List Char) :
    HasOddHyphens ('-' :: '-' :: rest) ↔ ['-', '>'] <+: rest ∨ HasOddHyphens rest := by
  constructor
  · rintro ⟨before, count, behind, unhyphened, same⟩
    match before with
    | [] =>
      rw [List.nil_append, List.replicate_succ, List.replicate_succ, List.cons_append,
        List.cons_append, List.cons.injEq, List.cons.injEq] at same
      obtain ⟨-, -, rfl⟩ := same
      cases count with
      | zero => exact .inl ⟨behind, rfl⟩
      | succ count => exact .inr ⟨[], count, behind, by simp, rfl⟩
    | [first] =>
      obtain ⟨rfl, -⟩ := List.cons.inj same
      exact absurd rfl unhyphened
    | first :: second :: others =>
      rw [List.cons_append, List.cons_append, List.cons.injEq, List.cons.injEq] at same
      obtain ⟨rfl, rfl, rfl⟩ := same
      refine .inr ⟨others, count, behind, ?_, rfl⟩
      cases others with
      | nil => exact absurd rfl unhyphened
      | cons third others => simpa using unhyphened
  · rintro (⟨behind, rfl⟩ | ⟨before, count, behind, unhyphened, rfl⟩)
    · exact ⟨[], 0, behind, by simp, rfl⟩
    · cases before with
      | nil => exact ⟨[], count + 1, behind, by simp, rfl⟩
      | cons first others =>
        exact ⟨'-' :: '-' :: first :: others, count, behind, by simpa using unhyphened, rfl⟩

theorem hasOddHyphens_cons {character : Char} {rest : List Char}
    (unpaired : character = '-' → rest.head? ≠ some '-') :
    HasOddHyphens (character :: rest) ↔ HasOddHyphens rest := by
  constructor
  · rintro ⟨before, count, behind, unhyphened, same⟩
    cases before with
    | nil =>
      obtain ⟨rfl, rfl⟩ := List.cons.inj same
      exact absurd rfl (unpaired rfl)
    | cons first others =>
      obtain ⟨rfl, rfl⟩ := List.cons.inj same
      refine ⟨others, count, behind, ?_, rfl⟩
      cases others with
      | nil => simp
      | cons second others => simpa using unhyphened
  · rintro ⟨before, count, behind, unhyphened, rfl⟩
    refine ⟨character :: before, count, behind, ?_, rfl⟩
    cases before with
    | nil =>
      intro last
      obtain rfl : character = '-' := by simpa using last
      exact unpaired rfl rfl
    | cons first others => simpa using unhyphened

/-- A single hyphen in front of a `>` stays where it is. -/
theorem hyphenEnd_prefix_spaceHyphens_iff (text : List Char) :
    ['-', '>'] <+: spaceHyphens text ↔ ['-', '>'] <+: text := by
  fun_cases spaceHyphens text with
  | case1 rest => simp
  | case2 character rest unpaired =>
    rw [List.cons_prefix_cons, List.cons_prefix_cons]
    refine and_congr_right ?_
    rintro rfl
    cases rest with
    | nil => rfl
    | cons next others =>
      have other : next ≠ '-' := fun same => unpaired others rfl (by rw [same])
      rw [spaceHyphens_cons (fun same => absurd same other), List.cons_prefix_cons,
        List.cons_prefix_cons]
      simp
  | case3 => rfl

/-- Spacing the hyphens of a text leaves a terminator in exactly the texts with an odd run. -/
theorem terminator_infix_spaceHyphens_iff (text : List Char) :
    ['-', '-', '>'] <:+: spaceHyphens text ↔ HasOddHyphens text := by
  fun_induction spaceHyphens text with
  | case1 rest inductionHypothesis =>
    -- Behind a spaced pair, a terminator begins with the last hyphen of the pair or later.
    rw [hasOddHyphens_pair, ← inductionHypothesis, ← hyphenEnd_prefix_spaceHyphens_iff]
    simp [List.infix_cons_iff, List.cons_prefix_cons]
  | case2 character rest unpaired inductionHypothesis =>
    have single : character = '-' → rest.head? ≠ some '-' := by
      rintro rfl begins
      obtain ⟨others, rfl⟩ := List.head?_eq_some_iff.mp begins
      exact unpaired others rfl rfl
    rw [hasOddHyphens_cons single, ← inductionHypothesis, List.infix_cons_iff,
      List.cons_prefix_cons, hyphenEnd_prefix_spaceHyphens_iff]
    refine or_iff_right ?_
    rintro ⟨rfl, behind, rfl⟩
    exact single rfl rfl
  | case3 => simp [not_hasOddHyphens_nil]

instance (text : List Char) : Decidable (HasOddHyphens text) :=
  @decidable_of_iff _ _ (terminator_infix_spaceHyphens_iff text)
    (List.instDecidableIsInfixOfDecidableEq _ _)

/-! ### Messages -/

theorem spaceHyphens_append {plain : List Char} (unhyphened : '-' ∉ plain) (rest : List Char) :
    spaceHyphens (plain ++ rest) = plain ++ spaceHyphens rest := by
  induction plain with
  | nil => rfl
  | cons character plain inductionHypothesis =>
    rw [List.mem_cons, not_or] at unhyphened
    rw [List.cons_append, spaceHyphens_cons (fun same => absurd same.symm unhyphened.1),
      inductionHypothesis unhyphened.2]
    rfl

/-- A run of hyphens does not reach across another character. -/
theorem spaceHyphens_append_cons {character : Char} (other : character ≠ '-')
    (text rest : List Char) :
    spaceHyphens (text ++ character :: rest) =
      spaceHyphens text ++ character :: spaceHyphens rest := by
  fun_induction spaceHyphens text with
  | case1 others inductionHypothesis =>
    rw [List.cons_append, List.cons_append, spaceHyphens, inductionHypothesis]
    rfl
  | case2 first others unpaired inductionHypothesis =>
    rw [List.cons_append, spaceHyphens_cons, inductionHypothesis]
    · rfl
    · rintro rfl begins
      cases others with
      | nil => exact other (Option.some.inj begins)
      | cons next others => exact unpaired others rfl (by rw [Option.some.inj begins])
  | case3 => exact spaceHyphens_cons fun same => absurd same other

/-- The apostrophes around a name keep a terminator from reaching out of it. -/
theorem terminator_infix_notFound (name : String) :
    ['-', '-', '>'] <:+: spaceHyphens (IncludeError.unknownComponent name).message.toList ↔
      ['-', '-', '>'] <:+: spaceHyphens name.toList := by
  have whole : (IncludeError.unknownComponent name).message.toList =
      "Component '".toList ++ (name.toList ++ '\'' :: " not found".toList) := by
    simp [IncludeError.message, String.toList_append]
  have spaced : spaceHyphens (IncludeError.unknownComponent name).message.toList =
      "Component ".toList ++ '\'' :: (spaceHyphens name.toList ++ '\'' :: " not found".toList) := by
    rw [whole, spaceHyphens_append (by decide),
      spaceHyphens_append_cons (show '\'' ≠ '-' by decide)]
    rfl
  rw [spaced]
  constructor
  · intro occurs
    rcases infix_of_infix_append_cons (by decide) occurs with inFront | later
    · exact absurd inFront (by decide +kernel)
    · rcases infix_of_infix_append_cons (by decide) later with inside | behind
      · exact inside
      · exact absurd behind (by decide +kernel)
  · rintro ⟨before, behind, same⟩
    exact ⟨"Component ".toList ++ '\'' :: before, behind ++ '\'' :: " not found".toList, by
      rw [← same]; simp⟩

/-- The message of an include without a component has an odd run where the name has one. -/
theorem hasOddHyphens_message {library : TemplateLibrary} {attributes : Attributes}
    {error : IncludeError} (failed : bodyOf library attributes = .error error) :
    HasOddHyphens error.message.toList ↔ HasOddHyphens (componentName attributes) := by
  rw [← terminator_infix_spaceHyphens_iff, ← terminator_infix_spaceHyphens_iff]
  unfold bodyOf at failed
  split at failed
  · rename_i absent
    cases failed
    rw [componentName, absent]
    decide +kernel
  · rename_i name named
    split at failed
    · cases failed
      rw [componentName, named, Option.getD_some, terminator_infix_notFound]
    · cases failed

/-! ### Whole comments -/

/-- No item begins inside plain text. -/
theorem read_of_unread_append {recovery : Recovery} {plain others behind : List Char}
    (unread : (marks recovery).Unread behind (plain ++ others)) (nonempty : others ≠ []) :
    mark? recovery (others ++ behind) = none := by
  induction plain with
  | nil =>
    obtain ⟨first, rest, rfl⟩ := List.exists_cons_of_ne_nil nonempty
    exact unread.1
  | cons character plain inductionHypothesis => exact inductionHypothesis unread.2

theorem StandsAlone.cons {recovery : Recovery} {before text behind : List Char} {place : Nat}
    {all : List Piece} (alone : StandsAlone recovery before text behind place all)
    (piece : Piece) :
    StandsAlone recovery (piece.source ++ before) text behind place (piece :: all) := by
  rcases alone with ⟨other, member, reaches⟩ | ⟨front, rfl, rfl⟩
  · exact .inl ⟨other, List.mem_cons_of_mem _ member, reaches⟩
  · exact .inr ⟨piece :: front, rfl, rfl⟩

/-- A text that is one comment wherever a scan arrives at it stands alone in every source. -/
theorem standsAlone_of_marked {recovery : Recovery} {text behind : List Char}
    (marked : mark? recovery (text ++ behind) = some (.comment, behind))
    {source before : List Char} (whole : source = before ++ (text ++ behind)) (position : Nat) :
    StandsAlone recovery before text behind (position + byteCount before)
      (piecesAt recovery position source) := by
  induction source using (marks recovery).splitting_induction generalizing before position with
  | nil =>
    have nonempty := (properSuffix_of_mark? marked).length_lt
    have short := congrArg List.length whole
    simp only [List.length_nil, List.length_append] at short nonempty
    omega
  | item source rest mark read inductionHypothesis =>
    have further (middle : List Char) (inFront : before = readPart source rest ++ middle)
        (split : rest = middle ++ (text ++ behind)) := by
      have later := (inductionHypothesis split (position + byteCount (readPart source rest))).cons
        ⟨mark, readPart source rest, position⟩
      rwa [Nat.add_assoc, ← byteCount_append, ← inFront, ← piecesAt_of_mark? read] at later
    have parts := readPart_append (properSuffix_of_mark? read).suffix
    rcases List.append_eq_append_iff.mp (parts.trans whole) with
      ⟨middle, inFront, split⟩ | ⟨middle, across, split⟩
    · exact further middle inFront split
    · by_cases atEnd : middle = []
      · rw [atEnd, List.append_nil] at across
        rw [atEnd, List.nil_append] at split
        exact further [] (by rw [across, List.append_nil]) split.symm
      by_cases here : before = []
      · rw [here, List.nil_append] at whole
        rw [whole] at read
        cases marked.symm.trans read
        rw [here, whole, piecesAt_of_mark? marked, readPart_of_append]
        exact .inr ⟨[], rfl, rfl⟩
      · rw [piecesAt_of_mark? read]
        refine .inl ⟨_, List.mem_cons_self, ne_text_of_mark? read, ?_, ?_⟩
        · have := byteCount_pos here
          show position < position + byteCount before
          omega
        · have := byteCount_pos atEnd
          show position + byteCount before < position + byteCount (readPart source rest)
          rw [across, byteCount_append]
          omega
  | plain plain rest nonempty unread stops inductionHypothesis =>
    have further (middle : List Char) (inFront : before = plain ++ middle)
        (split : rest = middle ++ (text ++ behind)) := by
      have later := (inductionHypothesis split (position + byteCount plain)).cons
        ⟨.text, plain, position⟩
      rwa [Nat.add_assoc, ← byteCount_append, ← inFront,
        ← piecesAt_plain nonempty unread stops] at later
    rcases List.append_eq_append_iff.mp whole with
      ⟨middle, inFront, split⟩ | ⟨middle, across, split⟩
    · exact further middle inFront split
    · by_cases atEnd : middle = []
      · rw [atEnd, List.append_nil] at across
        rw [atEnd, List.nil_append] at split
        exact further [] (by rw [across, List.append_nil]) split.symm
      · rw [across] at unread
        rw [split, read_of_unread_append unread atEnd] at marked
        cases marked

/-! ### Comments of messages -/

/-- Behind the space of an opener, a comment ends with the first terminator. -/
theorem behindTerminator_angled {opener inner : List Char}
    (unended : ¬ ['-', '-', '>'] <:+: opener) (first : ¬ ['-', '-', '>'] <:+: inner ++ ['-', '-'])
    (behind : List Char) :
    CommentForm.angled.behindTerminator (opener ++ ' ' :: (inner ++ ("-->".toList ++ behind))) =
      behind := by
  have absent : ¬ CommentForm.angled.terminator <:+:
      (opener ++ ' ' :: inner) ++ CommentForm.angled.terminator.dropLast := by
    intro occurs
    rw [List.append_assoc] at occurs
    exact (infix_of_infix_append_cons (by decide) occurs).elim unended first
  have cut := cutAt?_eq_some (List.cons_ne_nil _ _) absent behind
  rw [List.append_assoc, List.cons_append] at cut
  rw [CommentForm.behindTerminator]
  exact cut ▸ rfl

/-- A comment whose inner text does not end it is whole. -/
theorem wholeComment_angled {inner : List Char}
    (first : ¬ ['-', '-', '>'] <:+: inner ++ ['-', '-']) :
    WholeComment ("<!-- ".toList ++ (inner ++ "-->".toList)) := by
  have split (behind : List Char) : ("<!-- ".toList ++ (inner ++ "-->".toList)) ++ behind =
      "<!--".toList ++ ' ' :: (inner ++ ("-->".toList ++ behind)) := by
    simp
  have opened (rest : List Char) :
      CommentForm.of? ("<!--".toList ++ ' ' :: rest) = some .angled := rfl
  have commented (behind : List Char) :
      behindComment? (("<!-- ".toList ++ (inner ++ "-->".toList)) ++ behind) = some behind := by
    rw [split, behindComment?, opened, Option.map_some,
      behindTerminator_angled (by decide) first]
  have marked (recovery : Recovery) (behind : List Char) :
      mark? recovery (("<!-- ".toList ++ (inner ++ "-->".toList)) ++ behind) =
        some (.comment, behind) :=
    (MarkRead.comment (commented behind)).mark?_eq
  constructor
  case marked => exact marked
  case segmented =>
    intro slots behind
    unfold segment?
    rw [commented behind]
  case stripped =>
    intro behind
    rw [split]
    refine (withoutComments_of_opened .angled (opened _)).trans (congrArg withoutComments ?_)
    exact behindTerminator_angled (show ¬ ['-', '-', '>'] <:+: [] by decide) first behind
  case tokenless =>
    have read := marked .strict []
    rw [List.append_nil] at read
    exact tokenize_of_mark? read Mark.noConfusion
  case placed =>
    intro recovery before behind
    have alone := standsAlone_of_marked (marked recovery behind) (Eq.refl (before ++ _)) 0
    rwa [Nat.zero_add] at alone

/-- A message without an odd run makes one comment. -/
theorem wholeComment_comment {message : String} (even : ¬ HasOddHyphens message.toList) :
    WholeComment (comment message) := by
  have first : ¬ ['-', '-', '>'] <:+: (spaceHyphens message.toList ++ [' ']) ++ ['-', '-'] := by
    intro occurs
    rw [List.append_assoc] at occurs
    rcases infix_of_infix_append_cons (by decide) occurs with inside | behind
    · exact even ((terminator_infix_spaceHyphens_iff _).mp inside)
    · exact absurd behind (by decide)
  have whole := wholeComment_angled first
  rwa [List.append_assoc, ← List.append_assoc] at whole

/-- A message with an odd run makes a comment that ends there, in front of the rest. -/
theorem exists_early_comment {message : String} (odd : HasOddHyphens message.toList) :
    ∃ early exposed, exposed ≠ [] ∧ comment message = early ++ exposed ∧ WholeComment early := by
  have occurs := (terminator_infix_spaceHyphens_iff _).mpr odd
  cases cut : cutAt? ['-', '-', '>'] (spaceHyphens message.toList) with
  | none => exact absurd occurs (not_infix_of_cutAt?_eq_none cut)
  | some parts =>
    obtain ⟨inner, late⟩ := parts
    have first := not_infix_of_cutAt? cut (List.cons_ne_nil _ _)
    have shown : comment message =
        ("<!-- ".toList ++ (inner ++ "-->".toList)) ++ (late ++ " -->".toList) := by
      -- `rewrite` does not try to evaluate the texts on both sides, as `rw` would.
      unfold comment
      rewrite [eq_append_of_cutAt? cut]
      simp only [List.append_assoc, List.cons_append, List.nil_append]
      rfl
    exact ⟨_, _, by simp, shown, wholeComment_angled first⟩

/-- Every include without a component is replaced by one comment, unless the name that it gives has
an odd run of hyphens in front of a `>`. The comment of such a name ends early, and exposes the rest
of its text. -/
theorem failed_include_is_comment {library : TemplateLibrary} {found : Include}
    {error : IncludeError} (failed : bodyOf library found.attributes = .error error) :
    (¬ HasOddHyphens (componentName found.attributes) →
      WholeComment (found.replacement library)) ∧
    (HasOddHyphens (componentName found.attributes) →
      ∃ early exposed, exposed ≠ [] ∧ found.replacement library = early ++ exposed ∧
        WholeComment early) := by
  have replaced : found.replacement library = comment error.message := by
    rw [Include.replacement, failed]
  rw [replaced, ← hasOddHyphens_message failed]
  exact ⟨wholeComment_comment, exists_early_comment⟩

/-- A name that tries to end the comment, behind an even run of hyphens. -/
theorem failed_include_is_comment_of_even :
    WholeComment (Include.replacement .empty
      ⟨"<include component='a--><box/>'/>".toList, [⟨"component", "a--><box/>"⟩], []⟩) := by
  have named : Attributes.nonEmpty? [⟨"component", "a--><box/>"⟩] "component" =
      some "a--><box/>" := by
    decide +kernel
  have failed : bodyOf .empty [⟨"component", "a--><box/>"⟩] =
      .error (.unknownComponent "a--><box/>") := by
    rw [bodyOf, named]
    rfl
  exact (@failed_include_is_comment _
    ⟨"<include component='a--><box/>'/>".toList, [⟨"component", "a--><box/>"⟩], []⟩ _
    failed).1 (by decide +kernel)

/-- A name with an odd run brings an element into the expanded source. -/
theorem failed_include_exposes_element :
    TemplateLibrary.empty.find? "---><box/>" = none ∧
      expand .empty "<include component=\"---><box/>\"/>" =
        "<!-- Component '- --><box/>' not found -->" ∧
      (tokenize (expand .empty "<include component=\"---><box/>\"/>")).toOption =
        some [⟨.opening ⟨"box", [], true⟩, "<box/>".toList, 21⟩,
          ⟨.text, "' not found -->".toList, 27⟩] := by
  decide +kernel

end SceneMarkup.Template
