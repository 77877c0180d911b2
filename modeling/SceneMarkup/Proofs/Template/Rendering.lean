import SceneMarkup.Proofs.Template.Reading

/-!
Contract: instantiating a component body is compositional.

Owns:
- one step of filling slots, without the bookkeeping of its recursion;
- `WrittenBody.filled`, the text between the two scans;
- the theorem that both scans in turn give the rendering of a body.

Does not own: bodies with tags that have no end, and contents that hold placeholders.
-/

namespace SceneMarkup.Template

open SceneMarkup.Text SceneMarkup.Markup

variable (attributes : Attributes) (content : SlotContent)

/-! ### The two scans as rewritings -/

/-- What filling slots makes of a part. -/
def fillPart : Segment → List Char → List Char
  | .comment, source => source
  | .placeholder inner, source => (contentFor? attributes content inner).getD source
  | .slot name fallback, _ =>
    if content.forSlot name = [] then fillSlots attributes content fallback
    else content.forSlot name
  | .malformed, _ => emptyView

theorem fillSlots_eq (body : List Char) : fillSlots attributes content body =
    bodySegments.rewrite (fillPart attributes content) body := by
  rw [fillSlots, Recogniser.rewrite]
  -- The definition carries the membership of each stretch along, which only its termination needs.
  conv => rhs; rw [← List.attach_map_subtype_val (bodySegments.stretches body), List.flatMap_map]
  congr 1
  funext listed
  obtain ⟨stretch, member⟩ := listed
  cases stretch with
  | plain source => rfl
  | item segment source => cases segment <;> rfl

def evaluatePart : Segment → List Char → List Char
  | .placeholder inner, _ => placeholderValue attributes inner
  | _, source => source

theorem evaluatePlaceholders_eq (text : List Char) : evaluatePlaceholders attributes text =
    placeholderSegments.rewrite (evaluatePart attributes) text := by
  unfold evaluatePlaceholders Recogniser.rewrite
  congr 1
  funext stretch
  cases stretch with
  | plain source => rfl
  | item segment source => cases segment <;> rfl

/-! ### What is given for a slot -/

theorem givenUnder_eq (name : SlotName) :
    givenUnder name.lowered content.named = content.part (String.ofList name.letters) := by
  have spelled (slot : String) :
      slot.toList = name.lowered ↔ slot = (String.ofList name.letters).toLower := by
    rw [← String.toList_inj, toList_toLower, String.toList_ofList]
    rfl
  rw [SlotContent.part]
  induction content.named with
  | nil => rfl
  | cons entry rest inductionHypothesis =>
    obtain ⟨slot, given⟩ := entry
    simp only [givenUnder, List.filter_cons, decide_eq_true_eq, inductionHypothesis, ← spelled]
    split
    · rw [List.flatMap_cons]
    · rfl

/-- The look-up of a slot's content goes by its letters alone. -/
theorem forSlot_eq (name : Option SlotName) :
    content.forSlot (name.map fun written => String.ofList written.letters) =
      givenTo content.main content.named name := by
  cases name with
  | none => rfl
  | some name =>
    have word : "default".toList.map Char.toLower = "default".toList := by decide
    have main : sameWord (String.ofList name.letters) "default" = true ↔
        name.lowered = "default".toList := by
      rw [sameWord_iff, String.toList_ofList, word]
      rfl
    rw [Option.map_some, SlotContent.forSlot, givenTo, givenUnder_eq]
    by_cases lowered : name.lowered = "default".toList
    · rw [if_pos (main.mpr lowered), if_pos lowered]
    · rw [if_neg (mt main.mp lowered), if_neg lowered]

/-! ### First scan -/

/-- A body with its slots filled and its remaining placeholders as they are written. -/
def WrittenBody.filled : WrittenBody → List Char
  | .last text => text.text
  | .comment before remark rest => before.text ++ (remark.text ++ rest.filled)
  | .placeholder before hole rest =>
    before.text ++ ((contentFor? attributes content hole.inner).getD hole.text ++ rest.filled)
  | .emptySlot before name rest => before.text ++ (renderSlot content name [] ++ rest.filled)
  | .slot before name fallback rest =>
    before.text ++ (renderSlot content name fallback.filled ++ rest.filled)

theorem fillSlots_text (before : BodyText) {behind : List Char} (breaks : Breaks behind) :
    fillSlots attributes content (before.text ++ behind) =
      before.text ++ fillSlots attributes content behind := by
  rw [fillSlots_eq, fillSlots_eq,
    Recogniser.rewrite_of_unread _ _ (unread_of_slotless before.inert before.slotless breaks)]

theorem fillSlots_part {part behind : List Char} {segment : Segment}
    (read : segment? true (part ++ behind) = some (segment, behind)) :
    fillSlots attributes content (part ++ behind) =
      fillPart attributes content segment part ++ fillSlots attributes content behind := by
  rw [fillSlots_eq, fillSlots_eq, bodySegments.rewrite_of_read _ read]

theorem fillSlots_nil : fillSlots attributes content [] = [] := by
  rw [fillSlots_eq, Recogniser.rewrite_nil]

/-- The first scan fills every slot of a body, and those in the fallbacks that are shown. -/
theorem fillSlots_body (body : WrittenBody) :
    fillSlots attributes content body.text = body.filled attributes content := by
  induction body with
  | last text =>
    have kept := @fillSlots_text attributes content text [] (fun _ => nofun)
    rwa [List.append_nil, fillSlots_nil, List.append_nil] at kept
  | comment before remark rest inductionHypothesis =>
    rw [WrittenBody.text, fillSlots_text _ _ _ (breaks_comment remark _),
      fillSlots_part _ _ (segment?_comment true remark _), inductionHypothesis]
    rfl
  | placeholder before hole rest inductionHypothesis =>
    rw [WrittenBody.text, fillSlots_text _ _ _ (breaks_placeholder hole _),
      fillSlots_part _ _ (segment?_placeholder true hole _), inductionHypothesis]
    rfl
  | emptySlot before name rest inductionHypothesis =>
    rw [WrittenBody.text, fillSlots_text _ _ _ (breaks_slotTag name _ _),
      fillSlots_part _ _ (segment?_emptySlot name _), inductionHypothesis, fillPart, forSlot_eq,
      fillSlots_nil]
    rfl
  | slot before name fallback rest fallbackHypothesis restHypothesis =>
    rw [WrittenBody.text, fillSlots_text _ _ _ (breaks_slot name _ _),
      fillSlots_part _ _ (segment?_slot name fallback _), restHypothesis, fillPart, forSlot_eq,
      fallbackHypothesis]
    rfl

/-! ### Second scan -/

/-- Everything that a body can show of an include is inert: the main content, the contents for named
slots, and the attributes that stand in for the main content. -/
structure InertContent : Prop where
  main : Inert content.main
  named : ∀ entry ∈ content.named, Inert entry.2
  attributes : ∀ name ∈ contentNames, ∀ value, attributes.value? name = some value →
    Inert value.toList

variable {attributes content}

theorem inert_nil : Inert [] := ⟨List.not_mem_nil, List.not_mem_nil⟩

theorem inert_append {left right : List Char} (leftInert : Inert left) (rightInert : Inert right) :
    Inert (left ++ right) :=
  ⟨List.not_mem_append leftInert.1 rightInert.1, List.not_mem_append leftInert.2 rightInert.2⟩

theorem inert_givenUnder {name : List Char} {named : List (String × List Char)}
    (inert : ∀ entry ∈ named, Inert entry.2) : Inert (givenUnder name named) := by
  induction named with
  | nil => exact inert_nil
  | cons entry rest inductionHypothesis =>
    obtain ⟨first, others⟩ := List.forall_mem_cons.mp inert
    rw [givenUnder]
    split
    · exact inert_append first (inductionHypothesis others)
    · exact inductionHypothesis others

theorem InertContent.givenTo (inert : InertContent attributes content) (name : Option SlotName) :
    Inert (givenTo content.main content.named name) := by
  cases name with
  | none => exact inert.main
  | some name =>
    rw [SceneMarkup.Template.givenTo]
    split
    · exact inert.main
    · exact inert_givenUnder inert.named

/-- Attributes are found under their name in any case. -/
theorem value?_of_sameWord {name other : String} (same : sameWord name other = true) :
    attributes.value? other = attributes.value? name := by
  have lowered : name.toLower = other.toLower := beq_iff_eq.mp same
  simp only [Attributes.value?, sameWord, lowered]

theorem InertContent.contentFor? (inert : InertContent attributes content) {inner shown : List Char}
    (found : contentFor? attributes content inner = some shown) : Inert shown := by
  unfold SceneMarkup.Template.contentFor? at found
  dsimp only at found
  split at found
  · rename_i named
    obtain ⟨name, known, same⟩ := List.any_eq_true.mp named
    cases found
    split
    · rw [value?_of_sameWord same]
      cases value : attributes.value? name with
      | none => exact inert_nil
      | some value' => exact inert.attributes name known value' value
    · exact inert.main
  · cases found

theorem evaluatePlaceholders_inert {text behind : List Char} (inert : Inert text)
    (quiet : behind.head? ≠ some '!') :
    evaluatePlaceholders attributes (text ++ behind) =
      text ++ evaluatePlaceholders attributes behind := by
  rw [evaluatePlaceholders_eq, evaluatePlaceholders_eq,
    Recogniser.rewrite_of_unread _ _ (unread_of_inert inert quiet)]

theorem evaluatePlaceholders_part {part behind : List Char} {segment : Segment}
    (read : segment? false (part ++ behind) = some (segment, behind)) :
    evaluatePlaceholders attributes (part ++ behind) =
      evaluatePart attributes segment part ++ evaluatePlaceholders attributes behind := by
  rw [evaluatePlaceholders_eq, evaluatePlaceholders_eq, placeholderSegments.rewrite_of_read _ read]

/-- A slot shows its fallback or something inert. -/
theorem InertContent.renderSlot (inert : InertContent attributes content) (name : Option SlotName) :
    (∀ fallback, renderSlot content name fallback = fallback) ∨
      ∃ given, Inert given ∧ ∀ fallback, renderSlot content name fallback = given := by
  by_cases empty : SceneMarkup.Template.givenTo content.main content.named name = []
  · exact .inl fun fallback => if_pos empty
  · exact .inr ⟨_, inert.givenTo name, fun fallback => if_neg empty⟩

theorem InertContent.renderSlot_nil (inert : InertContent attributes content)
    (name : Option SlotName) : Inert (SceneMarkup.Template.renderSlot content name []) := by
  rcases inert.renderSlot name with same | ⟨given, shown, same⟩
  · rw [same]
    exact inert_nil
  · rw [same]
    exact shown

theorem render_eq (hole : BodyPlaceholder) : hole.render attributes content =
    (contentFor? attributes content hole.inner).getD (placeholderValue attributes hole.inner) := by
  unfold BodyPlaceholder.render contentFor?
  dsimp only
  split
  · rfl
  · rfl

/-- A body whose slots are filled does not begin with an exclamation mark. -/
theorem quiet_filled (inert : InertContent attributes content) (body : WrittenBody)
    {behind : List Char} (quiet : behind.head? ≠ some '!') :
    (body.filled attributes content ++ behind).head? ≠ some '!' := by
  induction body generalizing behind with
  | last text => exact quiet_append text.inert.2 quiet
  | comment before remark rest inductionHypothesis =>
    rw [WrittenBody.filled, List.append_assoc, List.append_assoc]
    exact quiet_append before.inert.2 (breaks_comment remark _).quiet
  | placeholder before hole rest inductionHypothesis =>
    rw [WrittenBody.filled, List.append_assoc, List.append_assoc]
    refine quiet_append before.inert.2 ?_
    cases found : contentFor? attributes content hole.inner with
    | none => exact (breaks_placeholder hole _).quiet
    | some shown => exact quiet_append (inert.contentFor? found).2 (inductionHypothesis quiet)
  | emptySlot before name rest inductionHypothesis =>
    rw [WrittenBody.filled, List.append_assoc, List.append_assoc]
    exact quiet_append before.inert.2
      (quiet_append (inert.renderSlot_nil name).2 (inductionHypothesis quiet))
  | slot before name fallback rest fallbackHypothesis restHypothesis =>
    rw [WrittenBody.filled, List.append_assoc, List.append_assoc]
    refine quiet_append before.inert.2 ?_
    rcases inert.renderSlot name with same | ⟨given, shown, same⟩
    · rw [same]
      exact fallbackHypothesis (restHypothesis quiet)
    · rw [same]
      exact quiet_append shown.2 (restHypothesis quiet)

/-- The second scan meets the remaining placeholders of a filled body and nothing else. -/
theorem evaluatePlaceholders_filled (inert : InertContent attributes content) (body : WrittenBody)
    {behind : List Char} (quiet : behind.head? ≠ some '!') :
    evaluatePlaceholders attributes (body.filled attributes content ++ behind) =
      body.render attributes content ++ evaluatePlaceholders attributes behind := by
  -- What is shown may end with a `<`, so nothing behind it may begin with the `!` of a comment.
  induction body generalizing behind with
  | last text => exact evaluatePlaceholders_inert text.inert quiet
  | comment before remark rest inductionHypothesis =>
    simp only [WrittenBody.filled, WrittenBody.render, List.append_assoc]
    rw [evaluatePlaceholders_inert before.inert (breaks_comment remark _).quiet,
      evaluatePlaceholders_part (segment?_comment false remark _), inductionHypothesis quiet]
    rfl
  | placeholder before hole rest inductionHypothesis =>
    simp only [WrittenBody.filled, WrittenBody.render, List.append_assoc, render_eq]
    cases found : contentFor? attributes content hole.inner with
    | none =>
      rw [Option.getD_none, Option.getD_none,
        evaluatePlaceholders_inert before.inert (breaks_placeholder hole _).quiet,
        evaluatePlaceholders_part (segment?_placeholder false hole _), inductionHypothesis quiet]
      rfl
    | some shown =>
      have quietRest := quiet_filled inert rest quiet
      have inertShown := inert.contentFor? found
      rw [Option.getD_some, Option.getD_some,
        evaluatePlaceholders_inert before.inert (quiet_append inertShown.2 quietRest),
        evaluatePlaceholders_inert inertShown quietRest, inductionHypothesis quiet]
  | emptySlot before name rest inductionHypothesis =>
    have quietRest := quiet_filled inert rest quiet
    have inertShown := inert.renderSlot_nil name
    simp only [WrittenBody.filled, WrittenBody.render, List.append_assoc]
    rw [evaluatePlaceholders_inert before.inert (quiet_append inertShown.2 quietRest),
      evaluatePlaceholders_inert inertShown quietRest, inductionHypothesis quiet]
  | slot before name fallback rest fallbackHypothesis restHypothesis =>
    have quietRest := quiet_filled inert rest quiet
    simp only [WrittenBody.filled, WrittenBody.render, List.append_assoc]
    rcases inert.renderSlot name with same | ⟨given, shown, same⟩
    · rw [same, same,
        evaluatePlaceholders_inert before.inert (quiet_filled inert fallback quietRest),
        fallbackHypothesis quietRest, restHypothesis quiet]
    · rw [same, same, evaluatePlaceholders_inert before.inert (quiet_append shown.2 quietRest),
        evaluatePlaceholders_inert shown quietRest, restHypothesis quiet]

/-! ### Both scans -/

/-- Instantiating a body is compositional: with inert contents, a body becomes its rendering, part
by part, however deep its slots are nested. -/
theorem instantiate_body (inert : InertContent attributes content) (body : WrittenBody) :
    instantiate body.text attributes content = body.render attributes content := by
  have evaluated := @evaluatePlaceholders_filled attributes content inert body []
    fun begins => nomatch begins
  have nothing : evaluatePlaceholders attributes [] = [] := by
    rw [evaluatePlaceholders_eq, Recogniser.rewrite_nil]
  rw [nothing, List.append_nil, List.append_nil] at evaluated
  rw [instantiate, fillSlots_body, evaluated]

/-- The value of a name alone is that of its attribute. -/
theorem placeholderValue_of_name (name : String) {inner : List Char}
    (lexed : Expression.tokens? inner = some [.name name]) (attributes : Attributes) :
    placeholderValue attributes inner = ((attributes.value? name).getD "").toList := by
  have parsed : Expression.parse inner = .ok (.attributeValue name) := by
    simp [Expression.parse, lexed, Expression.ofTokens, Expression.readExpression,
      Expression.readFallback, Expression.readSum, Expression.readProduct, Expression.readSigned,
      Expression.readOperand, Expression.readProductTail, Expression.readSumTail,
      Expression.readFallbackTail]
  rw [placeholderValue, Expression.evaluate, String.toList_ofList, parsed]
  dsimp only
  rw [Expression.value]
  cases attributes.value? name <;> rfl

theorem placeholderValue_name : placeholderValue [⟨"x", "1"⟩] ['x'] = ['1'] := by
  rw [placeholderValue_of_name "x" (by decide +kernel)]
  decide +kernel

/-- A named slot that nothing fills, with a placeholder and another slot in its fallback, then a
slot that is filled under another case of its letters, a comment and a placeholder for the main
content. -/
theorem instantiate_body_with_nested_fallback :
    instantiate ("A<slot name=\"Item\">b\x7bx\x7d<slot/></slot>" ++
        "<slot name=\"OTHER\">c</slot><!-- n -->\x7b children \x7d").toList
      [⟨"x", "1"⟩] ⟨['M'], [("other", ['O']), ("more", ['P']), ("other", ['Q'])]⟩ =
    "Ab1MOQ<!-- n -->M".toList := by
  have inert : InertContent [⟨"x", "1"⟩]
      ⟨['M'], [("other", ['O']), ("more", ['P']), ("other", ['Q'])]⟩ := by
    constructor
    case main => decide
    case named => decide
    case attributes =>
      intro name known value found
      have absent : ∀ name ∈ contentNames,
          Attributes.value? [⟨"x", "1"⟩] name = none := by decide +kernel
      rw [absent name known] at found
      cases found
  have rendered := instantiate_body inert
    (.slot ⟨['A'], by decide, by decide⟩ (some ⟨['I', 't', 'e', 'm'], by decide, by decide⟩)
      (.placeholder ⟨['b'], by decide, by decide⟩ ⟨['x'], by decide, by decide, by decide⟩
        (.emptySlot ⟨[], by decide, by decide⟩ none (.last ⟨[], by decide, by decide⟩)))
      (.slot ⟨[], by decide, by decide⟩ (some ⟨"OTHER".toList, by decide, by decide⟩)
        (.last ⟨['c'], by decide, by decide⟩)
        (.comment ⟨[], by decide, by decide⟩
          ⟨.angled, ['n'], by decide, by decide, by decide⟩
          (.placeholder ⟨[], by decide, by decide⟩
            ⟨" children ".toList, by decide, by decide, by decide⟩
            (.last ⟨[], by decide, by decide⟩)))))
  have unnamed : contentFor? [⟨"x", "1"⟩]
      ⟨['M'], [("other", ['O']), ("more", ['P']), ("other", ['Q'])]⟩ ['x'] = none := by
    decide +kernel
  refine rendered.trans ?_
  simp only [WrittenBody.render]
  rw [render_eq ⟨['x'], _, _, _⟩, unnamed, Option.getD_none, placeholderValue_name]
  decide +kernel

end SceneMarkup.Template
