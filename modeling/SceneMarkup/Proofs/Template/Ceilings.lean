import SceneMarkup.Template.Expansion

/-!
Contract: the expansion of includes stops within its ceilings, and leaves an include behind only
where it reaches one of them.

Owns:
- `Passes`, a row of passes with the number of includes that each of them replaces;
- the law of one pass: it keeps to its budget, and replaces nothing exactly where there is nothing
  to replace;
- the theorem about whole expansions.

Does not own: what replaces an include, and which text one pass leaves alone.
-/

namespace SceneMarkup.Template

open SceneMarkup.Text SceneMarkup.Markup

/-- Whether a piece is the opening tag of an include. -/
def isInclude (piece : Piece) : Bool :=
  match piece.mark with
  | .opening tag => sameWord tag.name "include"
  | _ => false

/-- Whether a source has an include tag in its lenient scan. -/
def HasInclude (source : List Char) : Prop := ∃ piece ∈ lenientPieces source, isInclude piece = true

/-- Passes one after the other, each with the budget that the earlier ones leave and on the text
that they leave. A pass counts the includes it replaces. -/
inductive Passes (library : TemplateLibrary) :
    (replaced : Nat) → List Char → List Nat → List Char → Prop where
  | none (replaced : Nat) (source : List Char) : Passes library replaced source [] source
  | next {replaced count : Nat} {source middle last : List Char} {counts : List Nat}
      (first : pass library (maximalReplacements - replaced) source = (middle, count))
      (rest : Passes library (replaced + count) middle counts last) :
      Passes library replaced source (count :: counts) last

/-- How many includes a row of passes replaces. -/
def total : List Nat → Nat
  | [] => 0
  | count :: rest => count + total rest

/-! ### One pass -/

theorem isInclude_opening {piece : Piece} {tag : OpeningTag} (marked : piece.mark = .opening tag) :
    isInclude piece = sameWord tag.name "include" := by
  simp only [isInclude, marked]

theorem countP_passParts_le (budget : Nat) (pieces : List Piece) :
    (passParts budget pieces).countP PassPart.isReplaced ≤ budget := by
  fun_induction passParts budget pieces with
  | case1 => simp
  | case2 => simp [PassPart.isReplaced]
  | case3 piece rest tag marked named budget index closed inductionHypothesis =>
    simpa [List.countP_cons, PassPart.isReplaced] using inductionHypothesis
  | case4 piece rest tag marked named budget closed inductionHypothesis =>
    simpa [List.countP_cons, PassPart.isReplaced] using inductionHypothesis
  | case5 budget piece rest tag marked named inductionHypothesis =>
    simpa [List.countP_cons, PassPart.isReplaced] using inductionHypothesis
  | case6 budget piece rest other inductionHypothesis =>
    simpa [List.countP_cons, PassPart.isReplaced] using inductionHypothesis

/-- With some budget, a pass passes over exactly the pieces among which no include opens. -/
theorem countP_passParts_eq_zero_iff {budget : Nat} (some : 0 < budget) (pieces : List Piece) :
    (passParts budget pieces).countP PassPart.isReplaced = 0 ↔
      ∀ piece ∈ pieces, isInclude piece = false := by
  fun_induction passParts budget pieces with
  | case1 => simp
  | case2 => exact absurd some (Nat.lt_irrefl 0)
  | case3 piece rest tag marked named budget index closed inductionHypothesis =>
    simp [List.countP_cons, PassPart.isReplaced, isInclude_opening marked, named]
  | case4 piece rest tag marked named budget closed inductionHypothesis =>
    simp [List.countP_cons, PassPart.isReplaced, isInclude_opening marked, named]
  | case5 budget piece rest tag marked named inductionHypothesis =>
    simp [PassPart.isReplaced, isInclude_opening marked, named, inductionHypothesis some]
  | case6 budget piece rest other inductionHypothesis =>
    have plain : isInclude piece = false := by
      unfold isInclude
      split
      · rename_i tag marked
        exact absurd marked (other tag)
      · rfl
    simp [PassPart.isReplaced, plain, inductionHypothesis some]

/-- Parts of which none is replaced read as they stand in the source. -/
theorem flatMap_text_of_countP {library : TemplateLibrary} {parts : List PassPart}
    (nothing : parts.countP PassPart.isReplaced = 0) :
    parts.flatMap (PassPart.text library) = parts.flatMap PassPart.source := by
  rw [List.countP_eq_zero] at nothing
  rw [List.flatMap_def, List.flatMap_def]
  congr 1
  apply List.map_congr_left
  intro part member
  cases part with
  | kept source => rfl
  | replaced found => exact absurd rfl (nothing _ member)

/-- A pass that replaces nothing leaves the source as it is. -/
theorem pass_of_count_eq_zero {library : TemplateLibrary} {budget : Nat} {source : List Char}
    (nothing : (pass library budget source).2 = 0) : pass library budget source = (source, 0) := by
  have kept : (pass library budget source).1 = source := by
    show (passParts budget (lenientPieces source)).flatMap (PassPart.text library) = source
    rw [flatMap_text_of_countP nothing, flatMap_source_passParts]
    exact sourceOf_pieces _ source
  exact Prod.ext kept nothing

theorem not_hasInclude_of_count {library : TemplateLibrary} {budget : Nat}
    {source : List Char} (some : 0 < budget) (nothing : (pass library budget source).2 = 0) :
    ¬ HasInclude source := by
  rintro ⟨piece, member, included⟩
  have plain := (countP_passParts_eq_zero_iff some (lenientPieces source)).mp nothing piece member
  rw [included] at plain
  cases plain

/-! ### All passes -/

/-- A source without includes stays as it is, which one pass finds. -/
theorem expandFrom_of_not_hasInclude (library : TemplateLibrary) (passes : Nat) {replaced : Nat}
    (below : replaced < maximalReplacements) {source : List Char} (plain : ¬ HasInclude source) :
    expandFrom library (passes + 1) replaced source = ⟨source, [0]⟩ := by
  have nothing : (pass library (maximalReplacements - replaced) source).2 = 0 := by
    apply (countP_passParts_eq_zero_iff (Nat.sub_pos_of_lt below) (lenientPieces source)).mpr
    intro piece member
    exact Bool.eq_false_iff.mpr fun included => plain ⟨piece, member, included⟩
  rw [expandFrom, pass_of_count_eq_zero nothing]
  rfl

theorem expansion_of_not_hasInclude (library : TemplateLibrary) {source : List Char}
    (plain : ¬ HasInclude source) : expansion library source = ⟨source, [0]⟩ :=
  expandFrom_of_not_hasInclude library _ (by decide) plain

/-- What the remaining passes do, when the ceiling of replacements has not been reached yet. -/
theorem expandFrom_within (library : TemplateLibrary) (passes replaced : Nat)
    (source : List Char) (below : replaced < maximalReplacements) :
    let run := expandFrom library passes replaced source
    Passes library replaced source run.counts run.text ∧
      run.counts.length ≤ passes ∧ replaced + total run.counts ≤ maximalReplacements ∧
      (¬ HasInclude run.text ∨ replaced + total run.counts = maximalReplacements ∨
        run.counts.length = passes ∧ ∀ count ∈ run.counts, 0 < count) := by
  induction passes generalizing replaced source with
  | zero =>
    refine ⟨.none replaced source, Nat.le_refl 0, Nat.le_of_lt below, Or.inr (Or.inr ⟨rfl, ?_⟩)⟩
    intro count member
    cases member
  | succ passes inductionHypothesis =>
    intro run
    have budget : 0 < maximalReplacements - replaced := by omega
    have within : (pass library (maximalReplacements - replaced) source).2 ≤
        maximalReplacements - replaced := countP_passParts_le _ _
    cases passed : pass library (maximalReplacements - replaced) source with
    | mk next count =>
    rw [passed] at within
    have step : run = if count = 0 then ⟨source, [0]⟩
        else if maximalReplacements ≤ replaced + count then ⟨next, [count]⟩
        else
          let later := expandFrom library passes (replaced + count) next
          ⟨later.text, count :: later.counts⟩ := by
      show expandFrom library (passes + 1) replaced source = _
      rw [expandFrom, passed]
    by_cases nothing : count = 0
    · rw [if_pos nothing] at step
      have idle : (pass library (maximalReplacements - replaced) source).2 = 0 := by
        rw [passed, nothing]
      have kept := pass_of_count_eq_zero idle
      have plain := not_hasInclude_of_count budget idle
      rw [step]
      refine ⟨.next kept (.none _ source), by simp, ?_, Or.inl plain⟩
      simp only [total]
      omega
    rw [if_neg nothing] at step
    by_cases full : maximalReplacements ≤ replaced + count
    · rw [if_pos full] at step
      rw [step]
      refine ⟨.next passed (.none _ next), by simp, ?_, Or.inr (Or.inl ?_)⟩
      · simp only [total]
        omega
      · simp only [total]
        omega
    · rw [if_neg full] at step
      obtain ⟨rest, few, atMost, outcome⟩ :=
        inductionHypothesis (replaced + count) next (Nat.lt_of_not_le full)
      rw [step]
      refine ⟨.next passed rest, by simpa using few, ?_, ?_⟩
      · simp only [total]
        omega
      · simp only [total, List.length_cons, List.forall_mem_cons]
        rcases outcome with plain | reached | ⟨all, positive⟩
        · exact Or.inl plain
        · exact Or.inr (Or.inl (by omega))
        · exact Or.inr (Or.inr ⟨by omega, by omega, positive⟩)

/-- Expansion takes at most the maximal number of passes and replaces at most the maximal number of
includes in all of them. Where it reaches neither ceiling it is complete: no include is left, and
expanding once more changes nothing. -/
theorem expansion_stops_within_ceilings (library : TemplateLibrary) (source : String) :
    let run := expansion library source.toList
    expand library source = String.ofList run.text ∧
      Passes library 0 source.toList run.counts run.text ∧
      run.counts.length ≤ maximalPasses ∧ total run.counts ≤ maximalReplacements ∧
      (¬ HasInclude run.text ∧ expand library (expand library source) = expand library source ∨
        total run.counts = maximalReplacements ∨
        run.counts.length = maximalPasses ∧ ∀ count ∈ run.counts, 0 < count) := by
  intro run
  obtain ⟨passes, few, atMost, outcome⟩ :=
    expandFrom_within library maximalPasses 0 source.toList (by decide)
  rw [Nat.zero_add] at atMost outcome
  refine ⟨rfl, passes, few, atMost, ?_⟩
  rcases outcome with plain | reached | all
  · refine Or.inl ⟨plain, ?_⟩
    have again : expansion library run.text = ⟨run.text, [0]⟩ :=
      expansion_of_not_hasInclude library plain
    show String.ofList (expansion library (String.ofList run.text).toList).text = _
    rw [String.toList_ofList, again]
    rfl
  · exact Or.inr (Or.inl reached)
  · exact Or.inr (Or.inr all)

end SceneMarkup.Template
