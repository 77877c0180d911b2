import SceneMarkup.Template.Instance
import SceneMarkup.Template.Library

/-!
Contract: includes replaced by the components they name.

Owns:
- the replacement of one include, which for a component that is not there is a comment;
- one pass over a source, which replaces the includes outside other includes;
- the law that the parts of a pass make up the source;
- `expansion`, the passes until nothing is left to replace or a limit is reached, and `expand`,
  the source they leave.

Does not own: the making of markup from one body.
-/

namespace SceneMarkup.Template

open SceneMarkup.Text SceneMarkup.Markup

def maximalPasses : Nat := 10

/-- How many includes are replaced at most, over all passes. -/
def maximalReplacements : Nat := 100

/-- Why an include makes no markup. -/
inductive IncludeError where
  | noComponent
  | unknownComponent (name : String)
deriving DecidableEq, Repr

def IncludeError.message : IncludeError → String
  | noComponent => "include without a component attribute"
  | unknownComponent name => "Component '" ++ name ++ "' not found"

/-- A text with a space between the hyphens of each pair, taken from the left. -/
def spaceHyphens : List Char → List Char
  | '-' :: '-' :: rest => '-' :: ' ' :: '-' :: spaceHyphens rest
  | character :: rest => character :: spaceHyphens rest
  | [] => []

/-- A message as a comment. -/
def comment (message : String) : List Char :=
  "<!-- ".toList ++ spaceHyphens message.toList ++ " -->".toList

/-- The body that an include names. -/
def bodyOf (library : TemplateLibrary) (attributes : Attributes) : Except IncludeError String :=
  match attributes.nonEmpty? "component" with
  | none => .error .noComponent
  | some name =>
    match library.find? name with
    | none => .error (.unknownComponent name)
    | some body => .ok body

structure Include where
  /-- All of it, from the opening tag to the closing tag where there is one. -/
  source : List Char
  attributes : Attributes
  /-- What stands between the tags. -/
  children : List Char
deriving DecidableEq, Repr

/-- What replaces an include. -/
def Include.replacement (library : TemplateLibrary) (found : Include) : List Char :=
  match bodyOf library found.attributes with
  | .ok body => instantiate body.toList found.attributes (.ofChildren found.children)
  | .error error => comment error.message

/-- A part of a source in one pass. -/
inductive PassPart where
  | kept (source : List Char)
  | replaced (found : Include)
deriving DecidableEq, Repr

namespace PassPart

/-- The text that a part comes from. -/
def source : PassPart → List Char
  | kept source => source
  | replaced found => found.source

def text (library : TemplateLibrary) : PassPart → List Char
  | kept source => source
  | replaced found => found.replacement library

/-- Whether the part is an include to be replaced. -/
def isReplaced : PassPart → Bool
  | kept _ => false
  | replaced _ => true

end PassPart

/-- The parts of a source in a pass that may replace `budget` includes. An include reaches to its
closing tag, or has no children where there is none; includes among its children are left for the
next pass. -/
def passParts (budget : Nat) (pieces : List Piece) : List PassPart :=
  match pieces with
  | [] => []
  | piece :: rest =>
    match piece.mark with
    | .opening tag =>
      if sameWord tag.name "include" then
        match budget with
        | 0 => [.kept (sourceOf (piece :: rest))]
        | budget + 1 =>
          match closeOf? tag rest with
          | some index =>
            .replaced ⟨sourceOf (piece :: rest.take (index + 1)), tag.attributes,
                sourceOf (rest.take index)⟩
              :: passParts budget (rest.drop (index + 1))
          | none => .replaced ⟨piece.source, tag.attributes, []⟩ :: passParts budget rest
      else .kept piece.source :: passParts budget rest
    | _ => .kept piece.source :: passParts budget rest
termination_by pieces.length
decreasing_by all_goals simp only [List.length_drop, List.length_cons]; omega

/-- The sources of the parts, in order, make up the source of the pieces. -/
theorem flatMap_source_passParts (budget : Nat) (pieces : List Piece) :
    (passParts budget pieces).flatMap PassPart.source = sourceOf pieces := by
  fun_induction passParts budget pieces with
  | case1 => rfl
  | case2 piece rest => simp [PassPart.source]
  | case3 piece rest tag marked named budget index closed inductionHypothesis =>
    simp [PassPart.source, inductionHypothesis]
  | case4 piece rest tag marked named budget closed inductionHypothesis =>
    simp [PassPart.source, inductionHypothesis]
  | case5 budget piece rest tag marked named inductionHypothesis =>
    simp [PassPart.source, inductionHypothesis]
  | case6 budget piece rest other inductionHypothesis =>
    simp [PassPart.source, inductionHypothesis]

/-- One pass over a source: the new source and how many includes it replaced. -/
def pass (library : TemplateLibrary) (budget : Nat) (source : List Char) : List Char × Nat :=
  let parts := passParts budget (lenientPieces source)
  (parts.flatMap (PassPart.text library), parts.countP PassPart.isReplaced)

/-- A source after some passes. -/
structure Expansion where
  text : List Char
  /-- How many includes each pass replaced, in order. -/
  counts : List Nat
deriving DecidableEq, Repr

/-- Up to `passes` more passes, when `replaced` includes have been replaced before. A pass that
replaces nothing is the last one, and so is the pass that reaches the limit. -/
def expandFrom (library : TemplateLibrary) : (passes replaced : Nat) → List Char → Expansion
  | 0, _, source => ⟨source, []⟩
  | passes + 1, replaced, source =>
    let (next, count) := pass library (maximalReplacements - replaced) source
    if count = 0 then ⟨source, [0]⟩
    else if maximalReplacements ≤ replaced + count then ⟨next, [count]⟩
    else
      let later := expandFrom library passes (replaced + count) next
      ⟨later.text, count :: later.counts⟩

/-- All passes over a source. -/
def expansion (library : TemplateLibrary) (source : List Char) : Expansion :=
  expandFrom library maximalPasses 0 source

def expand (library : TemplateLibrary) (source : String) : String :=
  String.ofList (expansion library source.toList).text

end SceneMarkup.Template
