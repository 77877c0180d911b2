import SceneMarkup.Markup.Element

/-!
Contract: the content that an include hands to the slots of its component.

Owns:
- the split of an include's children into wrapped parts, each for one slot, and the rest;
- the law that the sources of these parts make up the children;
- `SlotContent`, the content for every slot.

Does not own: the slots of a component body.
-/

namespace SceneMarkup.Template

open SceneMarkup.Text SceneMarkup.Markup

/-- A part of an include's children. -/
inductive ChildPart where
  /-- Source that stays in the main content. -/
  | kept (source : List Char)
  /-- A wrapper for a slot, with all its source, and its content. -/
  | wrapped (source : List Char) (slot : String) (content : List Char)
deriving DecidableEq, Repr

def ChildPart.source : ChildPart → List Char
  | kept source => source
  | wrapped source .. => source

/-- The slot that an opening tag is a wrapper for: a template tag with a slot name that is not
empty. -/
def wrappedSlot? (tag : OpeningTag) : Option String :=
  if sameWord tag.name "template" then tag.attributes.nonEmpty? "slot" else none

/-- The parts of a row of pieces. Closed elements are passed over as a whole, so that only wrappers
outside other elements count. -/
def childParts (pieces : List Piece) : List ChildPart :=
  match pieces with
  | [] => []
  | piece :: rest =>
    match piece.mark with
    | .opening tag =>
      match closeOf? tag rest with
      | none => .kept piece.source :: childParts rest
      | some index =>
        match wrappedSlot? tag with
        | some slot =>
          .wrapped (sourceOf (piece :: rest.take (index + 1))) slot (sourceOf (rest.take index))
            :: childParts (rest.drop (index + 1))
        | none =>
          .kept (sourceOf (piece :: rest.take (index + 1))) :: childParts (rest.drop (index + 1))
    | _ => .kept piece.source :: childParts rest
termination_by pieces.length
decreasing_by all_goals simp only [List.length_drop, List.length_cons]; omega

/-- The sources of the parts, in order, make up the source of the pieces. -/
theorem flatMap_source_childParts (pieces : List Piece) :
    (childParts pieces).flatMap ChildPart.source = sourceOf pieces := by
  fun_induction childParts pieces with
  | case1 => rfl
  | case2 piece rest tag marked closed inductionHypothesis =>
    simp [ChildPart.source, inductionHypothesis]
  | case3 piece rest tag marked index closed slot wrapped inductionHypothesis =>
    simp [ChildPart.source, inductionHypothesis]
  | case4 piece rest tag marked index closed wrapped inductionHypothesis =>
    simp [ChildPart.source, inductionHypothesis]
  | case5 piece rest other inductionHypothesis =>
    simp [ChildPart.source, inductionHypothesis]

/-- Content for the slots of a component. -/
structure SlotContent where
  /-- What is not meant for a slot with a name. -/
  main : List Char
  /-- Contents with lower-case slot names, in order. -/
  named : List (String × List Char)
deriving DecidableEq, Repr

namespace SlotContent

/-- The content of children that all lie outside wrappers. -/
def unsplit (children : List Char) : SlotContent := ⟨trim children, []⟩

/-- The content that parts make up: what is kept, without surrounding blanks, and the content of
each wrapper. -/
def ofParts (parts : List ChildPart) : SlotContent where
  main := trim (parts.flatMap fun
    | .kept source => source
    | .wrapped .. => [])
  named := parts.filterMap fun
    | .kept _ => none
    | .wrapped _ slot content => some (slot.toLower, trim content)

/-- The content that an include's children make up. Children in which a tag has no end are not
split. -/
def ofChildren (children : List Char) : SlotContent :=
  match strictPieces children with
  | .error _ => unsplit children
  | .ok pieces => ofParts (childParts pieces)

/-- The contents for a slot name, one after the other. -/
def part (content : SlotContent) (slot : String) : List Char :=
  (content.named.filter fun entry => entry.1 = slot.toLower).flatMap Prod.snd

/-- The content for a slot; no name, or the name `default`, asks for the main content. -/
def forSlot (content : SlotContent) : Option String → List Char
  | none => content.main
  | some slot => if sameWord slot "default" then content.main else content.part slot

end SlotContent

end SceneMarkup.Template
