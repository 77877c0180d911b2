import SceneMarkup.Expression.Evaluation
import SceneMarkup.Template.Children
import SceneMarkup.Template.Segment

/-!
Contract: a component body made into markup.

Owns:
- the filling of slots, and of the placeholders that stand for the main content;
- the evaluation of all other placeholders;
- `instantiate`, both in turn.

Does not own: which body belongs to an include.
-/

namespace SceneMarkup.Template

open SceneMarkup.Text

/-- Placeholders that stand for the main content. -/
def contentNames : List String := ["content", "children", "navItems"]

/-- What a placeholder for the main content shows: that content, or else the attribute of its
name. -/
def contentFor? (attributes : Attributes) (content : SlotContent) (inner : List Char) :
    Option (List Char) :=
  let name := String.ofList (trim inner)
  if contentNames.any (sameWord · name) then
    some (if content.main = [] then ((attributes.value? name).getD "").toList else content.main)
  else none

/-- What stands for a slot tag without an end. -/
def emptyView : List Char := "<view></view>".toList

/-- A body with its slots filled. A slot that no content is meant for shows its own. -/
def fillSlots (attributes : Attributes) (content : SlotContent) (body : List Char) : List Char :=
  (bodySegments.stretches body).attach.flatMap fun ⟨stretch, member⟩ =>
    match stretch, member with
    | .plain source, _ => source
    | .item .comment source, _ => source
    | .item (.placeholder inner) source, _ => (contentFor? attributes content inner).getD source
    | .item (.slot name fallback) _, _member =>
      if content.forSlot name = [] then fillSlots attributes content fallback
      else content.forSlot name
    | .item .malformed _, _ => emptyView
termination_by body.length
decreasing_by exact length_fallback_lt_of_mem _member

/-- The value of a placeholder; nothing where it has none. -/
def placeholderValue (attributes : Attributes) (inner : List Char) : List Char :=
  match Expression.evaluate (String.ofList inner) attributes with
  | .ok value => value.toList
  | .error _ => []

def evaluatePlaceholders (attributes : Attributes) (text : List Char) : List Char :=
  (placeholderSegments.stretches text).flatMap fun
    | .item (.placeholder inner) _ => placeholderValue attributes inner
    | stretch => stretch.source

/-- The markup that a body makes with the attributes and the content of an include. -/
def instantiate (body : List Char) (attributes : Attributes) (content : SlotContent) : List Char :=
  evaluatePlaceholders attributes (fillSlots attributes content body)

end SceneMarkup.Template
