import SceneMarkup.Scene.Frame

/-!
Contract: what a scene draws.

Owns:
- `DrawCall`, the calls a canvas understands;
- the calls of a scene, in the order in which later ones cover earlier ones.

Does not own: how a canvas draws.
-/

namespace SceneMarkup

inductive DrawCall where
  /-- A rectangle with background, border and corner radius. -/
  | rectangle (bounds : Bounds) (style : Style)
  /-- The ellipse inscribed in the bounds. -/
  | ellipse (bounds : Bounds) (style : Style)
  | text (bounds : Bounds) (text : String) (style : Style)
  | image (bounds : Bounds) (path : String) (style : Style)
  /-- A widget, whose node carries the state to draw. -/
  | widget (bounds : Bounds) (node : Node)
deriving Repr

/-- Whether a container has something of its own to draw: a background, or a coloured border that
is not too thin to see. -/
def Style.showsBox (style : Style) : Bool :=
  style.background.isSome || (style.borderColor.isSome && decide (0 < style.borderWidth))

/-- What a node draws in its bounds. -/
def Node.drawCall? (node : Node) (bounds : Bounds) : Option DrawCall :=
  match node.kind with
  | .container => if node.style.showsBox then some (.rectangle bounds node.style) else none
  | .rectangle | .button => some (.rectangle bounds node.style)
  | .circle => some (.ellipse bounds node.style)
  | .text => some (.text bounds node.text node.style)
  | .image => some (.image bounds node.image node.style)
  | .input | .checkbox | .radioButton | .slider | .dropDown => some (.widget bounds node)

namespace Frame

mutual
/-- What a frame draws: its own call, then those of its children. -/
def paint : Frame → List DrawCall
  | mk _ node bounds children => (node.drawCall? bounds).toList ++ paintAll children

def paintAll : List Frame → List DrawCall
  | [] => []
  | frame :: rest => frame.paint ++ paintAll rest
end

end Frame

def Scene.paint (scene : Scene) : List DrawCall :=
  (scene.frame?.map Frame.paint).getD []

end SceneMarkup
