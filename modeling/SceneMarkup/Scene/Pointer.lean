import SceneMarkup.Scene.Frame

/-!
Contract: pointer input.

Owns:
- the topmost node under a point at which pointer input stops;
- the click handler that a point reaches.

Does not own: the running of handlers, which are names.
-/

namespace SceneMarkup

namespace Frame

mutual
/-- The topmost target of a frame under a point. Children lie above their parent and later
siblings above earlier ones; a child counts also where it sticks out of its parent. -/
def target? (x y : Float32) : Frame → Option Node
  | mk _ node bounds children =>
    (targetIn? x y children).or
      (if node.acceptsPointer && bounds.contains x y then some node else none)

/-- The topmost target of several frames, the last of which lies on top. -/
def targetIn? (x y : Float32) : List Frame → Option Node
  | [] => none
  | frame :: rest => (targetIn? x y rest).or (frame.target? x y)
end

end Frame

namespace Scene

/-- The id of the topmost target under a point. -/
def hit? (scene : Scene) (x y : Float32) : Option NodeId :=
  scene.frame?.bind fun frame => (frame.target? x y).map Node.id

/-- The id of the topmost target under a point with the click handler of the node last added under
that id, if there is such a node and it has a handler. -/
def click? (scene : Scene) (x y : Float32) : Option (NodeId × String) := do
  let id ← scene.hit? x y
  let node ← scene.nodeOf? id
  return (id, ← node.handlers.onClick)

end Scene

end SceneMarkup
