import SceneMarkup.Proofs.Number.Equality
import SceneMarkup.Proofs.Scene.Entry

/-!
Contract: what the literal of a node tells of the node.

Owns:
- the quantities of a node, and the node without those that only sliders use;
- the entries of a node, which make up the members of its literal;
- the theorem that the entries of a settled node are restored, and that they make the node again.

Does not own: the children of nodes and the text of literals.
-/

namespace SceneMarkup

open SceneMarkup.Text SceneMarkup.Json SceneMarkup.Number

def Node.quantities (node : Node) : List Float32 :=
  [node.x, node.y, node.width, node.height, node.style.borderWidth, node.style.cornerRadius,
    node.style.fontSize, node.layout.margin, node.layout.padding, node.state.min,
    node.state.current, node.state.max]

/-- The state of a widget of a kind without the numbers that only sliders use. -/
def WidgetState.withoutIdleNumbers (kind : Kind) (state : WidgetState) : WidgetState :=
  if kind = .slider then state else { state with min := 0, current := 0, max := 100 }

def Node.withoutIdleNumbers (node : Node) : Node :=
  { node with state := node.state.withoutIdleNumbers node.kind }

namespace Emission

/-! ### The entries of a node -/

section Entries

variable (node : Node) (kind : Kind)

def identityEntries : List Entry :=
  [⟨"id", .id, some (.string node.id.name), .id node.id⟩,
    .ofNumber "x" .x true node.x, .ofNumber "y" .y true node.y,
    .ofSize "width" node.kind .width true node.width,
    .ofSize "height" node.kind .height true node.height]

def styleEntries (style : Style) : List Entry :=
  [.ofColor "background" .background style.background,
    .ofColor "borderColor" .borderColor style.borderColor,
    .ofSize "borderWidth" kind .borderWidth (style.borderWidth != 0) style.borderWidth,
    .ofSize "cornerRadius" kind .cornerRadius (style.cornerRadius != 0) style.cornerRadius,
    .ofColor "fill" .fill style.fill,
    .ofColor "color" .textColor style.textColor,
    .ofSize "fontSize" kind .fontSize (style.fontSize != defaultFontSize) style.fontSize]

def contentEntries : List Entry :=
  [.ofText "text" (.text .text) .text (node.text != "") node.text,
    .ofText "src" (.path .image) .image (node.image != "") node.image]

def layoutEntries (layout : LayoutHints) : List Entry :=
  [.ofFlag "visible" .visible layout.visible,
    .ofAlignment "align" .align layout.align,
    .ofAlignment "justify" .justify layout.justify,
    .ofNumber "margin" .margin (layout.margin != 0) layout.margin,
    .ofNumber "padding" .padding (layout.padding != 0) layout.padding]

def stateEntries (state : WidgetState) : List Entry :=
  [.ofText "value" .value .value (kind != .slider && state.value != "") state.value,
    .ofText "placeholder" (.text .placeholder) .placeholder (state.placeholder != "")
      state.placeholder,
    .ofFlag "checked" .checked state.checked,
    .ofFlag "selected" .selected state.selected,
    .ofName "group" .group state.group,
    .ofNumber "min" .min (kind == .slider && state.min != 0) state.min,
    .ofNumber "current" .current (kind == .slider && state.current != 0) state.current,
    .ofNumber "max" .max (kind == .slider && state.max != 100) state.max]

def handlerEntries (handlers : Handlers) : List Entry :=
  [.ofName "onClick" .onClick handlers.onClick,
    .ofName "onHover" .onHover handlers.onHover,
    .ofName "onFocus" .onFocus handlers.onFocus,
    .ofName "onChange" .onChange handlers.onChange,
    .ofName "onBlur" .onBlur handlers.onBlur]

/-- The entries of a node, in the order of its literal. -/
def nodeEntries : List Entry :=
  identityEntries node ++ styleEntries node.kind node.style ++ contentEntries node
    ++ layoutEntries node.layout ++ stateEntries node.kind node.state
    ++ handlerEntries node.handlers

end Entries

theorem styleMembers_eq (kind : Kind) (style : Style) :
    styleMembers style = (styleEntries kind style).flatMap Entry.members := by
  simp only [styleMembers, styleEntries, numberMember, List.flatMap_cons, List.flatMap_nil,
    Entry.members_ofColor, Entry.members_ofSize, List.append_assoc, List.append_nil]

theorem layoutMembers_eq (layout : LayoutHints) :
    layoutMembers layout = (layoutEntries layout).flatMap Entry.members := by
  simp only [layoutMembers, layoutEntries, numberMember, List.flatMap_cons, List.flatMap_nil,
    Entry.members_ofFlag, Entry.members_ofAlignment, Entry.members_ofNumber, List.append_assoc,
    List.append_nil]
  rfl

theorem stateMembers_eq (kind : Kind) (state : WidgetState) :
    stateMembers kind state = (stateEntries kind state).flatMap Entry.members := by
  simp only [stateMembers, stateEntries, numberMember, textMember, List.flatMap_cons,
    List.flatMap_nil, Entry.members_ofText, Entry.members_ofFlag, Entry.members_ofName,
    Entry.members_ofNumber, List.append_assoc, List.append_nil]
  by_cases slider : kind = .slider
  · subst slider
    rfl
  · have shown : (kind != .slider) = true := bne_iff_ne.mpr slider
    have hidden : (kind == .slider) = false := beq_eq_false_iff_ne.mpr slider
    rw [if_neg slider, if_neg slider, shown, hidden]
    rfl

theorem handlerMembers_eq (handlers : Handlers) :
    handlerMembers handlers = (handlerEntries handlers).flatMap Entry.members := by
  simp only [handlerMembers, handlerEntries, List.flatMap_cons, List.flatMap_nil,
    Entry.members_ofName, List.append_assoc, List.append_nil]

/-- The literal of a node consists of its type and of what its entries write. -/
theorem nodeMembers_eq (node : Node) :
    nodeMembers node =
      ("type", .string node.kind.name) :: (nodeEntries node).flatMap Entry.members := by
  have identity : identityMembers node =
      ("type", .string node.kind.name) :: (identityEntries node).flatMap Entry.members := rfl
  have content : textMember "text" node.text ++ textMember "src" node.image =
      (contentEntries node).flatMap Entry.members := by
    simp only [contentEntries, textMember, List.flatMap_cons, List.flatMap_nil,
      Entry.members_ofText, List.append_nil]
  rw [nodeMembers, nodeEntries, identity, styleMembers_eq node.kind, layoutMembers_eq,
    stateMembers_eq, handlerMembers_eq]
  simp only [List.flatMap_append, ← content, List.cons_append, List.append_assoc]

/-- Every entry with the property its key asks for and the field it stands for. -/
def entryTable : List (String × Property × Field) := [
  ("id", .id, .id), ("x", .number .x, .number .x), ("y", .number .y, .number .y),
  ("width", .size .width, .size .width), ("height", .size .height, .size .height),
  ("background", .color .background, .color .background),
  ("borderColor", .color .borderColor, .color .borderColor),
  ("borderWidth", .size .borderWidth, .size .borderWidth),
  ("cornerRadius", .size .cornerRadius, .size .cornerRadius),
  ("fill", .color .fill, .color .fill), ("color", .color .textColor, .color .textColor),
  ("fontSize", .size .fontSize, .size .fontSize),
  ("text", .text .text, .text .text), ("src", .path .image, .text .image),
  ("visible", .flag .visible false, .flag .visible),
  ("align", .alignment .align, .alignment .align),
  ("justify", .alignment .justify, .alignment .justify),
  ("margin", .number .margin, .number .margin), ("padding", .number .padding, .number .padding),
  ("value", .value, .text .value), ("placeholder", .text .placeholder, .text .placeholder),
  ("checked", .flag .checked false, .flag .checked),
  ("selected", .flag .selected false, .flag .selected),
  ("group", .name .group, .name .group), ("min", .number .min, .number .min),
  ("current", .number .current, .number .current), ("max", .number .max, .number .max),
  ("onClick", .name .onClick, .name .onClick), ("onHover", .name .onHover, .name .onHover),
  ("onFocus", .name .onFocus, .name .onFocus), ("onChange", .name .onChange, .name .onChange),
  ("onBlur", .name .onBlur, .name .onBlur)]

theorem table_nodeEntries (node : Node) :
    (nodeEntries node).map (fun entry => (entry.key, entry.property, entry.made.field)) =
      entryTable := rfl

section Table

variable {node : Node}

theorem keys_nodup : ((nodeEntries node).map Entry.key).Nodup := by
  have keys : (nodeEntries node).map Entry.key = entryTable.map Prod.fst := rfl
  rw [keys]
  decide

theorem fields_nodup : ((nodeEntries node).map fun entry => entry.made.field).Nodup := by
  have fields : (nodeEntries node).map (fun entry => entry.made.field) =
      entryTable.map fun row => row.2.2 := rfl
  rw [fields]
  decide

/-- The keys of a node's entries are names of attributes, and of their properties. -/
theorem asked_nodeEntries : ∀ entry ∈ nodeEntries node,
    Property.ofName? entry.key = some entry.property ∧
      canonicalName entry.key ∉ Literal.structuralNames := by
  have known : ∀ row ∈ entryTable, Property.ofName? row.1 = some row.2.1 ∧
      canonicalName row.1 ∉ Literal.structuralNames := by decide
  intro entry member
  apply known (entry.key, entry.property, entry.made.field)
  rw [← table_nodeEntries node]
  exact List.mem_map_of_mem member

end Table

/-! ### Legibility -/

section Legibility

theorem membersLegible_append {front back : List (String × Draft)} :
    Draft.MembersLegible (front ++ back) ↔
      Draft.MembersLegible front ∧ Draft.MembersLegible back := by
  rw [Draft.membersLegible_iff, Draft.membersLegible_iff, Draft.membersLegible_iff,
    List.forall_mem_append]

variable {key : String} {condition : Bool}

theorem membersLegible_memberIf {draft : Draft} (legible : draft.Legible) :
    Draft.MembersLegible (memberIf condition key draft) := by
  cases condition with
  | false => exact trivial
  | true => exact ⟨legible, trivial⟩

theorem membersLegible_numberMember {value default : Float32}
    (legible : Draft.LegibleNumber value) :
    Draft.MembersLegible (numberMember key value default) :=
  membersLegible_memberIf legible

theorem membersLegible_textMember {text : String} :
    Draft.MembersLegible (textMember key text) := by
  have legible : (Draft.string text).Legible := trivial
  exact membersLegible_memberIf legible

theorem membersLegible_flagMember {value default : Bool} :
    Draft.MembersLegible (flagMember key value default) := by
  have legible : (Draft.boolean value).Legible := trivial
  exact membersLegible_memberIf legible

theorem membersLegible_alignmentMember {alignment : Alignment} :
    Draft.MembersLegible (alignmentMember key alignment) := by
  have legible : (Draft.string alignment.name).Legible := trivial
  exact membersLegible_memberIf legible

theorem membersLegible_colorMember {color : Option Color} :
    Draft.MembersLegible (colorMember key color) := by
  cases color with
  | none => exact trivial
  | some color => exact ⟨trivial, trivial⟩

theorem membersLegible_nameMember {name : Option String} :
    Draft.MembersLegible (nameMember key name) := by
  cases name with
  | none => exact trivial
  | some name => exact ⟨trivial, trivial⟩

/-- The literal of a node is legible when its quantities are. -/
theorem membersLegible_nodeMembers {node : Node}
    (legible : ∀ quantity ∈ node.quantities, Draft.LegibleNumber quantity) :
    Draft.MembersLegible (nodeMembers node) := by
  simp only [Node.quantities, List.forall_mem_cons] at legible
  obtain ⟨x, y, width, height, borderWidth, cornerRadius, fontSize, margin, padding, min, current,
    max, _⟩ := legible
  have identity : Draft.MembersLegible (identityMembers node) :=
    ⟨trivial, trivial, x, y, width, height, trivial⟩
  have style : Draft.MembersLegible (styleMembers node.style) := by
    simp only [styleMembers, membersLegible_append]
    exact ⟨⟨⟨⟨⟨⟨membersLegible_colorMember, membersLegible_colorMember⟩,
      membersLegible_numberMember borderWidth⟩, membersLegible_numberMember cornerRadius⟩,
      membersLegible_colorMember⟩, membersLegible_colorMember⟩,
      membersLegible_numberMember fontSize⟩
  have layout : Draft.MembersLegible (layoutMembers node.layout) := by
    simp only [layoutMembers, membersLegible_append]
    exact ⟨⟨⟨⟨membersLegible_flagMember, membersLegible_alignmentMember⟩,
      membersLegible_alignmentMember⟩, membersLegible_numberMember margin⟩,
      membersLegible_numberMember padding⟩
  have state : Draft.MembersLegible (stateMembers node.kind node.state) := by
    simp only [stateMembers, membersLegible_append]
    refine ⟨⟨⟨⟨⟨?_, membersLegible_textMember⟩, membersLegible_flagMember⟩,
      membersLegible_flagMember⟩, membersLegible_nameMember⟩, ?_⟩
    · split
      · exact trivial
      · exact membersLegible_textMember
    · split
      · simp only [membersLegible_append]
        exact ⟨⟨membersLegible_numberMember min, membersLegible_numberMember current⟩,
          membersLegible_numberMember max⟩
      · exact trivial
  have handlers : Draft.MembersLegible (handlerMembers node.handlers) := by
    simp only [handlerMembers, membersLegible_append]
    exact ⟨⟨⟨⟨membersLegible_nameMember, membersLegible_nameMember⟩, membersLegible_nameMember⟩,
      membersLegible_nameMember⟩, membersLegible_nameMember⟩
  simp only [nodeMembers, membersLegible_append]
  exact ⟨⟨⟨⟨⟨⟨identity, style⟩, membersLegible_textMember⟩, membersLegible_textMember⟩, layout⟩,
    state⟩, handlers⟩

end Legibility

/-! ### The node again -/

section Restoring

variable {id : NodeId} {kind : Kind}

theorem restores_identityEntries {node : Node} (settled : node.Settled)
    (x : Recoverable node.x) (y : Recoverable node.y) (width : Recoverable node.width)
    (height : Recoverable node.height) :
    ∀ entry ∈ identityEntries node, entry.Restores (Node.ofKind id node.kind) := by
  have name : (⟨"id", .id, some (.string node.id.name), .id node.id⟩ : Entry).Restores
      (Node.ofKind id node.kind) := by
    apply Entry.restores_of_string rfl
    rw [Binding.read, settled.id]
    rfl
  simp only [identityEntries, List.forall_mem_cons]
  exact ⟨name, Entry.restores_ofNumber x, Entry.restores_ofNumber y, Entry.restores_ofSize width,
    Entry.restores_ofSize height, List.forall_mem_nil _⟩

theorem restores_styleEntries {style : Style} (borderWidth : Recoverable style.borderWidth)
    (cornerRadius : Recoverable style.cornerRadius) (fontSize : Recoverable style.fontSize) :
    ∀ entry ∈ styleEntries kind style, entry.Restores (Node.ofKind id kind) := by
  simp only [styleEntries, List.forall_mem_cons]
  exact ⟨Entry.restores_ofColor, Entry.restores_ofColor, Entry.restores_ofSize borderWidth,
    Entry.restores_ofSize cornerRadius, Entry.restores_ofColor, Entry.restores_ofColor,
    Entry.restores_ofSize fontSize, List.forall_mem_nil _⟩

theorem restores_contentEntries {node : Node} (settled : node.Settled) :
    ∀ entry ∈ contentEntries node, entry.Restores (Node.ofKind id node.kind) := by
  simp only [contentEntries, List.forall_mem_cons]
  refine ⟨Entry.restores_ofText fun _ => rfl, Entry.restores_ofText fun _ => ?_,
    List.forall_mem_nil _⟩
  rw [Binding.read, settled.image]

theorem restores_layoutEntries {layout : LayoutHints} (margin : Recoverable layout.margin)
    (padding : Recoverable layout.padding) :
    ∀ entry ∈ layoutEntries layout, entry.Restores (Node.ofKind id kind) := by
  simp only [layoutEntries, List.forall_mem_cons]
  exact ⟨Entry.restores_ofFlag, Entry.restores_ofAlignment, Entry.restores_ofAlignment,
    Entry.restores_ofNumber margin, Entry.restores_ofNumber padding, List.forall_mem_nil _⟩

theorem restores_stateEntries {state : WidgetState} (group : SettledName state.group)
    (min : Recoverable state.min) (current : Recoverable state.current)
    (max : Recoverable state.max) :
    ∀ entry ∈ stateEntries kind state, entry.Restores (Node.ofKind id kind) := by
  simp only [stateEntries, List.forall_mem_cons]
  refine ⟨Entry.restores_ofText fun shown => ?_, Entry.restores_ofText fun _ => rfl,
    Entry.restores_ofFlag, Entry.restores_ofFlag, Entry.restores_ofName group,
    Entry.restores_ofNumber min, Entry.restores_ofNumber current, Entry.restores_ofNumber max,
    List.forall_mem_nil _⟩
  have other : kind ≠ .slider := bne_iff_ne.mp (Bool.and_eq_true_iff.mp shown).1
  rw [Binding.read, if_neg other]

theorem restores_handlerEntries {node : Node} (settled : node.Settled) :
    ∀ entry ∈ handlerEntries node.handlers, entry.Restores (Node.ofKind id kind) := by
  simp only [handlerEntries, List.forall_mem_cons]
  exact ⟨Entry.restores_ofName (settled.names .onClick),
    Entry.restores_ofName (settled.names .onHover), Entry.restores_ofName (settled.names .onFocus),
    Entry.restores_ofName (settled.names .onChange), Entry.restores_ofName (settled.names .onBlur),
    List.forall_mem_nil _⟩

/-- All entries of a settled node are restored on a blank node of its kind. -/
theorem restores_nodeEntries {node : Node} (settled : node.Settled)
    (recoverable : ∀ quantity ∈ node.quantities, Recoverable quantity) (id : NodeId) :
    ∀ entry ∈ nodeEntries node, entry.Restores (Node.ofKind id node.kind) := by
  simp only [Node.quantities, List.forall_mem_cons] at recoverable
  obtain ⟨x, y, width, height, borderWidth, cornerRadius, fontSize, margin, padding, min, current,
    max, _⟩ := recoverable
  simp only [nodeEntries, List.forall_mem_append]
  exact ⟨⟨⟨⟨⟨restores_identityEntries settled x y width height,
    restores_styleEntries borderWidth cornerRadius fontSize⟩, restores_contentEntries settled⟩,
    restores_layoutEntries margin padding⟩,
    restores_stateEntries (settled.names .group) min current max⟩, restores_handlerEntries settled⟩

/-- A number, or the default that it is equal to. -/
def kept (value default : Float32) : Float32 := if value != default then value else default

theorem kept_beq {value : Float32} (recoverable : Recoverable value) (default : Float32) :
    (kept value default == value) = true := by
  by_cases other : (value != default) = true
  · rw [kept, if_pos other]
    exact beq_self_of_isFiniteNumber recoverable.finite
  · rw [bne, Bool.not_eq_true, Bool.not_eq_false'] at other
    rw [kept, bne, other, BEq.comm]
    exact other

theorem clampedSize_kept {value default : Float32} (size : clampedSize value = value)
    (defaultSize : clampedSize default = default) :
    clampedSize (kept value default) = kept value default := by
  unfold kept
  split
  · exact size
  · exact defaultSize

theorem kept_text (text : String) : (if text != "" then text else "") = text := by
  by_cases shown : (text != "") = true
  · rw [if_pos shown]
  · have empty : text = "" := by simpa using shown
    rw [if_neg shown, empty]

def restoredStyle (style : Style) : Style :=
  { style with
    borderWidth := clampedSize (kept style.borderWidth 0)
    cornerRadius := clampedSize (kept style.cornerRadius 0)
    fontSize := clampedSize (kept style.fontSize defaultFontSize) }

def restoredLayout (layout : LayoutHints) : LayoutHints :=
  { layout with margin := kept layout.margin 0, padding := kept layout.padding 0 }

def restoredState (kind : Kind) (state : WidgetState) : WidgetState :=
  { state with
    value := if kind != .slider && state.value != "" then state.value else ""
    placeholder := if state.placeholder != "" then state.placeholder else ""
    min := if kind == .slider && state.min != 0 then state.min else 0
    current := if kind == .slider && state.current != 0 then state.current else 0
    max := if kind == .slider && state.max != 100 then state.max else 100 }

/-- The node that the entries of a node make of a blank one. -/
def restoredNode (node : Node) : Node :=
  { node with
    width := clampedSize node.width
    height := clampedSize node.height
    style := restoredStyle node.style
    text := if node.text != "" then node.text else ""
    image := if node.image != "" then node.image else ""
    layout := restoredLayout node.layout
    state := restoredState node.kind node.state }

theorem assignAll_made (node : Node) (id : NodeId) :
    (Node.ofKind id node.kind).assignAll ((nodeEntries node).map Entry.made) =
      restoredNode node := by
  -- The assignments are carried out one after the other; all at once they are too many for `rfl`.
  simp only [nodeEntries, identityEntries, styleEntries, contentEntries, layoutEntries,
    stateEntries, handlerEntries, List.map_append, Node.assignAll_append, List.map_cons,
    List.map_nil, Node.assignAll_cons, Node.assignAll_nil, Entry.ofNumber, Entry.ofSize,
    Entry.ofColor, Entry.ofText, Entry.ofFlag, Entry.ofAlignment, Entry.ofName, Node.assign,
    Node.setNumber, Node.setSize, Node.setColor, Node.setText, Node.setFlag, Node.setAlignment,
    Node.setName, Node.ofKind, Binding.defaultNumber, Binding.defaultSize, if_true, restoredNode,
    restoredStyle, restoredLayout, restoredState, kept]

theorem style_beq {style : Style} {borderWidth cornerRadius fontSize : Float32}
    (sameBorder : (borderWidth == style.borderWidth) = true)
    (sameCorner : (cornerRadius == style.cornerRadius) = true)
    (sameFont : (fontSize == style.fontSize) = true) :
    ({ style with borderWidth, cornerRadius, fontSize } == style) = true := by
  show (style.background == style.background && (style.borderColor == style.borderColor &&
    (borderWidth == style.borderWidth && (cornerRadius == style.cornerRadius &&
      (style.fill == style.fill && (style.textColor == style.textColor &&
        fontSize == style.fontSize)))))) = true
  simp only [beq_self_eq_true, sameBorder, sameCorner, sameFont, Bool.and_self]

theorem layout_beq {layout : LayoutHints} {margin padding : Float32}
    (sameMargin : (margin == layout.margin) = true)
    (samePadding : (padding == layout.padding) = true) :
    ({ layout with margin, padding } == layout) = true := by
  show (layout.visible == layout.visible && (layout.align == layout.align &&
    (layout.justify == layout.justify && (margin == layout.margin &&
      padding == layout.padding)))) = true
  simp only [beq_self_eq_true, sameMargin, samePadding, Bool.and_self]

theorem state_beq {state : WidgetState} {min current max otherMin otherCurrent otherMax : Float32}
    (sameMin : (min == otherMin) = true) (sameCurrent : (current == otherCurrent) = true)
    (sameMax : (max == otherMax) = true) :
    ({ state with min, current, max } ==
      { state with min := otherMin, current := otherCurrent, max := otherMax }) = true := by
  show (state.value == state.value && (state.placeholder == state.placeholder &&
    (state.checked == state.checked && (state.selected == state.selected &&
      (state.group == state.group && (min == otherMin && (current == otherCurrent &&
        max == otherMax))))))) = true
  simp only [beq_self_eq_true, sameMin, sameCurrent, sameMax, Bool.and_self]

theorem node_beq {node : Node} {style : Style} {layout : LayoutHints} {state other : WidgetState}
    (x : Recoverable node.x) (y : Recoverable node.y) (width : Recoverable node.width)
    (height : Recoverable node.height) (sameStyle : (style == node.style) = true)
    (sameLayout : (layout == node.layout) = true) (sameState : (state == other) = true) :
    ({ node with style, layout, state } == { node with state := other }) = true := by
  have handlers : (node.handlers == node.handlers) = true := by
    show (node.handlers.onClick == node.handlers.onClick &&
      (node.handlers.onHover == node.handlers.onHover &&
        (node.handlers.onFocus == node.handlers.onFocus &&
          (node.handlers.onChange == node.handlers.onChange &&
            node.handlers.onBlur == node.handlers.onBlur)))) = true
    simp only [beq_self_eq_true, Bool.and_self]
  show (node.id == node.id && (node.kind == node.kind && (node.x == node.x && (node.y == node.y &&
    (node.width == node.width && (node.height == node.height && (style == node.style &&
      (node.text == node.text && (node.image == node.image && (layout == node.layout &&
        (state == other && node.handlers == node.handlers))))))))))) = true
  simp only [beq_self_eq_true, beq_self_of_isFiniteNumber x.finite,
    beq_self_of_isFiniteNumber y.finite, beq_self_of_isFiniteNumber width.finite,
    beq_self_of_isFiniteNumber height.finite, sameStyle, sameLayout, sameState, handlers,
    Bool.and_self]

/-- The sizes of a settled style are kept as they are. -/
theorem restoredStyle_of_settled {node : Node} (settled : node.Settled) :
    restoredStyle node.style =
      { node.style with
        borderWidth := kept node.style.borderWidth 0
        cornerRadius := kept node.style.cornerRadius 0
        fontSize := kept node.style.fontSize defaultFontSize } := by
  have zero : clampedSize 0 = 0 := ite_self 0
  have font : clampedSize defaultFontSize = defaultFontSize := rfl
  have sameBorder : clampedSize (kept node.style.borderWidth 0) = kept node.style.borderWidth 0 :=
    clampedSize_kept (settled.sizes .borderWidth) zero
  have sameCorner : clampedSize (kept node.style.cornerRadius 0) =
      kept node.style.cornerRadius 0 :=
    clampedSize_kept (settled.sizes .cornerRadius) zero
  have sameFont : clampedSize (kept node.style.fontSize defaultFontSize) =
      kept node.style.fontSize defaultFontSize :=
    clampedSize_kept (settled.sizes .fontSize) font
  rw [restoredStyle, sameBorder, sameCorner, sameFont]

theorem restoredStyle_beq {node : Node} (settled : node.Settled)
    (borderWidth : Recoverable node.style.borderWidth)
    (cornerRadius : Recoverable node.style.cornerRadius)
    (fontSize : Recoverable node.style.fontSize) :
    (restoredStyle node.style == node.style) = true := by
  rw [restoredStyle_of_settled settled]
  exact style_beq (kept_beq borderWidth 0) (kept_beq cornerRadius 0) (kept_beq fontSize _)

/-- The numbers of a slider are kept; those of another widget are set back. -/
theorem restoredState_beq {kind : Kind} {state : WidgetState}
    (slider : kind = .slider → state.value = "") (min : Recoverable state.min)
    (current : Recoverable state.current) (max : Recoverable state.max) :
    (restoredState kind state == state.withoutIdleNumbers kind) = true := by
  unfold restoredState WidgetState.withoutIdleNumbers
  rw [kept_text]
  by_cases isSlider : kind = .slider
  · have shown : (kind == .slider) = true := beq_iff_eq.mpr isSlider
    have hidden : (kind != .slider) = false := by rw [bne, shown]; rfl
    rw [if_pos isSlider, shown, hidden, Bool.true_and, Bool.true_and, Bool.true_and,
      Bool.false_and, if_neg Bool.false_ne_true, ← slider isSlider]
    exact state_beq (kept_beq min 0) (kept_beq current 0) (kept_beq max 100)
  · have hidden : (kind == .slider) = false := beq_eq_false_iff_ne.mpr isSlider
    have shown : (kind != .slider) = true := bne_iff_ne.mpr isSlider
    have zero : ((0 : Float32) == 0) = true := rfl
    have hundred : ((100 : Float32) == 100) = true := rfl
    rw [if_neg isSlider, hidden, shown, Bool.true_and, kept_text]
    exact state_beq zero zero hundred

/-- The entries of a settled node make it again, without the numbers that only sliders use. -/
theorem restoredNode_beq {node : Node} (settled : node.Settled)
    (recoverable : ∀ quantity ∈ node.quantities, Recoverable quantity) :
    (restoredNode node == node.withoutIdleNumbers) = true := by
  simp only [Node.quantities, List.forall_mem_cons] at recoverable
  obtain ⟨x, y, width, height, borderWidth, cornerRadius, fontSize, margin, padding, min, current,
    max, _⟩ := recoverable
  have sameWidth : clampedSize node.width = node.width := settled.sizes .width
  have sameHeight : clampedSize node.height = node.height := settled.sizes .height
  unfold restoredNode Node.withoutIdleNumbers
  rw [kept_text, kept_text, sameWidth, sameHeight]
  exact node_beq x y width height (restoredStyle_beq settled borderWidth cornerRadius fontSize)
    (layout_beq (kept_beq margin 0) (kept_beq padding 0))
    (restoredState_beq settled.slider min current max)

end Restoring

end Emission

end SceneMarkup
