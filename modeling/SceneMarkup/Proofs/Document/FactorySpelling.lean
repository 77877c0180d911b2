import SceneMarkup.Proofs.Document.Independence

/-!
Contract: how the built-in factories depend on the spelling of attribute names.

Owns:
- attributes that are spelled in another way, under the same canonical names;
- `Consumer`, a factory with the names that it consumes itself and the parts that it shows;
- the theorem that spelling counts only where a factory looks up a name that it consumes, and that
  an attribute which it misses there is lost.

Does not own: what the other attributes set.
-/

namespace SceneMarkup

open SceneMarkup.Text

/-! ### Statement -/

namespace Attributes

/-- The attributes as the binder knows them. -/
def canonical (attributes : Attributes) : List (String × String) :=
  attributes.map fun written => (canonicalName written.name, written.value)

/-- The same values in the same order, under names that differ in ASCII case and in hyphens and
underscores only. -/
def Respelled (attributes others : Attributes) : Prop := attributes.canonical = others.canonical

instance (attributes others : Attributes) : Decidable (attributes.Respelled others) :=
  inferInstanceAs (Decidable (_ = _))

end Attributes

namespace Factory

/-- A factory that consumes some attributes itself, which are not bound to its root. -/
structure Consumer where
  factory : Factory
  consumed : List String
  /-- The parts below the root, with the texts that are found under the consumed names. -/
  shown : Attributes → List (String × String)
  kind : Kind
  edit : Node → Node
  row : Node → String × String → IdM NodeTree
  plain : ∀ name ∈ consumed, name.toLower = name ∧ '-' ∉ name.toList ∧ '_' ∉ name.toList
  reads : ∀ attributes others : Attributes,
    (∀ name ∈ consumed, attributes.value? name = others.value? name) →
      shown attributes = shown others
  assembled : ∀ attributes, factory attributes =
    assemble kind edit consumed (fun node => (shown attributes).mapM (row node)) attributes
  labelled : ∀ attributes, ∀ part ∈ shown attributes, ∀ node ledger,
    ∃ leaf : Node, ((row node part).run ledger).1 = .leaf leaf ∧
      leaf.id = ⟨node.id.name ++ "_" ++ part.1⟩ ∧ leaf.text = part.2
  related : ∀ attributes,
    IdM.Relates (MadeAlike (attributes.ids ≠ [])) (factory attributes) (factory attributes)

namespace Consumer

/-- The tree that is made of attributes when some names are taken. -/
def tree (consumer : Consumer) (attributes : Attributes) (ledger : IdLedger) : NodeTree :=
  ((consumer.factory attributes).run ledger).1

/-- An attribute that is not bound, because its name is left to the factory, and that the factory
does not find in this spelling. -/
def loses (consumer : Consumer) (written : Attribute) : Bool :=
  (consumer.consumed.map canonicalName).contains (canonicalName written.name)
    && !consumer.consumed.any fun name => sameWord written.name name

/-- What a factory makes of attributes in two spellings. -/
structure FollowsSpelling (consumer : Consumer) (attributes others : Attributes) : Prop where
  /-- The parts are named after the root and show the texts that are found. -/
  parts : ∀ ledger,
    ((consumer.tree attributes ledger).children.map fun part => (part.node.id, part.node.text)) =
      (consumer.shown attributes).map fun part =>
        (⟨(consumer.tree attributes ledger).node.id.name ++ "_" ++ part.1⟩, part.2)
  /-- Lost attributes do nothing at all. -/
  lost : consumer.factory attributes =
    consumer.factory (attributes.filter fun written => !consumer.loses written)
  /-- Where no attribute is lost, spelling does not count. -/
  kept : (∀ written ∈ attributes ++ others, consumer.loses written = false) →
    consumer.factory attributes = consumer.factory others
  /-- In any case, the trees are the same up to generated ids exactly when the same texts are
  found. -/
  alike : ∀ ledger other,
    MadeAlike (attributes.ids ≠ []) (consumer.tree attributes ledger) (consumer.tree others other) ↔
      consumer.shown attributes = consumer.shown others

end Consumer

end Factory

/-! ### Bound attributes -/

namespace Binding

variable (name other value : String)

theorem toOption_readNumber (default : Float32) :
    (readNumber name value default).toOption = (readNumber other value default).toOption := by
  unfold readNumber
  split
  · rfl
  · cases number? value.toList <;> rfl

theorem toOption_readFlag (default : Bool) :
    (readFlag name value default).toOption = (readFlag other value default).toOption := by
  unfold readFlag
  split
  · rfl
  · cases truthValue? value <;> rfl

theorem toOption_readAlignment :
    (readAlignment name value).toOption = (readAlignment other value).toOption := by
  unfold readAlignment
  split
  · rfl
  · cases Alignment.ofWord? value <;> rfl

theorem toOption_wrapped {α : Type} {first second : Except BindingError α}
    (same : first.toOption = second.toOption) (wrap : α → Assignment) :
    (do return some (wrap (← first)) : Except BindingError (Option Assignment)).toOption =
      (do return some (wrap (← second)) : Except BindingError (Option Assignment)).toOption := by
  cases first with
  | error cause =>
    cases second with
    | error other => rfl
    | ok value => cases same
  | ok value =>
    cases second with
    | error cause => cases same
    | ok other => cases same; rfl

/-- A name turns up in the error only. -/
theorem toOption_read (kind : Kind) (layout : HexLayout) (property : Property) :
    (read kind layout name value property).toOption =
      (read kind layout other value property).toOption := by
  cases property with
  | number field => exact toOption_wrapped (toOption_readNumber name other _ _) _
  | size field => exact toOption_wrapped (toOption_readNumber name other _ _) _
  | flag field inverted =>
    exact toOption_wrapped (toOption_readFlag name other _ _) fun flag =>
      .flag field (flag != inverted)
  | alignment field => exact toOption_wrapped (toOption_readAlignment name other _) _
  | value =>
    rw [read, read]
    by_cases slider : kind = .slider
    · rw [if_pos slider, if_pos slider]
      exact toOption_wrapped (toOption_readNumber name other _ _) _
    · rw [if_neg slider, if_neg slider]
  | id => rfl
  | color field => rfl
  | text field => rfl
  | path field => rfl
  | name field => rfl

end Binding

namespace Attributes

/-- The name of an attribute counts in its canonical spelling only. -/
theorem assigned?_eq_lookup (kind : Kind) (layout : HexLayout) (written : Attribute) :
    assigned? kind layout written =
      (Property.table.lookup (canonicalName written.name)).bind fun property =>
        (Binding.read kind layout "" written.value property).toOption.join := by
  cases asked : Property.ofName? written.name with
  | none =>
    rw [assigned?_of_unknown asked, ← Property.ofName?, asked]
    rfl
  | some property =>
    rw [assigned?_of_property asked, ← Property.ofName?, asked, Option.bind_some,
      Binding.toOption_read written.name ""]

section Respelled

variable {attributes others : Attributes}

theorem Respelled.assignments_eq (same : attributes.Respelled others) (kind : Kind)
    (layout : HexLayout) : attributes.assignments kind layout = others.assignments kind layout := by
  have listed (attributes : Attributes) : attributes.assignments kind layout =
      attributes.canonical.filterMap fun entry =>
        (Property.table.lookup entry.1).bind fun property =>
          (Binding.read kind layout "" entry.2 property).toOption.join := by
    rw [assignments, canonical, List.filterMap_map]
    exact List.filterMap_congr fun written _ => assigned?_eq_lookup kind layout written
  rw [listed, listed, same]

theorem Respelled.ids_eq (same : attributes.Respelled others) : attributes.ids = others.ids := by
  rw [ids_eq_filterMap attributes .container .argb, ids_eq_filterMap others .container .argb,
    same.assignments_eq]

theorem Respelled.except (same : attributes.Respelled others) (names : List String) :
    (attributes.except names).Respelled (others.except names) := by
  have kept (attributes : Attributes) : (attributes.except names).canonical =
      attributes.canonical.filter fun entry => !(names.map canonicalName).contains entry.1 := by
    rw [canonical, canonical, List.filter_map]
    rfl
  rw [Respelled, kept, kept, same]

/-- Attributes in another spelling set the same fields and take the same names. -/
theorem Respelled.applyAll_eq (same : attributes.Respelled others) (node : Node)
    (layout : HexLayout) : node.applyAll layout attributes = node.applyAll layout others := by
  rw [Node.applyAll, Node.applyAll, same.ids_eq, Node.bindAll_eq_assignAll,
    Node.bindAll_eq_assignAll, same.assignments_eq]

end Respelled

end Attributes

/-! ### Consumed attributes -/

namespace Factory

theorem assemble_respelled {attributes others : Attributes} (same : attributes.Respelled others)
    (kind : Kind) (edit : Node → Node) (consumed : List String)
    (parts : Node → IdM (List NodeTree)) :
    assemble kind edit consumed parts attributes = assemble kind edit consumed parts others := by
  unfold assemble
  simp only [(same.except consumed).applyAll_eq]

namespace Consumer

variable {consumer : Consumer} {attributes others : Attributes}

theorem canonicalName_of_sameWord {name : String} (member : name ∈ consumer.consumed)
    {written : Attribute} (same : sameWord written.name name = true) :
    canonicalName written.name = name := by
  obtain ⟨lowered, noHyphen, noUnderscore⟩ := consumer.plain name member
  exact canonicalName_of_toLower ((beq_iff_eq.mp same).trans lowered) noHyphen noUnderscore

theorem map_canonicalName_consumed (consumer : Consumer) :
    consumer.consumed.map canonicalName = consumer.consumed := by
  have same : ∀ name ∈ consumer.consumed, canonicalName name = name := by
    intro name member
    obtain ⟨lowered, noHyphen, noUnderscore⟩ := consumer.plain name member
    exact canonicalName_of_toLower lowered noHyphen noUnderscore
  rw [List.map_congr_left same, List.map_id']

/-- Where nothing is lost, a consumed name is looked up by the canonical names. -/
theorem value?_eq_canonical {name : String} (member : name ∈ consumer.consumed)
    (kept : ∀ written ∈ attributes, consumer.loses written = false) :
    attributes.value? name =
      ((attributes.canonical.filter fun entry => entry.1 = name).getLast?).map Prod.snd := by
  have found : ∀ written ∈ attributes,
      sameWord written.name name = decide (canonicalName written.name = name) := by
    intro written inside
    by_cases canonical : canonicalName written.name = name
    · have left := kept written inside
      rw [loses, map_canonicalName_consumed, canonical, List.contains_iff_mem.mpr member,
        Bool.true_and, Bool.not_eq_false', List.any_eq_true] at left
      obtain ⟨other, listed, same⟩ := left
      obtain rfl : other = name := (canonicalName_of_sameWord listed same).symm.trans canonical
      rw [same, decide_eq_true canonical]
    · rw [decide_eq_false canonical]
      by_contra same
      exact canonical (canonicalName_of_sameWord member ((Bool.not_eq_false _).mp same))
  rw [Attributes.value?, Attributes.canonical, List.filter_map, List.getLast?_map, Option.map_map,
    List.filter_congr found]
  rfl

theorem shown_respelled (same : attributes.Respelled others)
    (kept : ∀ written ∈ attributes ++ others, consumer.loses written = false) :
    consumer.shown attributes = consumer.shown others := by
  apply consumer.reads
  intro name member
  rw [value?_eq_canonical member fun written inside => kept written (List.mem_append_left _ inside),
    value?_eq_canonical member fun written inside => kept written (List.mem_append_right _ inside),
    same]

theorem factory_respelled (same : attributes.Respelled others)
    (shown : consumer.shown attributes = consumer.shown others) :
    consumer.factory attributes = consumer.factory others := by
  rw [consumer.assembled, consumer.assembled, shown, assemble_respelled same]

/-! ### Lost attributes -/

theorem except_filter_loses (consumer : Consumer) (attributes : Attributes) :
    Attributes.except (attributes.filter fun written => !consumer.loses written)
      consumer.consumed = attributes.except consumer.consumed := by
  unfold Attributes.except
  rw [List.filter_filter]
  apply List.filter_congr
  intro written _
  rw [loses]
  cases (consumer.consumed.map canonicalName).contains (canonicalName written.name) <;> rfl

theorem value?_filter_loses (attributes : Attributes) {name : String}
    (member : name ∈ consumer.consumed) :
    Attributes.value? (attributes.filter fun written => !consumer.loses written) name =
      attributes.value? name := by
  unfold Attributes.value?
  rw [List.filter_filter]
  have found : ∀ written ∈ attributes,
      (sameWord written.name name && !consumer.loses written) = sameWord written.name name := by
    intro written _
    cases same : sameWord written.name name with
    | false => rfl
    | true =>
      have listed : (consumer.consumed.any fun name => sameWord written.name name) = true :=
        List.any_eq_true.mpr ⟨name, member, same⟩
      rw [loses, listed, Bool.not_true, Bool.and_false]
      rfl
  rw [List.filter_congr found]

theorem factory_filter_loses (consumer : Consumer) (attributes : Attributes) :
    consumer.factory attributes =
      consumer.factory (attributes.filter fun written => !consumer.loses written) := by
  have shown : consumer.shown (attributes.filter fun written => !consumer.loses written) =
      consumer.shown attributes :=
    consumer.reads _ _ fun _ member => value?_filter_loses attributes member
  rw [consumer.assembled, consumer.assembled, shown, assemble, assemble, except_filter_loses]

/-! ### Parts -/

/-- The rows below a node are labelled one by one. -/
theorem map_mapM_row (node : Node) {parts : List (String × String)}
    (labelled : ∀ part ∈ parts, ∀ ledger, ∃ leaf : Node,
      ((consumer.row node part).run ledger).1 = .leaf leaf ∧
        leaf.id = ⟨node.id.name ++ "_" ++ part.1⟩ ∧ leaf.text = part.2) (ledger : IdLedger) :
    (((parts.mapM (consumer.row node)).run ledger).1.map fun part =>
        (part.node.id, part.node.text)) =
      parts.map fun part => (⟨node.id.name ++ "_" ++ part.1⟩, part.2) := by
  induction parts generalizing ledger with
  | nil => rfl
  | cons part rest inductionHypothesis =>
    obtain ⟨leaf, made, id, text⟩ := labelled part List.mem_cons_self ledger
    have later := inductionHypothesis
      (fun part member => labelled part (List.mem_cons_of_mem _ member))
      ((consumer.row node part).run ledger).2
    have first : ((((consumer.row node part).run ledger).1).node.id,
        (((consumer.row node part).run ledger).1).node.text) =
          ((⟨node.id.name ++ "_" ++ part.1⟩ : NodeId), part.2) := by
      rw [made, ← id, ← text]
      rfl
    rw [List.mapM_cons, List.map_cons, ← later, ← first]
    rfl

theorem children_tree (consumer : Consumer) (attributes : Attributes) (ledger : IdLedger) :
    ((consumer.tree attributes ledger).children.map fun part => (part.node.id, part.node.text)) =
      (consumer.shown attributes).map fun part =>
        (⟨(consumer.tree attributes ledger).node.id.name ++ "_" ++ part.1⟩, part.2) := by
  rw [tree, consumer.assembled]
  exact map_mapM_row _ (fun part member => consumer.labelled attributes part member _) _

/-- The parts of a tree say what is shown. -/
theorem shown_eq_of_named {named : List (String × Node)} {ledger : IdLedger}
    (same : (consumer.tree attributes ledger).children =
      named.map (partOf (consumer.tree attributes ledger).node.id)) :
    consumer.shown attributes = named.map fun part => (part.1, part.2.text) := by
  have injective : Function.Injective fun part : String × String =>
      ((⟨(consumer.tree attributes ledger).node.id.name ++ "_" ++ part.1⟩ : NodeId), part.2) := by
    intro part other equal
    obtain ⟨ids, texts⟩ := Prod.mk.inj equal
    exact Prod.ext ((String.append_right_inj _).mp (NodeId.mk.inj ids)) texts
  apply List.map_injective_iff.mpr injective
  rw [← children_tree, same, List.map_map, List.map_map]
  rfl

theorem madeAlike_iff (same : attributes.Respelled others) (ledger other : IdLedger) :
    MadeAlike (attributes.ids ≠ []) (consumer.tree attributes ledger)
        (consumer.tree others other) ↔
      consumer.shown attributes = consumer.shown others := by
  constructor
  · rintro ⟨_, named, parts, otherParts⟩
    rw [shown_eq_of_named parts, shown_eq_of_named otherParts]
  · intro shown
    have related := consumer.related attributes ledger other
    rwa [tree, tree, ← factory_respelled same shown]

theorem followsSpelling (same : attributes.Respelled others) :
    consumer.FollowsSpelling attributes others where
  parts := consumer.children_tree attributes
  lost := consumer.factory_filter_loses attributes
  kept kept := factory_respelled same (shown_respelled same kept)
  alike := madeAlike_iff same

end Consumer

/-! ### Built-in factories -/

theorem nonEmpty?_congr {attributes others : Attributes} {name : String}
    (same : attributes.value? name = others.value? name) :
    attributes.nonEmpty? name = others.nonEmpty? name := by
  rw [Attributes.nonEmpty?, Attributes.nonEmpty?, same]

/-- The text of an attribute as a part of its own name, unless it is empty or missing. -/
def namedPart (name : String) (attributes : Attributes) : List (String × String) :=
  ((attributes.nonEmpty? name).map fun text => (name, text)).toList

theorem eq_of_mem_namedPart {name : String} {attributes : Attributes} {part : String × String}
    (member : part ∈ namedPart name attributes) : part.1 = name := by
  obtain ⟨_, _, rfl⟩ := Option.map_eq_some_iff.mp (Option.mem_toList.mp member)
  rfl

def buttonConsumer : Consumer where
  factory := button
  consumed := ["label", "text"]
  shown attributes :=
    [("label", ((attributes.nonEmpty? "label").or (attributes.nonEmpty? "text")).getD "Button")]
  kind := .button
  edit node := { node.withSize 120 40 with
    style.background := some primary
    style.cornerRadius := 6
    style.textColor := some .white }
  row node part := do
    let text := (← label node part.1 part.2).withSize node.width node.height
    return .leaf { text with
      style.textColor := node.style.textColor
      style.fontSize := node.style.fontSize
      layout.align := .center
      layout.justify := .center }
  plain := by decide +kernel
  reads attributes others same := by
    rw [nonEmpty?_congr (same "label" (by simp)), nonEmpty?_congr (same "text" (by simp))]
  assembled _ := rfl
  labelled _ _ _ _ _ := ⟨_, rfl, rfl, rfl⟩
  related := relates_button

def cardConsumer : Consumer where
  factory := card
  consumed := ["title", "subtitle"]
  shown attributes := namedPart "title" attributes ++ namedPart "subtitle" attributes
  kind := .container
  edit node := { node.withSize 300 200 with
    style.background := some .white
    style.borderColor := some borderGray
    style.borderWidth := 1
    style.cornerRadius := 8
    layout.padding := 16 }
  row node part :=
    let innerWidth := clampedSize (node.width - 2 * node.layout.padding)
    if part.1 = "title" then cardTitle node innerWidth part.2
    else cardSubtitle node innerWidth part.2
  plain := by decide +kernel
  reads attributes others same := by
    rw [namedPart, namedPart, nonEmpty?_congr (same "title" (by simp)),
      nonEmpty?_congr (same "subtitle" (by simp)), namedPart, namedPart]
  assembled attributes := by
    unfold card namedPart
    cases attributes.nonEmpty? "title" <;> cases attributes.nonEmpty? "subtitle" <;> rfl
  labelled attributes part member node ledger := by
    rcases List.mem_append.mp member with title | subtitle
    · rw [eq_of_mem_namedPart title]
      exact ⟨_, rfl, rfl, rfl⟩
    · rw [eq_of_mem_namedPart subtitle]
      exact ⟨_, rfl, rfl, rfl⟩
  related := relates_card

def headerConsumer : Consumer where
  factory := header
  consumed := ["title"]
  shown := namedPart "title"
  kind := .container
  edit node := { node.withSize 800 60 with style.background := some headerBackground }
  row node part := headerTitle node part.2
  plain := by decide +kernel
  reads attributes others same := by
    rw [namedPart, nonEmpty?_congr (same "title" (by simp)), namedPart]
  assembled attributes := by
    unfold header namedPart
    cases attributes.nonEmpty? "title" <;> rfl
  labelled attributes part member node ledger := by
    rw [eq_of_mem_namedPart member]
    exact ⟨_, rfl, rfl, rfl⟩
  related := relates_header

def Consumer.builtIn : List Consumer := [buttonConsumer, cardConsumer, headerConsumer]

/-- The built-in factories bind attributes in every spelling, but look up what they consume by ASCII
case only: other spellings of a consumed name are lost. -/
theorem built_in_factories_follow_spelling {consumer : Consumer}
    (builtIn : consumer ∈ Consumer.builtIn) {attributes others : Attributes}
    (same : attributes.Respelled others) : consumer.FollowsSpelling attributes others := by
  simp only [Consumer.builtIn, List.mem_cons, List.not_mem_nil, or_false] at builtIn
  obtain rfl | rfl | rfl := builtIn
  · exact Consumer.followsSpelling same
  · exact Consumer.followsSpelling same
  · exact Consumer.followsSpelling same

def salesCard : Attributes := [⟨"title", "Sales"⟩, ⟨"on-click", "open"⟩]

/-- The same card with another spelling of the name that it does not consume. -/
def salesCardRespelled : Attributes := [⟨"title", "Sales"⟩, ⟨"on_click", "open"⟩]

theorem built_in_factories_follow_spelling_of_salesCard :
    cardConsumer ∈ Consumer.builtIn ∧ salesCard.Respelled salesCardRespelled ∧
      cardConsumer.FollowsSpelling salesCard salesCardRespelled ∧
      cardConsumer.factory salesCard = cardConsumer.factory salesCardRespelled ∧
      cardConsumer.shown salesCardRespelled = [("title", "Sales")] := by
  have builtIn : cardConsumer ∈ Consumer.builtIn := List.mem_cons_of_mem _ List.mem_cons_self
  have respelled : salesCard.Respelled salesCardRespelled := by decide +kernel
  have kept : ∀ written ∈ salesCard ++ salesCardRespelled, cardConsumer.loses written = false := by
    decide +kernel
  have spelling := built_in_factories_follow_spelling builtIn respelled
  exact ⟨builtIn, respelled, spelling, spelling.kept kept, by decide +kernel⟩

/-- A card whose subtitle is written with a hyphen does not show it. -/
theorem card_loses_hyphenated_subtitle :
    let plain : Attributes := [⟨"subtitle", "Monthly"⟩]
    let hyphenated : Attributes := [⟨"sub-title", "Monthly"⟩]
    plain.Respelled hyphenated ∧
      ¬ MadeAlike (plain.ids ≠ []) ((card plain).run .empty).1
        ((card hyphenated).run .empty).1 := by
  intro plain hyphenated
  refine ⟨by decide, ?_⟩
  rintro ⟨_, named, parts, otherParts⟩
  have counts : ((card plain).run .empty).1.children.length =
      ((card hyphenated).run .empty).1.children.length := by
    rw [parts, otherParts, List.length_map, List.length_map]
  revert counts
  decide +kernel

end Factory

end SceneMarkup
