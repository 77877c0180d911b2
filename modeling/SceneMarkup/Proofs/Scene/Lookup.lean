import SceneMarkup.Proofs.Scene.Numbering

/-!
Contract: what is found at a number or along a path in a numbered tree.

Owns:
- the part of a tree found at a number, its children, and its place under its parent;
- what a look-up finds after a tree was added below a node, or a node was changed;
- paths of positions among children, and the tree that is added at the end of a path.

Does not own: where numbers come from.
-/

namespace SceneMarkup

namespace NumberedTree

theorem number_mem_numbers (tree : NumberedTree) : tree.number ∈ tree.numbers := by
  cases tree with
  | mk number node children =>
    rw [numbers_mk]
    exact List.mem_cons_self

theorem mem_numbersAll {trees : List NumberedTree} {number : Nat} :
    number ∈ numbersAll trees ↔ ∃ tree ∈ trees, number ∈ tree.numbers := by
  induction trees with
  | nil => simp
  | cons tree rest inductionHypothesis => simp [inductionHypothesis]

theorem numbers_sublist_numbersAll {trees : List NumberedTree} {tree : NumberedTree}
    (member : tree ∈ trees) : tree.numbers.Sublist (numbersAll trees) := by
  induction trees with
  | nil => cases member
  | cons first rest inductionHypothesis =>
    rw [numbersAll_cons]
    rcases List.mem_cons.mp member with rfl | later
    · exact List.sublist_append_left _ _
    · exact (inductionHypothesis later).trans (List.sublist_append_right _ _)

/-! ### The part at a number -/

theorem findSome?_congr {α β : Type} {lookUp other : α → Option β} {entries : List α}
    (same : ∀ entry ∈ entries, lookUp entry = other entry) :
    entries.findSome? lookUp = entries.findSome? other := by
  induction entries with
  | nil => rfl
  | cons entry rest inductionHypothesis =>
    rw [List.findSome?_cons, List.findSome?_cons, same entry List.mem_cons_self,
      inductionHypothesis fun later member => same later (List.mem_cons_of_mem _ member)]

theorem findIn?_eq_findSome? (sought : Nat) (trees : List NumberedTree) :
    findIn? sought trees = trees.findSome? (find? sought) := by
  induction trees with
  | nil => rfl
  | cons tree rest inductionHypothesis =>
    rw [findIn?, List.findSome?_cons, inductionHypothesis]
    cases tree.find? sought <;> rfl

theorem parentIn?_eq_findSome? (sought : Nat) (trees : List NumberedTree) :
    parentIn? sought trees = trees.findSome? (parent? sought) := by
  induction trees with
  | nil => rfl
  | cons tree rest inductionHypothesis =>
    rw [parentIn?, List.findSome?_cons, inductionHypothesis]
    cases tree.parent? sought <;> rfl

/-- Only one of several trees has a number, and a look-up in the others finds nothing. -/
theorem findSome?_of_mem {α : Type} {lookUp : NumberedTree → Option α} {sought : Nat}
    {trees : List NumberedTree}
    (absent : ∀ tree ∈ trees, sought ∉ tree.numbers → lookUp tree = none)
    (distinct : (numbersAll trees).Nodup) {tree : NumberedTree} (member : tree ∈ trees)
    (inside : sought ∈ tree.numbers) : trees.findSome? lookUp = lookUp tree := by
  induction trees with
  | nil => cases member
  | cons first rest inductionHypothesis =>
    rw [numbersAll_cons, List.nodup_append] at distinct
    obtain ⟨_, distinctRest, apart⟩ := distinct
    rcases List.mem_cons.mp member with rfl | later
    · have others : rest.findSome? lookUp = none := by
        rw [List.findSome?_eq_none_iff]
        intro other memberOther
        apply absent other (List.mem_cons_of_mem _ memberOther)
        intro insideOther
        exact apart _ inside _ (mem_numbersAll.mpr ⟨other, memberOther, insideOther⟩) rfl
      rw [List.findSome?_cons, others]
      cases lookUp tree <;> rfl
    · have here : lookUp first = none := by
        apply absent first List.mem_cons_self
        intro insideFirst
        exact apart _ insideFirst _ (mem_numbersAll.mpr ⟨tree, later, inside⟩) rfl
      rw [List.findSome?_cons, here]
      exact inductionHypothesis (fun other memberOther =>
        absent other (List.mem_cons_of_mem _ memberOther)) distinctRest later

mutual
theorem isSome_find? (sought : Nat) (tree : NumberedTree) :
    (tree.find? sought).isSome = true ↔ sought ∈ tree.numbers := by
  cases tree with
  | mk number node children =>
    rw [find?, numbers_mk, List.mem_cons]
    by_cases here : number = sought
    · simp [here]
    · rw [if_neg here, isSome_findIn? sought children]
      simp [Ne.symm here]

theorem isSome_findIn? (sought : Nat) (trees : List NumberedTree) :
    (findIn? sought trees).isSome = true ↔ sought ∈ numbersAll trees := by
  cases trees with
  | nil => simp [findIn?]
  | cons tree rest =>
    rw [findIn?, Option.isSome_or, Bool.or_eq_true, isSome_find? sought tree,
      isSome_findIn? sought rest, numbersAll_cons, List.mem_append]
end

theorem find?_eq_none {sought : Nat} {tree : NumberedTree} (absent : sought ∉ tree.numbers) :
    tree.find? sought = none := by
  rw [← Option.not_isSome_iff_eq_none, isSome_find?]
  exact absent

theorem find?_self (tree : NumberedTree) : tree.find? tree.number = some tree := by
  cases tree with
  | mk number node children => exact if_pos rfl

/-- A part that is found lies at the top or in one of the trees below. -/
theorem find?_cases {sought : Nat} {tree part : NumberedTree}
    (found : tree.find? sought = some part) :
    (tree.number = sought ∧ part = tree) ∨
      (tree.number ≠ sought ∧ ∃ below ∈ tree.children, below.find? sought = some part) := by
  cases tree with
  | mk number node children =>
    rw [find?] at found
    by_cases here : number = sought
    · rw [if_pos here] at found
      exact Or.inl ⟨here, (Option.some.inj found).symm⟩
    · rw [if_neg here, findIn?_eq_findSome?] at found
      obtain ⟨below, member, searched⟩ := List.exists_of_findSome?_eq_some found
      exact Or.inr ⟨here, below, member, searched⟩

theorem find?_of_below {sought : Nat} {tree below : NumberedTree}
    (distinct : tree.numbers.Nodup) (member : below ∈ tree.children)
    (inside : sought ∈ below.numbers) : tree.find? sought = below.find? sought := by
  cases tree with
  | mk number node children =>
    rw [numbers_mk, List.nodup_cons] at distinct
    have other : number ≠ sought := by
      rintro rfl
      exact distinct.1 (mem_numbersAll.mpr ⟨below, member, inside⟩)
    rw [find?, if_neg other, findIn?_eq_findSome?]
    exact findSome?_of_mem (fun _ _ => find?_eq_none) distinct.2 member inside

/-- Induction over the trees right below a tree. -/
@[elab_as_elim]
theorem below_induction {motive : NumberedTree → Prop}
    (step : ∀ tree, (∀ below ∈ tree.children, motive below) → motive tree)
    (tree : NumberedTree) : motive tree := by
  apply step
  intro below member
  exact below_induction step below
termination_by tree
decreasing_by
  have smaller := List.sizeOf_lt_of_mem member
  cases tree with
  | mk number node children =>
    simp only [NumberedTree.children, mk.sizeOf_spec] at smaller ⊢
    omega

section Parts

variable {sought : Nat} {tree part below : NumberedTree}

theorem number_of_find? (found : tree.find? sought = some part) : part.number = sought := by
  induction tree using below_induction with
  | step tree inductionHypothesis =>
    rcases find?_cases found with ⟨here, rfl⟩ | ⟨_, below, member, searched⟩
    · exact here
    · exact inductionHypothesis below member searched

theorem numbersAll_children_sublist (tree : NumberedTree) :
    (numbersAll tree.children).Sublist tree.numbers := by
  cases tree with
  | mk number node children =>
    rw [numbers_mk]
    exact List.sublist_cons_self _ _

theorem numbers_sublist_of_child (member : below ∈ tree.children) :
    below.numbers.Sublist tree.numbers :=
  (numbers_sublist_numbersAll member).trans (numbersAll_children_sublist tree)

theorem numbers_sublist_of_find? (found : tree.find? sought = some part) :
    part.numbers.Sublist tree.numbers := by
  induction tree using below_induction with
  | step tree inductionHypothesis =>
    rcases find?_cases found with ⟨_, rfl⟩ | ⟨_, below, member, searched⟩
    · exact List.Sublist.refl _
    · exact (inductionHypothesis below member searched).trans (numbers_sublist_of_child member)

/-- The number of a child does not occur at its parent. -/
theorem number_ne_of_child (distinct : tree.numbers.Nodup) (member : below ∈ tree.children) :
    sought ∈ below.numbers → tree.number ≠ sought := by
  cases tree with
  | mk number node children =>
    rw [numbers_mk, List.nodup_cons] at distinct
    rintro inside rfl
    exact distinct.1 (mem_numbersAll.mpr ⟨below, member, inside⟩)

/-- A child of a part is the part at its own number. -/
theorem find?_child (distinct : tree.numbers.Nodup) (found : tree.find? sought = some part)
    (member : below ∈ part.children) : tree.find? below.number = some below := by
  induction tree using below_induction with
  | step tree inductionHypothesis =>
    rcases find?_cases found with ⟨_, rfl⟩ | ⟨_, inner, memberInner, searched⟩
    · rw [find?_of_below distinct member below.number_mem_numbers, find?_self]
    · have distinctInner := distinct.sublist (numbers_sublist_of_child memberInner)
      have searchedChild := inductionHypothesis inner memberInner distinctInner searched
      have inside : below.number ∈ inner.numbers :=
        (isSome_find? _ _).mp (by rw [searchedChild]; rfl)
      rw [find?_of_below distinct memberInner inside, searchedChild]

end Parts

/-! ### Parents -/

theorem parent?_eq (sought : Nat) (tree : NumberedTree) :
    tree.parent? sought =
      if sought ∈ tree.children.map number then some tree.number
      else tree.children.findSome? (parent? sought) := by
  cases tree with
  | mk number node children =>
    have right : (children.any fun child => child.number == sought) = true ↔
        sought ∈ children.map NumberedTree.number := by
      simp only [List.any_eq_true, beq_iff_eq, List.mem_map]
    rw [parent?, parentIn?_eq_findSome?]
    exact if_congr right rfl rfl

theorem parent?_eq_none {sought : Nat} {tree : NumberedTree} (absent : sought ∉ tree.numbers) :
    tree.parent? sought = none := by
  induction tree using below_induction with
  | step tree inductionHypothesis =>
    rw [parent?_eq, if_neg, List.findSome?_eq_none_iff]
    · intro below member
      exact inductionHypothesis below member fun inside =>
        absent ((numbers_sublist_of_child member).subset inside)
    · intro right
      obtain ⟨below, member, rfl⟩ := List.mem_map.mp right
      exact absent ((numbers_sublist_of_child member).subset below.number_mem_numbers)

/-- Only one of several trees has a number. -/
theorem eq_of_mem_numbers {trees : List NumberedTree} (distinct : (numbersAll trees).Nodup)
    {tree other : NumberedTree} (member : tree ∈ trees) (memberOther : other ∈ trees)
    {sought : Nat} (inside : sought ∈ tree.numbers) (insideOther : sought ∈ other.numbers) :
    tree = other := by
  have absent : ∀ tree ∈ trees, sought ∉ tree.numbers →
      (if sought ∈ tree.numbers then some tree else none) = none :=
    fun _ _ outside => if_neg outside
  have first := findSome?_of_mem absent distinct member inside
  have second := findSome?_of_mem absent distinct memberOther insideOther
  rw [first, if_pos inside, if_pos insideOther] at second
  exact Option.some.inj second

/-- The number of a node below a part is not that of the whole tree. -/
theorem number_ne_of_below {sought : Nat} {tree part : NumberedTree}
    (distinct : tree.numbers.Nodup) (found : tree.find? sought = some part) {child : Nat}
    (inside : child ∈ numbersAll part.children) : tree.number ≠ child := by
  rcases find?_cases found with ⟨_, rfl⟩ | ⟨_, below, member, searched⟩
  · obtain ⟨below, member, insideBelow⟩ := mem_numbersAll.mp inside
    exact number_ne_of_child distinct member insideBelow
  · apply number_ne_of_child distinct member
    exact (numbers_sublist_of_find? searched).subset
      ((numbersAll_children_sublist part).subset inside)

theorem mem_numbersAll_of_child {trees : List NumberedTree} {child : Nat}
    (right : child ∈ trees.map number) : child ∈ numbersAll trees := by
  obtain ⟨below, member, rfl⟩ := List.mem_map.mp right
  exact mem_numbersAll.mpr ⟨below, member, below.number_mem_numbers⟩

/-- The parent of a number is the node among whose children it is. -/
theorem parent?_eq_some_iff {child parent : Nat} {tree : NumberedTree}
    (distinct : tree.numbers.Nodup) :
    tree.parent? child = some parent ↔
      ∃ part, tree.find? parent = some part ∧ child ∈ part.children.map number := by
  induction tree using below_induction with
  | step tree inductionHypothesis =>
    rw [parent?_eq]
    constructor
    · intro found
      by_cases right : child ∈ tree.children.map number
      · rw [if_pos right] at found
        cases found
        exact ⟨tree, find?_self tree, right⟩
      · rw [if_neg right] at found
        obtain ⟨below, member, searched⟩ := List.exists_of_findSome?_eq_some found
        have distinctBelow := distinct.sublist (numbers_sublist_of_child member)
        obtain ⟨part, located, inside⟩ :=
          (inductionHypothesis below member distinctBelow).mp searched
        have insideBelow : parent ∈ below.numbers :=
          (isSome_find? _ _).mp (by rw [located]; rfl)
        exact ⟨part, (find?_of_below distinct member insideBelow).trans located, inside⟩
    · rintro ⟨part, located, inside⟩
      rcases find?_cases located with ⟨rfl, rfl⟩ | ⟨_, below, member, searched⟩
      · rw [if_pos inside]
      · have distinctBelow := distinct.sublist (numbers_sublist_of_child member)
        have under := mem_numbersAll_of_child inside
        have insideBelow : child ∈ below.numbers :=
          (numbers_sublist_of_find? searched).subset
            ((numbersAll_children_sublist part).subset under)
        have distinctChildren := distinct.sublist (numbersAll_children_sublist tree)
        -- The number lies strictly below one child, so that it is not the number of any.
        have notRight : child ∉ tree.children.map number := by
          intro right
          obtain ⟨other, memberOther, rfl⟩ := List.mem_map.mp right
          have same := eq_of_mem_numbers distinctChildren member memberOther insideBelow
            other.number_mem_numbers
          exact number_ne_of_below distinctBelow searched under (congrArg number same)
        rw [if_neg notRight,
          findSome?_of_mem (fun _ _ => parent?_eq_none) distinctChildren member insideBelow]
        exact (inductionHypothesis below member distinctBelow).mpr ⟨part, searched, inside⟩

/-! ### Added trees -/

theorem appendAll_eq_map (target : Nat) (added : NumberedTree) (trees : List NumberedTree) :
    appendAll target added trees = trees.map (append target added) := by
  induction trees with
  | nil => rw [appendAll, List.map_nil]
  | cons tree rest inductionHypothesis => rw [appendAll, List.map_cons, inductionHypothesis]

section Added

variable {target sought : Nat} {added tree part : NumberedTree}

theorem append_eq (target : Nat) (added tree : NumberedTree) :
    append target added tree =
      mk tree.number tree.node (tree.children.map (append target added) ++
        if tree.number = target then [added] else []) := by
  cases tree with
  | mk number node children =>
    rw [append, appendAll_eq_map]
    show mk number node _ = mk number node
      (children.map (append target added) ++ if number = target then [added] else [])
    by_cases here : number = target
    · rw [if_pos here, if_pos here]
    · rw [if_neg here, if_neg here, List.append_nil]

@[simp] theorem number_append : (append target added tree).number = tree.number := by
  rw [append_eq, number]

@[simp] theorem node_append : (append target added tree).node = tree.node := by
  rw [append_eq, node]

theorem map_number_children_append :
    (append target added tree).children.map number =
      tree.children.map number ++ if tree.number = target then [added.number] else [] := by
  have kept : (tree.children.map (append target added)).map number =
      tree.children.map number := by
    rw [List.map_map]
    exact List.map_congr_left fun below _ => number_append
  rw [append_eq, children, List.map_append, kept]
  split <;> rfl

theorem append_of_not_mem (absent : target ∉ tree.numbers) : append target added tree = tree := by
  induction tree using below_induction with
  | step tree inductionHypothesis =>
    have other : tree.number ≠ target := by
      rintro rfl
      exact absent tree.number_mem_numbers
    have same : tree.children.map (append target added) = tree.children := by
      have kept := List.map_congr_left fun below member => inductionHypothesis below member
        fun inside => absent ((numbers_sublist_of_child member).subset inside)
      rw [kept, List.map_id']
    rw [append_eq, same, if_neg other, List.append_nil]
    cases tree with
    | mk number node children => rfl

/-- Trees that do not have a number stay as they are when a tree is added there. -/
theorem map_append_of_not_mem {target : Nat} {added : NumberedTree} {trees : List NumberedTree}
    (absent : target ∉ numbersAll trees) : trees.map (append target added) = trees := by
  have same := List.map_congr_left fun below member => @append_of_not_mem target added below
    fun inside => absent (mem_numbersAll.mpr ⟨below, member, inside⟩)
  rw [same, List.map_id']

theorem find?_eq (sought : Nat) (tree : NumberedTree) :
    tree.find? sought =
      if tree.number = sought then some tree else tree.children.findSome? (find? sought) := by
  cases tree with
  | mk number node children =>
    rw [find?, findIn?_eq_findSome?]
    rfl

/-- A number that the added tree does not have is found where it was. -/
theorem find?_append_of_old (old : sought ∉ added.numbers) :
    (append target added tree).find? sought = (tree.find? sought).map (append target added) := by
  induction tree using below_induction with
  | step tree inductionHypothesis =>
    rw [find?_eq, find?_eq sought tree, number_append]
    by_cases here : tree.number = sought
    · rw [if_pos here, if_pos here, Option.map_some]
    · have below : (tree.children.map (append target added)).findSome? (find? sought) =
          (tree.children.findSome? (find? sought)).map (append target added) := by
        rw [List.findSome?_map, List.map_findSome?]
        exact findSome?_congr fun below member => inductionHypothesis below member
      have last : (if tree.number = target then [added] else []).findSome? (find? sought) =
          none := by
        split
        · rw [List.findSome?_singleton, find?_eq_none old]
        · rfl
      rw [if_neg here, if_neg here, append_eq, children, List.findSome?_append, below, last,
        Option.or_none]

/-- The added tree is found at its number. -/
theorem find?_append_self (distinct : tree.numbers.Nodup) (present : target ∈ tree.numbers)
    (new : added.number ∉ tree.numbers) :
    (append target added tree).find? added.number = some added := by
  induction tree using below_induction with
  | step tree inductionHypothesis =>
    have other : tree.number ≠ added.number := by
      intro same
      exact new (same ▸ tree.number_mem_numbers)
    have newBelow {below : NumberedTree} (member : below ∈ tree.children) :
        added.number ∉ below.numbers :=
      fun inside => new ((numbers_sublist_of_child member).subset inside)
    have distinctBelow := distinct.sublist (numbersAll_children_sublist tree)
    rw [find?_eq, number_append, if_neg other, append_eq, children, List.findSome?_append,
      List.findSome?_map]
    have absent : ∀ below ∈ tree.children, target ∉ below.numbers →
        (find? added.number ∘ append target added) below = none := by
      intro below member outside
      rw [Function.comp_apply, append_of_not_mem outside, find?_eq_none (newBelow member)]
    by_cases here : tree.number = target
    · have nothing : tree.children.findSome? (find? added.number ∘ append target added) =
          none := by
        rw [List.findSome?_eq_none_iff]
        intro below member
        exact absent below member fun inside => number_ne_of_child distinct member inside here
      rw [nothing, if_pos here, List.findSome?_singleton, find?_self, Option.none_or]
    · obtain ⟨below, member, inside⟩ : ∃ below ∈ tree.children, target ∈ below.numbers := by
        rw [← mem_numbersAll]
        cases tree with
        | mk number node children =>
          rw [numbers_mk] at present
          exact (List.mem_cons.mp present).resolve_left (Ne.symm here)
      rw [findSome?_of_mem absent distinctBelow member inside, Function.comp_apply,
        inductionHypothesis below member (distinct.sublist (numbers_sublist_of_child member))
          inside (newBelow member), Option.some_or]

/-- A tree below an added node comes to the same as adding the node with the tree in it. -/
theorem append_append {number : Nat} {node : Node} {siblings : List NumberedTree}
    (new : number ∉ tree.numbers) (alone : number ∉ numbersAll siblings) :
    append number added (append target (mk number node siblings) tree) =
      append target (mk number node (siblings ++ [added])) tree := by
  have inner : append number added (mk number node siblings) =
      mk number node (siblings ++ [added]) := by
    rw [append_eq, NumberedTree.children, map_append_of_not_mem alone]
    exact congrArg (fun last => mk number node (siblings ++ last)) (if_pos rfl)
  induction tree using below_induction with
  | step tree inductionHypothesis =>
    have other : tree.number ≠ number := by
      rintro rfl
      exact new tree.number_mem_numbers
    have below : (tree.children.map (append target (mk number node siblings))).map
        (append number added) =
          tree.children.map (append target (mk number node (siblings ++ [added]))) := by
      rw [List.map_map]
      exact List.map_congr_left fun below member => inductionHypothesis below member
        fun inside => new ((numbers_sublist_of_child member).subset inside)
    rw [append_eq, number_append, node_append, if_neg other, List.append_nil, append_eq,
      NumberedTree.children, List.map_append, below, append_eq]
    split
    · rw [List.map_singleton, inner]
    · rfl

end Added

/-! ### Changed nodes -/

section Changed

variable {target sought : Nat} {edit : Node → Node} {tree : NumberedTree}

theorem changeAll_eq_map (target : Nat) (edit : Node → Node) (trees : List NumberedTree) :
    changeAll target edit trees = trees.map (change target edit) := by
  induction trees with
  | nil => rw [changeAll, List.map_nil]
  | cons tree rest inductionHypothesis => rw [changeAll, List.map_cons, inductionHypothesis]

@[simp] theorem number_change : (change target edit tree).number = tree.number := by
  cases tree with
  | mk number node children => rw [change]; rfl

@[simp] theorem node_change :
    (change target edit tree).node =
      if tree.number = target then edit tree.node else tree.node := by
  cases tree with
  | mk number node children => rw [change]; rfl

@[simp] theorem children_change :
    (change target edit tree).children = tree.children.map (change target edit) := by
  cases tree with
  | mk number node children => rw [change, ← changeAll_eq_map]; rfl

/-- Parts are found where they were. -/
theorem find?_change :
    (change target edit tree).find? sought = (tree.find? sought).map (change target edit) := by
  induction tree using below_induction with
  | step tree inductionHypothesis =>
    rw [find?_eq, find?_eq sought tree, number_change, children_change, List.findSome?_map]
    by_cases here : tree.number = sought
    · rw [if_pos here, if_pos here, Option.map_some]
    · rw [if_neg here, if_neg here, List.map_findSome?]
      exact findSome?_congr fun below member => inductionHypothesis below member

end Changed

/-! ### Paths -/

/-- The part at the end of a path of positions among children. -/
def at? : List Nat → NumberedTree → Option NumberedTree
  | [], tree => some tree
  | position :: rest, tree => tree.children[position]?.bind (at? rest)

theorem numbers_sublist_of_at? {path : List Nat} {tree part : NumberedTree}
    (reached : at? path tree = some part) : part.numbers.Sublist tree.numbers := by
  induction path generalizing tree with
  | nil =>
    cases reached
    exact List.Sublist.refl _
  | cons position rest inductionHypothesis =>
    obtain ⟨below, here, reached⟩ := Option.bind_eq_some_iff.mp reached
    exact (inductionHypothesis reached).trans
      (numbers_sublist_of_child (List.mem_of_getElem? here))

end NumberedTree

/-- The tree with another one as the last child of the node at the end of a path. -/
def NodeTree.appendAt (added : NodeTree) : List Nat → NodeTree → NodeTree
  | [], .mk node children => .mk node (children ++ [added])
  | position :: rest, .mk node children => .mk node (children.modify position (appendAt added rest))

namespace NumberedTree

theorem toTrees_eq_map (trees : List NumberedTree) : toTrees trees = trees.map toTree := by
  induction trees with
  | nil => rw [toTrees, List.map_nil]
  | cons tree rest inductionHypothesis => rw [toTrees, List.map_cons, inductionHypothesis]

theorem exists_append_of_getElem? {α : Type} {entries : List α} {position : Nat} {entry : α}
    (found : entries[position]? = some entry) :
    ∃ before behind, entries = before ++ entry :: behind ∧ before.length = position := by
  obtain ⟨inside, rfl⟩ := List.getElem?_eq_some_iff.mp found
  exact ⟨entries.take position, entries.drop (position + 1), by simp, by simp; omega⟩

theorem modify_append_cons {α : Type} (edit : α → α) (before behind : List α) (entry : α) :
    (before ++ entry :: behind).modify before.length edit = before ++ edit entry :: behind := by
  rw [List.modify_eq_take_cons_drop (by simp)]
  simp

/-- A tree is added at the end of the path to its parent, and nothing else changes. -/
theorem toTree_append {path : List Nat} {target : Nat} {added tree part : NumberedTree}
    (distinct : tree.numbers.Nodup) (reached : at? path tree = some part)
    (here : part.number = target) :
    (append target added tree).toTree = NodeTree.appendAt added.toTree path tree.toTree := by
  induction path generalizing tree with
  | nil =>
    have same : tree = part := Option.some.inj reached
    subst same
    cases tree with
    | mk number node children =>
      obtain rfl : number = target := here
      rw [numbers_mk, List.nodup_cons] at distinct
      rw [append, appendAll_eq_map, map_append_of_not_mem distinct.1, if_pos rfl, toTree, toTree,
        toTrees_eq_map, toTrees_eq_map, List.map_append, NodeTree.appendAt]
      rfl
  | cons position rest inductionHypothesis =>
    obtain ⟨below, found, further⟩ := Option.bind_eq_some_iff.mp reached
    have inside : target ∈ below.numbers :=
      (numbers_sublist_of_at? further).subset (here ▸ part.number_mem_numbers)
    cases tree with
    | mk number node children =>
      obtain ⟨before, behind, rfl, rfl⟩ := exists_append_of_getElem? found
      have other : number ≠ target :=
        number_ne_of_child distinct (List.mem_append_right _ List.mem_cons_self) inside
      rw [numbers_mk, numbersAll_append, numbersAll_cons, List.nodup_cons, List.nodup_append,
        List.nodup_append] at distinct
      obtain ⟨_, _, ⟨distinctBelow, _, apartBehind⟩, apartBefore⟩ := distinct
      have outsideBefore : target ∉ numbersAll before := fun member =>
        apartBefore _ member _ (List.mem_append_left _ inside) rfl
      have outsideBehind : target ∉ numbersAll behind := fun member =>
        apartBehind _ inside _ member rfl
      have grown := inductionHypothesis distinctBelow further
      rw [append, appendAll_eq_map, if_neg other, List.map_append, List.map_cons,
        map_append_of_not_mem outsideBefore, map_append_of_not_mem outsideBehind, toTree, toTree,
        toTrees_eq_map, toTrees_eq_map, NodeTree.appendAt, List.map_append, List.map_append,
        List.map_cons, List.map_cons, grown]
      have modified := modify_append_cons (NodeTree.appendAt added.toTree rest)
        (before.map toTree) (behind.map toTree) below.toTree
      rw [List.length_map] at modified
      rw [modified]

end NumberedTree

end SceneMarkup
