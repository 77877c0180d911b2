import SceneMarkup.Proofs.Color.Hex
import SceneMarkup.Proofs.Json.WrittenDraft
import SceneMarkup.Proofs.Node.Settled
import SceneMarkup.Scene.Emission
import SceneMarkup.Scene.Literal

/-!
Contract: members of literals that are left out where a field has its default.

Owns:
- numbers that are read back from the text that emission writes for them;
- `Entry`, a member that a literal may have, with the assignment that it stands for;
- the entries of all kinds of fields, which are restored on a node with every default;
- rows of entries, of which the written ones do as much as all of them.

Does not own: which entries a node has.
-/

namespace SceneMarkup

open SceneMarkup.Text SceneMarkup.Json SceneMarkup.Number

/-! ### Numbers -/

namespace Emission

/-- The number that the binder reads from the text that emission writes for a number. -/
def readBack? (value : Float32) : Option Float32 :=
  match number? (Draft.numberText value) with
  | some (number, []) => readFloat32? number.text.toList
  | _ => none

theorem exists_of_readBack? {value read : Float32} (found : readBack? value = some read) :
    ∃ number, number? (Draft.numberText value) = some (number, []) ∧
      readFloat32? number.text.toList = some read := by
  unfold readBack? at found
  split at found
  · rename_i number whole
    exact ⟨number, whole, found⟩
  · cases found

/-- A finite number that is read back from its text. -/
structure Recoverable (value : Float32) : Prop where
  finite : isFiniteNumber value = true
  read : readBack? value = some value

theorem Recoverable.legible {value : Float32} (recoverable : Recoverable value) :
    Draft.LegibleNumber value := by
  obtain ⟨number, whole, _⟩ := exists_of_readBack? recoverable.read
  intro (_ : isFiniteNumber value = true)
  rw [whole]
  rfl

end Emission

/-! ### Words -/

namespace Binding

theorem readFlag_word (name : String) (value default : Bool) :
    readFlag name (trimmed (if value then "true" else "false")) default = .ok value := by
  have words : ∀ value : Bool, trimmed (if value then "true" else "false") ≠ "" ∧
      truthValue? (trimmed (if value then "true" else "false")) = some value := by decide +kernel
  rw [readFlag, if_neg (words value).1, (words value).2]

theorem readAlignment_name (name : String) (alignment : Alignment) :
    readAlignment name (trimmed alignment.name) = .ok alignment := by
  have words : trimmed alignment.name ≠ "" ∧
      Alignment.ofWord? (trimmed alignment.name) = some alignment := by
    cases alignment <;> decide +kernel
  rw [readAlignment, if_neg words.1, words.2]

end Binding

namespace Emission

/-! ### Entries -/

/-- A member that the literal of a node may have: the property that its key asks for, what is
written if anything is, and the assignment that it stands for even where it is not written. -/
structure Entry where
  key : String
  property : Property
  draft : Option Draft
  made : Assignment

namespace Entry

/-- Of a written entry the assignment is read back; that of another one changes no blank node. -/
structure Restores (entry : Entry) (blank : Node) : Prop where
  written : ∀ draft, entry.draft = some draft →
    ∃ text, Literal.scalarText? draft.value = some text ∧
      Binding.read blank.kind .rgba entry.key text entry.property = .ok (some entry.made)
  omitted : entry.draft = none → blank.assign entry.made = blank

section Builders

variable (key : String) (id : NodeId) (kind : Kind)

/-- A number, if it is to be written. -/
def ofNumber (field : NumberField) (written : Bool) (value : Float32) : Entry where
  key := key
  property := .number field
  draft := if written then some (.number value) else none
  made := .number field (if written then value else Binding.defaultNumber field)

def ofSize (field : SizeField) (written : Bool) (value : Float32) : Entry where
  key := key
  property := .size field
  draft := if written then some (.number value) else none
  made := .size field (if written then value else Binding.defaultSize kind field)

def ofColor (field : ColorField) (color : Option Color) : Entry where
  key := key
  property := .color field
  draft := color.map fun color => .string color.toHex
  made := .color field color

/-- A text that a property reads, if it is to be written. -/
def ofText (property : Property) (field : TextField) (written : Bool) (text : String) : Entry where
  key := key
  property := property
  draft := if written then some (.string text) else none
  made := .text field (if written then text else "")

def ofFlag (field : FlagField) (value : Bool) : Entry where
  key := key
  property := .flag field false
  draft := if value != Binding.defaultFlag field false then some (.boolean value) else none
  made := .flag field value

def ofAlignment (field : AlignmentField) (alignment : Alignment) : Entry where
  key := key
  property := .alignment field
  draft := if alignment != .start then some (.string alignment.name) else none
  made := .alignment field alignment

def ofName (field : NameField) (name : Option String) : Entry where
  key := key
  property := .name field
  draft := name.map .string
  made := .name field name

variable {key id kind}

theorem restores_of_written {entry : Entry} {blank : Node} {draft : Draft} {text : String}
    (present : entry.draft = some draft) (scalar : Literal.scalarText? draft.value = some text)
    (read : Binding.read blank.kind .rgba entry.key text entry.property = .ok (some entry.made)) :
    entry.Restores blank := by
  constructor
  · intro other found
    cases present.symm.trans found
    exact ⟨text, scalar, read⟩
  · intro absent
    cases present.symm.trans absent

theorem restores_of_string {entry : Entry} {blank : Node} {text : String}
    (present : entry.draft = some (.string text))
    (read : Binding.read blank.kind .rgba entry.key text entry.property = .ok (some entry.made)) :
    entry.Restores blank :=
  restores_of_written present rfl read

theorem restores_of_omitted {entry : Entry} {blank : Node} (absent : entry.draft = none)
    (kept : blank.assign entry.made = blank) : entry.Restores blank := by
  constructor
  · intro draft found
    cases absent.symm.trans found
  · exact fun _ => kept

/-- The binder reads the text of a recoverable number. -/
theorem exists_text_of_recoverable {value : Float32} (recoverable : Recoverable value) :
    ∃ text, Literal.scalarText? (Draft.number value).value = some text ∧
      ∀ name default, Binding.readNumber name (trimmed text) default = .ok value := by
  obtain ⟨number, whole, read⟩ := exists_of_readBack? recoverable.read
  refine ⟨number.text, ?_, ?_⟩
  · rw [Draft.value, Draft.numberValue, whole]
    rfl
  · exact Binding.readNumber_of_readFloat32? read recoverable.finite

theorem restores_ofNumber {field : NumberField} {written : Bool} {value : Float32}
    (recoverable : Recoverable value) :
    (ofNumber key field written value).Restores (Node.ofKind id kind) := by
  cases written with
  | false =>
    apply restores_of_omitted rfl
    cases field <;> rfl
  | true =>
    obtain ⟨text, scalar, read⟩ := exists_text_of_recoverable recoverable
    apply restores_of_written rfl scalar
    rw [ofNumber, Binding.read, read]
    rfl

theorem restores_ofSize {field : SizeField} {written : Bool} {value : Float32}
    (recoverable : Recoverable value) :
    (ofSize key kind field written value).Restores (Node.ofKind id kind) := by
  cases written with
  | false =>
    apply restores_of_omitted rfl
    show (Node.ofKind id kind).setSize (clampedSize (Binding.defaultSize kind field)) field = _
    rw [Binding.clampedSize_defaultSize]
    cases field <;> rfl
  | true =>
    obtain ⟨text, scalar, read⟩ := exists_text_of_recoverable recoverable
    apply restores_of_written rfl scalar
    rw [ofSize, Binding.read, read]
    rfl

theorem restores_ofColor {field : ColorField} {color : Option Color} :
    (ofColor key field color).Restores (Node.ofKind id kind) := by
  cases color with
  | none =>
    apply restores_of_omitted rfl
    cases field <;> rfl
  | some color =>
    have visible : color.toHex ≠ "" := by
      intro empty
      have trimmedEmpty := Color.trim_toHex color
      rw [empty] at trimmedEmpty
      cases trimmedEmpty
    apply restores_of_string rfl
    rw [ofColor, Binding.read, Color.trimmed_toHex, Binding.present, if_neg visible,
      Option.map_some, Color.resolve_toHex]

/-- A text is restored where its property reads it as it is. -/
theorem restores_ofText {property : Property} {field : TextField} {written : Bool} {text : String}
    (read : written = true → Binding.read kind .rgba key text property =
      .ok (some (.text field text))) :
    (ofText key property field written text).Restores (Node.ofKind id kind) := by
  cases written with
  | false =>
    apply restores_of_omitted rfl
    cases field <;> rfl
  | true => exact restores_of_string rfl (read rfl)

theorem restores_ofFlag {field : FlagField} {value : Bool} :
    (ofFlag key field value).Restores (Node.ofKind id kind) := by
  by_cases shown : (value != Binding.defaultFlag field false) = true
  · apply restores_of_written (if_pos shown) rfl
    rw [ofFlag, Binding.read, Binding.readFlag_word]
    show Except.ok (some (Assignment.flag field (value != false))) = _
    rw [Bool.bne_false]
  · apply restores_of_omitted (if_neg shown)
    have default : value = Binding.defaultFlag field false := by simpa using shown
    rw [default]
    cases field <;> rfl

theorem restores_ofAlignment {field : AlignmentField} {alignment : Alignment} :
    (ofAlignment key field alignment).Restores (Node.ofKind id kind) := by
  by_cases shown : (alignment != .start) = true
  · apply restores_of_string (if_pos shown)
    rw [ofAlignment, Binding.read, Binding.readAlignment_name]
    rfl
  · apply restores_of_omitted (if_neg shown)
    have start : alignment = .start := by simpa using shown
    rw [start]
    cases field <;> rfl

theorem restores_ofName {field : NameField} {name : Option String} (settled : SettledName name) :
    (ofName key field name).Restores (Node.ofKind id kind) := by
  cases name with
  | none =>
    apply restores_of_omitted rfl
    cases field <;> rfl
  | some name =>
    have present : Binding.present (trimmed name) = some name := settled
    apply restores_of_string rfl
    rw [ofName, Binding.read, present]

end Builders

/-! ### Entries in a row -/

/-- The members that an entry writes. -/
def members (entry : Entry) : List (String × Draft) :=
  (entry.draft.map fun draft => (entry.key, draft)).toList

theorem members_ofNumber (key : String) (field : NumberField) (written : Bool) (value : Float32) :
    (ofNumber key field written value).members = memberIf written key (.number value) := by
  cases written <;> rfl

theorem members_ofSize (key : String) (kind : Kind) (field : SizeField) (written : Bool)
    (value : Float32) :
    (ofSize key kind field written value).members = memberIf written key (.number value) := by
  cases written <;> rfl

theorem members_ofColor (key : String) (field : ColorField) (color : Option Color) :
    (ofColor key field color).members = colorMember key color := by
  cases color <;> rfl

theorem members_ofText (key : String) (property : Property) (field : TextField) (written : Bool)
    (text : String) :
    (ofText key property field written text).members = memberIf written key (.string text) := by
  cases written <;> rfl

theorem members_ofFlag (key : String) (field : FlagField) (value : Bool) :
    (ofFlag key field value).members = flagMember key value (Binding.defaultFlag field false) := by
  rw [members, ofFlag, flagMember, memberIf]
  split <;> rfl

theorem members_ofAlignment (key : String) (field : AlignmentField) (alignment : Alignment) :
    (ofAlignment key field alignment).members = alignmentMember key alignment := by
  cases alignment <;> rfl

theorem members_ofName (key : String) (field : NameField) (name : Option String) :
    (ofName key field name).members = nameMember key name := by
  cases name <;> rfl

/-- The entries that are written. -/
def written (entries : List Entry) : List Entry := entries.filter fun entry => entry.draft.isSome

theorem written_cons_of_some {entry : Entry} {draft : Draft} (present : entry.draft = some draft)
    (rest : List Entry) : written (entry :: rest) = entry :: written rest :=
  List.filter_cons_of_pos (by rw [present]; rfl)

theorem written_cons_of_none {entry : Entry} (absent : entry.draft = none) (rest : List Entry) :
    written (entry :: rest) = written rest :=
  List.filter_cons_of_neg (by rw [absent]; exact Bool.false_ne_true)

theorem members_of_some {entry : Entry} {draft : Draft} (present : entry.draft = some draft) :
    entry.members = [(entry.key, draft)] := by
  rw [members, present]
  rfl

theorem members_of_none {entry : Entry} (absent : entry.draft = none) : entry.members = [] := by
  rw [members, absent]
  rfl

theorem keys_members (entries : List Entry) :
    (entries.flatMap members).map Prod.fst = (written entries).map key := by
  induction entries with
  | nil => rfl
  | cons entry rest inductionHypothesis =>
    rw [List.flatMap_cons, List.map_append, inductionHypothesis]
    cases shown : entry.draft with
    | none => rw [members_of_none shown, written_cons_of_none shown, List.map_nil, List.nil_append]
    | some draft => rw [members_of_some shown, written_cons_of_some shown]; rfl

section Rows

variable {entries : List Entry} {blank : Node}

/-- The members that entries write are read as the assignments of these entries. -/
theorem assignments_members (restore : ∀ entry ∈ entries, entry.Restores blank)
    (asked : ∀ entry ∈ entries, Property.ofName? entry.key = some entry.property) :
    (Literal.attributes (Draft.memberValues (entries.flatMap members))).assignments blank.kind
      .rgba = (written entries).map made := by
  induction entries with
  | nil => rfl
  | cons entry rest inductionHypothesis =>
    obtain ⟨restoresEntry, restoreRest⟩ := List.forall_mem_cons.mp restore
    obtain ⟨askedEntry, askedRest⟩ := List.forall_mem_cons.mp asked
    have later := inductionHypothesis restoreRest askedRest
    rw [List.flatMap_cons]
    cases shown : entry.draft with
    | none =>
      rw [members_of_none shown, written_cons_of_none shown]
      exact later
    | some draft =>
      obtain ⟨text, scalar, read⟩ := restoresEntry.written draft shown
      let pair : Attribute := ⟨entry.key, text⟩
      have askedAttribute : Property.ofName? pair.name = some entry.property := askedEntry
      have first : Attributes.assigned? blank.kind .rgba pair = some entry.made := by
        rw [Attributes.assigned?_of_property askedAttribute, read]
        rfl
      have front : Literal.attributes (Draft.memberValues ((entry.key, draft) ::
          rest.flatMap members)) = pair ::
            Literal.attributes (Draft.memberValues (rest.flatMap members)) := by
        apply List.filterMap_cons_some
        rw [scalar]
        rfl
      rw [members_of_some shown, written_cons_of_some shown, List.cons_append, List.nil_append,
        front, Attributes.assignments, List.filterMap_cons_some first, List.map_cons]
      exact congrArg _ later

theorem assignAll_of_omitted (restore : ∀ entry ∈ entries, entry.Restores blank)
    (omitted : ∀ entry ∈ entries, entry.draft = none) :
    blank.assignAll (entries.map made) = blank := by
  induction entries with
  | nil => rfl
  | cons entry rest inductionHypothesis =>
    obtain ⟨restoresEntry, restoreRest⟩ := List.forall_mem_cons.mp restore
    obtain ⟨omittedEntry, omittedRest⟩ := List.forall_mem_cons.mp omitted
    rw [List.map_cons, Node.assignAll_cons, restoresEntry.omitted omittedEntry]
    exact inductionHypothesis restoreRest omittedRest

/-- On a blank node the written entries do as much as all of them. -/
theorem assignAll_written (restore : ∀ entry ∈ entries, entry.Restores blank)
    (distinct : (entries.map fun entry => entry.made.field).Nodup) :
    blank.assignAll ((written entries).map made) = blank.assignAll (entries.map made) := by
  -- With distinct fields the omitted entries can go first, where they change nothing.
  let omitted := entries.filter fun entry => !entry.draft.isSome
  have parts : (omitted ++ written entries).Perm entries :=
    List.perm_append_comm.trans (List.filter_append_perm _ entries)
  have fields : (((omitted ++ written entries).map made).map Assignment.field).Nodup := by
    rw [List.map_map, (parts.map _).nodup_iff]
    exact distinct
  have blankAfter : blank.assignAll (omitted.map made) = blank := by
    apply assignAll_of_omitted
    · intro entry member
      exact restore entry (List.mem_of_mem_filter member)
    · intro entry member
      simpa using List.of_mem_filter member
  rw [← Node.assignAll_of_perm (parts.map made) fields, List.map_append, Node.assignAll_append,
    blankAfter]

end Rows

end Entry

end Emission

end SceneMarkup
