import SceneMarkup.Proofs.Markup.WrittenTag
import SceneMarkup.Template.Instance

/-!
Contract: component bodies as an author writes them, and what they show.

Owns:
- `Inert`, text that means nothing to the second scan, and `Slotless`, text that means nothing to
  the first;
- `WrittenBody`, text with comments, placeholders and slots in it, nested through fallbacks;
- the characters of a body, and its rendering, which is defined part by part.

Does not own: the scans that a rendering goes through.
-/

namespace SceneMarkup.Template

open SceneMarkup.Text SceneMarkup.Markup

/-- Text in which neither a placeholder nor a comment begins, whatever comes before and behind. -/
def Inert (text : List Char) : Prop := '\x7b' ∉ text ∧ '!' ∉ text

/-- Text without the beginnings of the two slot tags in letters of any case. -/
def Slotless (text : List Char) : Prop :=
  ¬ ['<', 's', 'l', 'o', 't'] <:+: text.map Char.toLower ∧
    ¬ ['<', '/', 's', 'l', 'o', 't'] <:+: text.map Char.toLower

instance (text : List Char) : Decidable (Inert text) :=
  inferInstanceAs (Decidable ('\x7b' ∉ text ∧ '!' ∉ text))

instance (text : List Char) : Decidable (Slotless text) :=
  inferInstanceAs (Decidable (¬ ['<', 's', 'l', 'o', 't'] <:+: text.map Char.toLower ∧
    ¬ ['<', '/', 's', 'l', 'o', 't'] <:+: text.map Char.toLower))

/-- Plain text of a body. -/
structure BodyText where
  text : List Char
  inert : Inert text
  slotless : Slotless text

/-- A comment, set off by a space on both sides. -/
structure BodyComment where
  form : CommentForm
  inner : List Char
  known : form ∈ [CommentForm.angled, CommentForm.braced]
  unterminated : ¬ form.terminator <:+: inner
  slotless : Slotless inner

/-- What stands between the braces of a placeholder. -/
structure BodyPlaceholder where
  inner : List Char
  unbraced : '\x7b' ∉ inner ∧ '\x7d' ∉ inner
  untagged : '<' ∉ inner
  uncommented : ¬ ['/', '*'] <+: inner

/-- The name of a slot. -/
structure SlotName where
  letters : List Char
  nonempty : letters ≠ []
  alphanumeric : letters.all isAlphanumeric = true

/-- A body: plain text, or plain text in front of a comment, a placeholder or a slot and the rest.
Plain text may be empty. -/
inductive WrittenBody where
  | last (text : BodyText)
  | comment (before : BodyText) (remark : BodyComment) (rest : WrittenBody)
  | placeholder (before : BodyText) (hole : BodyPlaceholder) (rest : WrittenBody)
  | emptySlot (before : BodyText) (name : Option SlotName) (rest : WrittenBody)
  | slot (before : BodyText) (name : Option SlotName) (fallback rest : WrittenBody)

/-! ### Characters -/

def BodyComment.text (comment : BodyComment) : List Char :=
  comment.form.opener ++ ' ' :: (comment.inner ++ ' ' :: comment.form.terminator)

def BodyPlaceholder.text (placeholder : BodyPlaceholder) : List Char :=
  '\x7b' :: (placeholder.inner ++ ['\x7d'])

/-- The name of a slot in an attribute. -/
def SlotName.quoted (name : SlotName) : QuotedAttribute where
  gap := [' ']
  name := ['n', 'a', 'm', 'e']
  value := name.letters
  separated := QuotedAttribute.separated_space
  named := ⟨List.cons_ne_nil _ _, by decide⟩
  unquoted quote := by
    have letter := List.all_eq_true.mp name.alphanumeric _ quote
    revert letter
    decide

/-- The tag of a slot with a name or without one. -/
def slotTag (name : Option SlotName) : WrittenTag where
  name := "slot"
  kind := .container
  attributes := (name.map SlotName.quoted).toList
  trailing := []
  builtIn := by decide +kernel
  separated := List.all_nil

def slotEnd : List Char := ['<', '/', 's', 'l', 'o', 't', '>']

/-- A slot around the characters of its fallback. -/
def slotText (name : Option SlotName) (fallback : List Char) : List Char :=
  (slotTag name).text false ++ (fallback ++ slotEnd)

def WrittenBody.text : WrittenBody → List Char
  | .last text => text.text
  | .comment before remark rest => before.text ++ (remark.text ++ rest.text)
  | .placeholder before hole rest => before.text ++ (hole.text ++ rest.text)
  | .emptySlot before name rest => before.text ++ ((slotTag name).text true ++ rest.text)
  | .slot before name fallback rest =>
    before.text ++ (slotText name fallback.text ++ rest.text)

example : (slotTag none).text true = "<slot/>".toList := rfl

example : (slotTag (some ⟨['X'], List.cons_ne_nil _ _, by decide⟩)).text false =
    "<slot name=\"X\">".toList := rfl

/-! ### Rendering -/

/-- The letters of a slot's name, which count in any case. -/
def SlotName.lowered (name : SlotName) : List Char := name.letters.map Char.toLower

/-- The contents given under a name, one after the other. -/
def givenUnder (name : List Char) : List (String × List Char) → List Char
  | [] => []
  | (slot, given) :: rest =>
    if slot.toList = name then given ++ givenUnder name rest else givenUnder name rest

/-- What is given for a slot: the main content where it has no name or the default one, and
otherwise what is given under its name. -/
def givenTo (main : List Char) (named : List (String × List Char)) : Option SlotName → List Char
  | none => main
  | some name =>
    if name.lowered = "default".toList then main else givenUnder name.lowered named

section Rendering

variable (attributes : Attributes) (content : SlotContent)

/-- What a placeholder shows: the main content if it asks for that, or the attribute it names where
there is no main content, and otherwise the value of its expression. -/
def BodyPlaceholder.render (placeholder : BodyPlaceholder) : List Char :=
  let name := String.ofList (trim placeholder.inner)
  if contentNames.any (sameWord · name) then
    if content.main = [] then ((attributes.value? name).getD "").toList else content.main
  else placeholderValue attributes placeholder.inner

/-- What a slot shows: what is given for it, or else its fallback. -/
def renderSlot (name : Option SlotName) (fallback : List Char) : List Char :=
  let given := givenTo content.main content.named name
  if given = [] then fallback else given

/-- The rendering of a body, part by part. -/
def WrittenBody.render : WrittenBody → List Char
  | .last text => text.text
  | .comment before remark rest => before.text ++ (remark.text ++ rest.render)
  | .placeholder before hole rest =>
    before.text ++ (hole.render attributes content ++ rest.render)
  | .emptySlot before name rest => before.text ++ (renderSlot content name [] ++ rest.render)
  | .slot before name fallback rest =>
    before.text ++ (renderSlot content name fallback.render ++ rest.render)

end Rendering

end SceneMarkup.Template
