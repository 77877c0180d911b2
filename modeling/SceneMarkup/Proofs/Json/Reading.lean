import SceneMarkup.Proofs.Json.Scalars

/-!
Contract: what the reader of JSON text finds at the beginning of a text.

Owns:
- `Reads`, `ReadsElements` and `ReadsMembers`, the reader's results without their bounds;
- a rule for each form of a value, and for each end of a row of elements or members.

Does not own: how values are written.
-/

namespace SceneMarkup.Json

open SceneMarkup.Number SceneMarkup.Text

/-- A value stands at the beginning of a text, in front of the rest of it. -/
def Reads (levels : Nat) (text : List Char) (value : Value) (behind : List Char) : Prop :=
  ∃ rest, value? levels text = some (value, rest) ∧ rest.val = behind

/-- The values up to the end of an array stand at the beginning of a text. -/
def ReadsElements (levels : Nat) (text : List Char) (values : List Value)
    (behind : List Char) : Prop :=
  ∃ rest, elements? levels text = some (values, rest) ∧ rest.val = behind

/-- The members up to the end of an object stand at the beginning of a text. -/
def ReadsMembers (levels : Nat) (text : List Char) (members : List (String × Value))
    (behind : List Char) : Prop :=
  ∃ rest, members? levels text = some (members, rest) ∧ rest.val = behind

section Parts

variable {levels : Nat} {text middle behind : List Char} {value : Value}

theorem value?_of_scalar {first : Char} (noArray : first ≠ '[') (noObject : first ≠ '\x7b')
    (rest : List Char) : value? levels (first :: rest) = scalar? (first :: rest) := by
  rw [value?]
  · exact fun _ same => noArray (List.cons.inj same).1
  · exact fun _ same => noObject (List.cons.inj same).1

theorem reads_string {characters : List Char}
    (read : stringBody? text = some (characters, behind)) :
    Reads levels ('"' :: text) (.string (String.ofList characters)) behind := by
  rw [Reads, value?_of_scalar (by decide) (by decide), scalar?]
  split
  · rename_i unread
    rw [read] at unread
    cases unread
  · rename_i _ _ found
    rw [read] at found
    cases found
    exact ⟨_, rfl, rfl⟩

theorem reads_word {first : Char} {rest : List Char} (noString : first ≠ '"')
    (noArray : first ≠ '[') (noObject : first ≠ '\x7b')
    (read : word? (first :: rest) = some (value, behind)) :
    Reads levels (first :: rest) value behind := by
  rw [Reads, value?_of_scalar noArray noObject, scalar?]
  · split
    · rename_i _ _ found
      rw [read] at found
      cases found
      exact ⟨_, rfl, rfl⟩
    · rename_i unread
      rw [read] at unread
      cases unread
  · exact fun _ same => noString (List.cons.inj same).1

theorem word?_eq_none {first : Char} (rest : List Char)
    (numeric : first = '-' ∨ isDigit first = true) : word? (first :: rest) = none := by
  unfold word?
  split
  · rename_i same
    rw [(List.cons.inj same).1] at numeric
    exact absurd numeric (by decide)
  · rename_i same
    rw [(List.cons.inj same).1] at numeric
    exact absurd numeric (by decide)
  · rename_i same
    rw [(List.cons.inj same).1] at numeric
    exact absurd numeric (by decide)
  · rfl

theorem reads_number {number : Number} (read : number? text = some (number, behind)) :
    Reads levels text (.number number) behind := by
  obtain ⟨first, rest, rfl, numeric⟩ := exists_cons_of_number? read
  have other : ∀ letter, ¬ (letter = '-' ∨ isDigit letter = true) → first ≠ letter := by
    rintro letter notNumeric rfl
    exact notNumeric numeric
  rw [Reads, value?_of_scalar (other _ (by decide)) (other _ (by decide)), scalar?]
  · split
    · rename_i _ _ found
      rw [word?_eq_none rest numeric] at found
      cases found
    · split
      · rename_i _ _ found
        rw [read] at found
        cases found
        exact ⟨_, rfl, rfl⟩
      · rename_i unread
        rw [read] at unread
        cases unread
  · exact fun _ same => other '"' (by decide) (List.cons.inj same).1

theorem reads_emptyArray : Reads (levels + 1) ('[' :: ']' :: behind) (.array []) behind := by
  rw [Reads, value?]
  split
  · rename_i closed
    rw [skipSpaces, List.dropWhile_cons_of_neg (by decide)] at closed
    cases closed
    exact ⟨_, rfl, rfl⟩
  · rename_i closed
    exact absurd rfl (closed behind)

theorem reads_emptyObject :
    Reads (levels + 1) ('\x7b' :: '\x7d' :: behind) (.object []) behind := by
  rw [Reads, value?]
  split
  · rename_i closed
    rw [skipSpaces, List.dropWhile_cons_of_neg (by decide)] at closed
    cases closed
    exact ⟨_, rfl, rfl⟩
  · rename_i closed
    exact absurd rfl (closed behind)

theorem reads_array {values : List Value}
    (nonempty : ∀ rest, skipSpaces text ≠ ']' :: rest)
    (read : ReadsElements levels text values behind) :
    Reads (levels + 1) ('[' :: text) (.array values) behind := by
  obtain ⟨left, found, same⟩ := read
  rw [Reads, value?]
  split
  · rename_i closed
    exact absurd closed (nonempty _)
  · rw [found]
    exact ⟨_, rfl, same⟩

theorem reads_object {members : List (String × Value)}
    (nonempty : ∀ rest, skipSpaces text ≠ '\x7d' :: rest)
    (read : ReadsMembers levels text members behind) :
    Reads (levels + 1) ('\x7b' :: text) (.object (sortedMembers members)) behind := by
  obtain ⟨left, found, same⟩ := read
  rw [Reads, value?]
  split
  · rename_i closed
    exact absurd closed (nonempty _)
  · rw [found]
    exact ⟨_, rfl, same⟩

theorem readsElements_last (read : Reads levels (skipSpaces text) value middle)
    (closed : skipSpaces middle = ']' :: behind) : ReadsElements levels text [value] behind := by
  obtain ⟨left, found, rfl⟩ := read
  rw [ReadsElements, elements?, found]
  dsimp only
  split
  · rename_i last
    rw [closed] at last
    cases last
    exact ⟨_, rfl, rfl⟩
  · rename_i next
    rw [closed] at next
    cases next
  · rename_i notLast _
    exact absurd closed (notLast behind)

theorem readsElements_cons {rest : List Char} {values : List Value}
    (read : Reads levels (skipSpaces text) value middle)
    (separated : skipSpaces middle = ',' :: rest)
    (readRest : ReadsElements levels rest values behind) :
    ReadsElements levels text (value :: values) behind := by
  obtain ⟨left, found, rfl⟩ := read
  obtain ⟨leftRest, foundRest, same⟩ := readRest
  rw [ReadsElements, elements?, found]
  dsimp only
  split
  · rename_i last
    rw [separated] at last
    cases last
  · rename_i next
    rw [separated] at next
    cases next
    rw [foundRest]
    exact ⟨_, rfl, same⟩
  · rename_i notNext
    exact absurd separated (notNext rest)

/-- A key stands at the beginning of a text, with a colon right behind its closing quote. -/
theorem exists_of_key? {characters : List Char}
    (read : stringBody? text = some (characters, ':' :: behind)) :
    ∃ rest, key? ('"' :: text) = some (String.ofList characters, rest) ∧ rest.val = behind := by
  rw [key?]
  split
  · rename_i unread
    rw [read] at unread
    cases unread
  · rename_i _ _ found
    rw [read] at found
    cases found
    split
    · rename_i colon
      rw [skipSpaces, List.dropWhile_cons_of_neg (by decide)] at colon
      cases colon
      exact ⟨_, rfl, rfl⟩
    · rename_i noColon
      exact absurd rfl (noColon behind)

theorem readsMembers_last {key : String} {valueText : List Char}
    (readKey : ∃ rest, key? (skipSpaces text) = some (key, rest) ∧ rest.val = valueText)
    (read : Reads levels (skipSpaces valueText) value middle)
    (closed : skipSpaces middle = '\x7d' :: behind) :
    ReadsMembers levels text [(key, value)] behind := by
  obtain ⟨afterKey, foundKey, rfl⟩ := readKey
  obtain ⟨left, found, rfl⟩ := read
  rw [ReadsMembers, members?, foundKey]
  dsimp only
  rw [found]
  dsimp only
  split
  · rename_i last
    rw [closed] at last
    cases last
    exact ⟨_, rfl, rfl⟩
  · rename_i next
    rw [closed] at next
    cases next
  · rename_i notLast _
    exact absurd closed (notLast behind)

theorem readsMembers_cons {key : String} {valueText rest : List Char}
    {members : List (String × Value)}
    (readKey : ∃ rest, key? (skipSpaces text) = some (key, rest) ∧ rest.val = valueText)
    (read : Reads levels (skipSpaces valueText) value middle)
    (separated : skipSpaces middle = ',' :: rest)
    (readRest : ReadsMembers levels rest members behind) :
    ReadsMembers levels text ((key, value) :: members) behind := by
  obtain ⟨afterKey, foundKey, rfl⟩ := readKey
  obtain ⟨left, found, rfl⟩ := read
  obtain ⟨leftRest, foundRest, same⟩ := readRest
  rw [ReadsMembers, members?, foundKey]
  dsimp only
  rw [found]
  dsimp only
  split
  · rename_i last
    rw [separated] at last
    cases last
  · rename_i next
    rw [separated] at next
    cases next
    rw [foundRest]
    exact ⟨_, rfl, same⟩
  · rename_i notNext
    exact absurd separated (notNext rest)

end Parts

end SceneMarkup.Json
