import SceneMarkup.Json.Number
import SceneMarkup.Json.Quoted

/-!
Contract: reading JSON text.

Owns:
- the grammar of values, with a bound on how deep arrays and objects nest;
- `read?`, the value of a whole text.

Does not own: what a value means.
-/

namespace SceneMarkup.Json

open SceneMarkup.Text

/-- The four characters that may stand between the parts of a value. -/
def isSpace (character : Char) : Bool :=
  character == ' ' || character == '\n' || character == '\t' || character == '\r'

def skipSpaces (text : List Char) : List Char := text.dropWhile isSpace

theorem skipSpaces_suffix (text : List Char) : skipSpaces text <:+ text :=
  List.dropWhile_suffix isSpace

/-- The text behind something read from a text. -/
abbrev Rest (text : List Char) := { rest : List Char // ProperSuffix rest text }

/-- The same text behind something that begins earlier. -/
def Rest.widen {inner outer : List Char} (suffix : inner <:+ outer) (rest : Rest inner) :
    Rest outer :=
  ⟨rest.val, rest.property.trans_suffix suffix⟩

/-- How many levels of arrays and objects a text may have. -/
def maximalDepth : Nat := 127

def word? (text : List Char) : Option (Value × List Char) :=
  match text with
  | 'n' :: 'u' :: 'l' :: 'l' :: rest => some (.null, rest)
  | 't' :: 'r' :: 'u' :: 'e' :: rest => some (.boolean true, rest)
  | 'f' :: 'a' :: 'l' :: 's' :: 'e' :: rest => some (.boolean false, rest)
  | _ => none

theorem properSuffix_of_word? {text behind : List Char} {value : Value}
    (read : word? text = some (value, behind)) : ProperSuffix behind text := by
  unfold word? at read
  split at read
  · cases read
    exact properSuffix_cons _ (List.suffix_append ['u', 'l', 'l'] _)
  · cases read
    exact properSuffix_cons _ (List.suffix_append ['r', 'u', 'e'] _)
  · cases read
    exact properSuffix_cons _ (List.suffix_append ['a', 'l', 's', 'e'] _)
  · cases read

/-- The value at the beginning of a text if it has no parts: a string, a word or a number. -/
def scalar? (text : List Char) : Option (Value × Rest text) :=
  match text with
  | '"' :: rest =>
    match read : stringBody? rest with
    | none => none
    | some (characters, behind) =>
      some (.string (String.ofList characters),
        ⟨behind, (properSuffix_of_stringBody? read).trans_suffix (List.suffix_cons _ _)⟩)
  | text =>
    match read : word? text with
    | some (value, behind) => some (value, ⟨behind, properSuffix_of_word? read⟩)
    | none =>
      match read : number? text with
      | some (number, behind) => some (.number number, ⟨behind, properSuffix_of_number? read⟩)
      | none => none

/-- The key at the beginning of a text with the colon that follows, and the text behind both. -/
def key? (text : List Char) : Option (String × Rest text) :=
  match text with
  | '"' :: rest =>
    match read : stringBody? rest with
    | none => none
    | some (characters, behind) =>
      match colon : skipSpaces behind with
      | ':' :: after =>
        some (String.ofList characters, ⟨after, by
          have separated := skipSpaces_suffix behind
          rw [colon] at separated
          exact properSuffix_cons _ (((List.suffix_cons _ _).trans separated).trans
            (properSuffix_of_stringBody? read).suffix)⟩)
      | _ => none
  | _ => none

mutual
/-- The value at the beginning of a text, in which `levels` more arrays and objects may nest. -/
def value? (levels : Nat) (text : List Char) : Option (Value × Rest text) :=
  match text with
  | '[' :: rest =>
    match levels with
    | 0 => none
    | levels + 1 =>
      match closed : skipSpaces rest with
      | ']' :: behind =>
        some (.array [], ⟨behind, by
          have separated := skipSpaces_suffix rest
          rw [closed] at separated
          exact properSuffix_cons _ ((List.suffix_cons _ _).trans separated)⟩)
      | _ =>
        (elements? levels rest).map fun (values, behind) =>
          (.array values, behind.widen (List.suffix_cons _ _))
  | '{' :: rest =>
    match levels with
    | 0 => none
    | levels + 1 =>
      match closed : skipSpaces rest with
      | '}' :: behind =>
        some (.object [], ⟨behind, by
          have separated := skipSpaces_suffix rest
          rw [closed] at separated
          exact properSuffix_cons _ ((List.suffix_cons _ _).trans separated)⟩)
      | _ =>
        (members? levels rest).map fun (members, behind) =>
          (.object (sortedMembers members), behind.widen (List.suffix_cons _ _))
  | text => scalar? text
termination_by (text.length, 0)
decreasing_by all_goals exact Prod.Lex.left _ _ (by simp)

/-- The values up to the end of an array; there is at least one. -/
def elements? (levels : Nat) (text : List Char) : Option (List Value × Rest text) :=
  match value? levels (skipSpaces text) with
  | none => none
  | some (first, behind) =>
    match separated : skipSpaces behind.val with
    | ']' :: rest =>
      some ([first], ⟨rest, by
        have skipped := skipSpaces_suffix behind.val
        rw [separated] at skipped
        exact (behind.property.suffix_trans ((List.suffix_cons _ _).trans skipped)).trans_suffix
          (skipSpaces_suffix text)⟩)
    | ',' :: rest =>
      (elements? levels rest).map fun (others, behind') =>
        (first :: others, behind'.widen (by
          have skipped := skipSpaces_suffix behind.val
          rw [separated] at skipped
          exact (((List.suffix_cons _ _).trans skipped).trans behind.property.suffix).trans
            (skipSpaces_suffix text)))
    | _ => none
termination_by (text.length, 1)
decreasing_by
  · have := (skipSpaces_suffix text).length_le
    rcases Nat.lt_or_eq_of_le this with shorter | same
    · exact Prod.Lex.left _ _ shorter
    · rw [same]
      exact Prod.Lex.right _ (by decide)
  · have skipped := skipSpaces_suffix behind.val
    rw [separated] at skipped
    have := skipped.length_le
    have := behind.property.length_lt
    have := (skipSpaces_suffix text).length_le
    simp only [List.length_cons] at *
    exact Prod.Lex.left _ _ (by omega)

/-- The members up to the end of an object; there is at least one. -/
def members? (levels : Nat) (text : List Char) :
    Option (List (String × Value) × Rest text) :=
  match key? (skipSpaces text) with
  | none => none
  | some (key, afterKey) =>
    match value? levels (skipSpaces afterKey.val) with
    | none => none
    | some (first, behind) =>
      match separated : skipSpaces behind.val with
      | '}' :: rest =>
        some ([(key, first)], ⟨rest, by
          have skipped := skipSpaces_suffix behind.val
          rw [separated] at skipped
          exact ((behind.property.suffix_trans
            ((List.suffix_cons _ _).trans skipped)).trans_suffix
              (((skipSpaces_suffix _).trans afterKey.property.suffix).trans
                (skipSpaces_suffix text)))⟩)
      | ',' :: rest =>
        (members? levels rest).map fun (others, behind') =>
          ((key, first) :: others, behind'.widen (by
            have skipped := skipSpaces_suffix behind.val
            rw [separated] at skipped
            exact ((((List.suffix_cons _ _).trans skipped).trans behind.property.suffix).trans
              ((skipSpaces_suffix _).trans afterKey.property.suffix)).trans
                (skipSpaces_suffix text)))
      | _ => none
termination_by (text.length, 1)
decreasing_by
  · have := (skipSpaces_suffix text).length_le
    have := afterKey.property.length_lt
    have := (skipSpaces_suffix afterKey.val).length_le
    exact Prod.Lex.left _ _ (by omega)
  · have skipped := skipSpaces_suffix behind.val
    rw [separated] at skipped
    have := skipped.length_le
    have := behind.property.length_lt
    have := (skipSpaces_suffix text).length_le
    have := afterKey.property.length_lt
    have := (skipSpaces_suffix afterKey.val).length_le
    simp only [List.length_cons] at *
    exact Prod.Lex.left _ _ (by omega)
end

/-- The value of a whole text. -/
def read? (text : List Char) : Option Value :=
  match value? maximalDepth (skipSpaces text) with
  | some (value, rest) => if skipSpaces rest.val = [] then some value else none
  | none => none

end SceneMarkup.Json
