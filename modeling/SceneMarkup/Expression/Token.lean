import SceneMarkup.Markup.Names
import SceneMarkup.Number.Reading
import SceneMarkup.Text.Search

/-!
Contract: the tokens of expressions.

Owns:
- `Token`, a name, a literal or a sign;
- `tokens?`, the tokens of a text.

Does not own: how tokens make an expression.
-/

namespace SceneMarkup.Expression

open SceneMarkup.Text SceneMarkup.Markup

inductive Sign where
  | fallback
  | question
  | colon
  | plus
  | minus
  | times
  | dividedBy
  | opening
  | closing
deriving DecidableEq, Repr

inductive Token where
  | name (name : String)
  | literal (text : String)
  | sign (sign : Sign)
deriving DecidableEq, Repr

/-- The characters of attribute names in expressions. -/
def isNamePart (character : Char) : Bool := isNameCharacter character || character == '.'

/-- The sign that one character makes. -/
def sign? : Char → Option Sign
  | '?' => some .question
  | ':' => some .colon
  | '+' => some .plus
  | '-' => some .minus
  | '*' => some .times
  | '/' => some .dividedBy
  | '(' => some .opening
  | ')' => some .closing
  | _ => none

/-- The number at the beginning of a text that starts with a digit: digits, then a point with more
digits where there are any. -/
def numberPart (text : List Char) : List Char × List Char :=
  let whole := text.takeWhile Number.isDigit
  let behind := text.dropWhile Number.isDigit
  match behind with
  | '.' :: rest =>
    if rest.takeWhile Number.isDigit = [] then (whole, behind)
    else
      (whole ++ '.' :: rest.takeWhile Number.isDigit, rest.dropWhile Number.isDigit)
  | _ => (whole, behind)

/-- A name or a sign of one character. -/
def nameOrSign? (text : List Char) : Option (Token × List Char) :=
  match text with
  | [] => none
  | character :: rest =>
    if isNamePart character then
      some (.name (String.ofList (text.takeWhile isNamePart)), text.dropWhile isNamePart)
    else (sign? character).map fun sign => (.sign sign, rest)

/-- The token at the beginning of a text, and the text behind it. -/
def token? (text : List Char) : Option (Token × List Char) :=
  match text with
  | [] => none
  | character :: rest =>
    if character = '|' then
      match rest with
      | '|' :: rest => some (.sign .fallback, rest)
      | _ => none
    else if character = '\'' ∨ character = '"' then
      (cutAt? [character] rest).map fun (inner, behind) => (.literal (String.ofList inner), behind)
    else if Number.isDigit character then
      some (.literal (String.ofList (numberPart text).1), (numberPart text).2)
    else nameOrSign? text

theorem properSuffix_numberPart {character : Char} {rest : List Char}
    (digit : Number.isDigit character = true) :
    ProperSuffix (numberPart (character :: rest)).2 (character :: rest) := by
  have whole : ProperSuffix ((character :: rest).dropWhile Number.isDigit) (character :: rest) :=
    properSuffix_dropWhile (by simp [digit])
  unfold numberPart
  simp only
  split
  · rename_i behind pointed
    split
    · exact whole
    · rw [pointed] at whole
      exact whole.suffix_trans ((List.dropWhile_suffix _).trans (List.suffix_cons _ _))
  · exact whole

theorem properSuffix_of_token? {text behind : List Char} {token : Token}
    (read : token? text = some (token, behind)) : ProperSuffix behind text := by
  unfold token? at read
  split at read
  · cases read
  · rename_i character rest
    split at read
    · split at read
      · cases read
        exact properSuffix_cons _ (List.suffix_cons _ _)
      · cases read
    · split at read
      · obtain ⟨cut, searched, same⟩ := Option.map_eq_some_iff.mp read
        cases same
        exact properSuffix_cons _ (properSuffix_of_cutAt? searched (by simp)).suffix
      · split at read
        · rename_i digit
          cases read
          exact properSuffix_numberPart digit
        · unfold nameOrSign? at read
          simp only at read
          split at read
          · rename_i named
            cases read
            exact properSuffix_dropWhile (by simp [named])
          · obtain ⟨_, _, same⟩ := Option.map_eq_some_iff.mp read
            cases same
            exact properSuffix_cons _ List.suffix_rfl

/-- The tokens of a text with separators between them; a text with anything else has none. -/
def tokens? (text : List Char) : Option (List Token) :=
  if skipSeparators text = [] then some []
  else
    match _read : token? (skipSeparators text) with
    | none => none
    | some (token, behind) => (tokens? behind).map (token :: ·)
termination_by text.length
decreasing_by
  exact ((properSuffix_of_token? _read).trans_suffix (skipSeparators_suffix text)).length_lt

end SceneMarkup.Expression
