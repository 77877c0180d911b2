/-!
Contract: what is left of a text behind something read from its beginning.

Owns:
- `ProperSuffix`, an end of a text that is shorter than the text;
- the laws by which readers that advance are composed.

Does not own: any reader.
-/

namespace SceneMarkup.Text

/-- An end of the text that leaves out at least its first character. -/
structure ProperSuffix (behind text : List Char) : Prop where
  suffix : behind <:+ text
  length_lt : behind.length < text.length

theorem properSuffix_cons {behind rest : List Char} (character : Char) (suffix : behind <:+ rest) :
    ProperSuffix behind (character :: rest) where
  suffix := suffix.trans (List.suffix_cons character rest)
  length_lt := by
    have := suffix.length_le
    simp only [List.length_cons]
    omega

theorem ProperSuffix.trans_suffix {behind middle text : List Char}
    (proper : ProperSuffix behind middle) (suffix : middle <:+ text) :
    ProperSuffix behind text where
  suffix := proper.suffix.trans suffix
  length_lt := by
    have := suffix.length_le
    have := proper.length_lt
    omega

/-- An end of a proper end is a proper end of the whole. -/
theorem ProperSuffix.suffix_trans {behind middle text : List Char}
    (proper : ProperSuffix middle text) (suffix : behind <:+ middle) :
    ProperSuffix behind text where
  suffix := suffix.trans proper.suffix
  length_lt := by
    have := suffix.length_le
    have := proper.length_lt
    omega

/-- Behind a row of characters of a class that is not empty there is a proper end. -/
theorem properSuffix_dropWhile {test : Char → Bool} {text : List Char}
    (nonempty : text.takeWhile test ≠ []) : ProperSuffix (text.dropWhile test) text where
  suffix := List.dropWhile_suffix test
  length_lt := by
    have positive := List.length_pos_iff.mpr nonempty
    have parts := congrArg List.length (List.takeWhile_append_dropWhile (p := test) (l := text))
    simp only [List.length_append] at parts
    omega

end SceneMarkup.Text
