import SceneMarkup.Color.Resolve
import SceneMarkup.Proofs.Text.Trimming

/-!
Contract: written colours are read back.

Owns:
- bytes as pairs of hexadecimal digits;
- the theorem that the literal of a colour stands for that colour where alpha comes last.

Does not own: the other written forms.
-/

namespace SceneMarkup.Color

open SceneMarkup.Number SceneMarkup.Text

theorem hexValue?_hexDigit : ∀ digit < 16, hexValue? (hexDigit digit) = some digit := by
  decide

theorem isBlank_hexDigit : ∀ digit < 16, isBlank (hexDigit digit) = false := by
  decide

theorem digits_lt (byte : UInt8) : byte.toNat / 16 < 16 ∧ byte.toNat % 16 < 16 := by
  have bound := byte.toNat_lt
  omega

/-- A byte is read back from its two digits. -/
theorem hexByte?_hexByte (byte : UInt8) :
    hexByte? (hexDigit (byte.toNat / 16)) (hexDigit (byte.toNat % 16)) = some byte := by
  obtain ⟨high, low⟩ := digits_lt byte
  rw [hexByte?, hexValue?_hexDigit _ high, hexValue?_hexDigit _ low]
  show some (16 * (byte.toNat / 16) + byte.toNat % 16).toUInt8 = some byte
  rw [Nat.div_add_mod, Nat.toUInt8_eq, UInt8.ofNat_toNat]

/-- The digits of a colour are read back where alpha comes last. -/
theorem ofHexDigits?_hexDigits (color : Color) :
    ofHexDigits? .rgba color.hexDigits = some color := by
  unfold hexDigits
  by_cases full : color.alpha = 255
  · rw [if_pos full]
    simp only [hexByte, List.cons_append, List.nil_append, ofHexDigits?, hexByte?_hexByte]
    show some (opaqueOf color.red color.green color.blue) = some color
    rw [opaqueOf, ← full]
  · rw [if_neg full]
    simp only [hexByte, List.cons_append, List.nil_append, ofHexDigits?, hexByte?_hexByte]
    rfl

theorem exists_of_mem_hexByte {byte : UInt8} {character : Char}
    (member : character ∈ hexByte byte) : ∃ value < 16, character = hexDigit value := by
  obtain ⟨high, low⟩ := digits_lt byte
  simp only [hexByte, List.mem_cons, List.not_mem_nil, or_false] at member
  rcases member with here | here
  · exact ⟨_, high, here⟩
  · exact ⟨_, low, here⟩

/-- A colour is written in digits. -/
theorem exists_of_mem_hexDigits {color : Color} {character : Char}
    (member : character ∈ color.hexDigits) : ∃ value < 16, character = hexDigit value := by
  simp only [hexDigits, List.mem_append] at member
  rcases member with ((red | green) | blue) | alpha
  · exact exists_of_mem_hexByte red
  · exact exists_of_mem_hexByte green
  · exact exists_of_mem_hexByte blue
  · split at alpha
    · cases alpha
    · exact exists_of_mem_hexByte alpha

/-- The literal of a colour has no blanks. -/
theorem trim_toHex (color : Color) : trim color.toHex.toList = '#' :: color.hexDigits := by
  rw [toHex, String.toList_ofList]
  apply trim_eq_self_of_visible
  intro character member
  rcases List.mem_cons.mp member with rfl | digit
  · rfl
  · obtain ⟨value, bound, rfl⟩ := exists_of_mem_hexDigits digit
    exact isBlank_hexDigit value bound

theorem trimmed_toHex (color : Color) : trimmed color.toHex = color.toHex := by
  rw [trimmed, trim_toHex, toHex]

/-- The literal of a colour stands for that colour where alpha comes last. -/
theorem resolve_toHex (color : Color) : resolve color.toHex .rgba = color := by
  rw [resolve, resolve?, trim_toHex]
  show (ofHexDigits? .rgba color.hexDigits).getD black = color
  rw [ofHexDigits?_hexDigits, Option.getD_some]

end SceneMarkup.Color
