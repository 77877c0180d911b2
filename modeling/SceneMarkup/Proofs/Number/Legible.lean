import Mathlib.Data.List.TakeWhile
import SceneMarkup.Node.Binding
import SceneMarkup.Proofs.Text.Trimming

/-!
Contract: texts that are numbers, as attribute values.

Owns:
- the characters of number text, none of which the binder takes away;
- the attribute value that is the text of a finite number, which the binder reads as that number.

Does not own: the digits of a number.
-/

namespace SceneMarkup

open SceneMarkup.Text

namespace Number

/-! ### Characters of number text -/

/-- A character that is neither blank nor the last one of the unit `px`. -/
def Sturdy (character : Char) : Prop := isBlank character = false ∧ character ≠ 'x'

theorem isBlank_eq_false_of_ascii {character : Char} (low : 0x20 < character.toNat)
    (high : character.toNat < 0x80) : isBlank character = false := by
  simp only [isBlank, Bool.or_eq_false_iff, Bool.and_eq_false_iff, decide_eq_false_iff_not,
    beq_eq_false_iff_ne]
  omega

theorem bounds_of_le {low character high : Char} (above : low ≤ character)
    (below : character ≤ high) :
    low.toNat ≤ character.toNat ∧ character.toNat ≤ high.toNat :=
  ⟨UInt32.le_iff_toNat_le.mp above, UInt32.le_iff_toNat_le.mp below⟩

theorem sturdy_of_isDigit {character : Char} (digit : isDigit character = true) :
    Sturdy character := by
  simp only [isDigit, Bool.and_eq_true, decide_eq_true_eq] at digit
  have bounds : 48 ≤ character.toNat ∧ character.toNat ≤ 57 := bounds_of_le digit.1 digit.2
  constructor
  · exact isBlank_eq_false_of_ascii (by omega) (by omega)
  · rintro rfl
    exact absurd bounds (by decide)

/-- Letters of either case are sturdy when the lower-case one is. -/
theorem sturdy_of_toLower {character : Char} (lower : Sturdy character.toLower) :
    Sturdy character := by
  by_cases upper : character.isUpper = true
  · obtain ⟨above, below⟩ : 'A' ≤ character ∧ character ≤ 'Z' := of_decide_eq_true upper
    have bounds : 65 ≤ character.toNat ∧ character.toNat ≤ 90 := bounds_of_le above below
    constructor
    · exact isBlank_eq_false_of_ascii (by omega) (by omega)
    · rintro rfl
      exact absurd bounds (by decide)
  · have same : character.toLower = character := dif_neg fun bounds => upper (decide_eq_true bounds)
    rw [same] at lower
    exact lower

theorem sturdy_of_signOf {text : List Char}
    (body : ∀ character ∈ (Reading.signOf text).2, Sturdy character) :
    ∀ character ∈ text, Sturdy character := by
  unfold Reading.signOf at body
  split at body
  · exact List.forall_mem_cons.mpr ⟨⟨by decide, by decide⟩, body⟩
  · exact List.forall_mem_cons.mpr ⟨⟨by decide, by decide⟩, body⟩
  · exact body

/-- Behind the digits at its beginning, a text is sturdy as a whole when the rest of it is. -/
theorem sturdy_of_dropWhile {text : List Char}
    (rest : ∀ character ∈ text.dropWhile isDigit, Sturdy character) :
    ∀ character ∈ text, Sturdy character := by
  rw [← List.takeWhile_append_dropWhile (p := isDigit) (l := text)]
  intro character member
  rcases List.mem_append.mp member with digit | member
  · exact sturdy_of_isDigit (List.mem_takeWhile_imp digit)
  · exact rest character member

theorem sturdy_of_exponentOf? {text : List Char} {exponent : Int}
    (read : Reading.exponentOf? text = some exponent) : ∀ character ∈ text, Sturdy character := by
  cases text with
  | nil => exact List.forall_mem_nil _
  | cons mark rest =>
    rw [Reading.exponentOf?] at read
    by_cases marked : mark = 'e' ∨ mark = 'E'
    · rw [if_pos marked] at read
      dsimp only at read
      split at read
      · cases read
      · rename_i digits
        simp only [Bool.or_eq_true, Bool.not_eq_true', not_or, Bool.not_eq_false] at digits
        have mark' : Sturdy mark := by
          rcases marked with rfl | rfl
          · exact ⟨by decide, by decide⟩
          · exact ⟨by decide, by decide⟩
        refine List.forall_mem_cons.mpr ⟨mark', sturdy_of_signOf fun character member => ?_⟩
        exact sturdy_of_isDigit (List.all_eq_true.mp digits.2 character member)
    · rw [if_neg marked] at read
      cases read

theorem sturdy_of_decimal? {text : List Char} {number : Decimal}
    (read : Reading.decimal? text = some number) :
    text ≠ [] ∧ ∀ character ∈ text, Sturdy character := by
  have nonempty : text ≠ [] := by
    rintro rfl
    cases read
  refine ⟨nonempty, sturdy_of_dropWhile ?_⟩
  unfold Reading.decimal? at read
  dsimp only at read
  split at read
  · rename_i behind point
    split at read
    · cases read
    · obtain ⟨exponent, readExponent, _⟩ := Option.map_eq_some_iff.mp read
      rw [point]
      exact List.forall_mem_cons.mpr
        ⟨⟨by decide, by decide⟩, sturdy_of_dropWhile (sturdy_of_exponentOf? readExponent)⟩
  · split at read
    · cases read
    · obtain ⟨exponent, readExponent, _⟩ := Option.map_eq_some_iff.mp read
      exact sturdy_of_exponentOf? readExponent

theorem sturdy_of_word {text : List Char} {word : String}
    (spelled : String.ofList (text.map Char.toLower) = word)
    (letters : word.toList ≠ [] ∧
      word.toList.all (fun letter => !isBlank letter && letter != 'x') = true) :
    text ≠ [] ∧ ∀ character ∈ text, Sturdy character := by
  rw [← spelled, String.toList_ofList] at letters
  constructor
  · rintro rfl
    exact letters.1 rfl
  · intro character member
    have letter := List.all_eq_true.mp letters.2 _ (List.mem_map_of_mem member)
    apply sturdy_of_toLower
    simpa [Sturdy] using letter

/-- The text of a number is not empty, and all its characters are sturdy. -/
theorem sturdy_of_readFloat32? {text : List Char} {value : Float32}
    (read : readFloat32? text = some value) :
    text ≠ [] ∧ ∀ character ∈ text, Sturdy character := by
  have body : (Reading.signOf text).2 ≠ [] ∧
      ∀ character ∈ (Reading.signOf text).2, Sturdy character := by
    obtain ⟨reading, found, _⟩ := Option.map_eq_some_iff.mp read
    unfold Reading.read? at found
    dsimp only at found
    have letters : ∀ word ∈ ["inf", "infinity", "nan"], word.toList ≠ [] ∧
        word.toList.all (fun letter => !isBlank letter && letter != 'x') = true := by decide
    split at found
    · rename_i number decimal
      exact sturdy_of_decimal? decimal
    · split at found
      · rename_i word
        rcases word with word | word
        · exact sturdy_of_word word (letters _ (by simp))
        · exact sturdy_of_word word (letters _ (by simp))
      · split at found
        · rename_i word
          exact sturdy_of_word word (letters _ (by simp))
        · cases found
  refine ⟨?_, sturdy_of_signOf body.2⟩
  rintro rfl
  exact body.1 rfl

end Number

/-! ### Attribute values -/

namespace Binding

open SceneMarkup.Number

theorem dropUnit_of_sturdy {text : List Char} (sturdy : ∀ character ∈ text, Sturdy character) :
    dropUnit text = text := by
  unfold dropUnit
  split
  · rename_i reversed ends
    have member : 'x' ∈ text := by
      rw [← List.mem_reverse, ends]
      exact List.mem_cons_self
    exact absurd rfl (sturdy _ member).2
  · rfl

/-- The text of a finite number is read as that number. -/
theorem readNumber_of_readFloat32? {text : String} {value : Float32}
    (read : readFloat32? text.toList = some value) (finite : isFiniteNumber value = true)
    (name : String) (default : Float32) :
    readNumber name (trimmed text) default = .ok value := by
  obtain ⟨nonempty, sturdy⟩ := sturdy_of_readFloat32? read
  have trim_text : trim text.toList = text.toList :=
    trim_eq_self_of_visible fun character member => (sturdy character member).1
  have number : number? text.toList = some value := by
    rw [number?, dropUnit_of_sturdy sturdy, trim_text, read, Option.filter_some_pos finite]
  have visible : text ≠ "" := by
    rintro rfl
    exact nonempty rfl
  rw [readNumber, trimmed, trim_text, String.ofList_toList, if_neg visible, number]

end Binding

end SceneMarkup
