import Mathlib.Data.List.TakeWhile
import SceneMarkup.Text.Blank

/-!
Contract: what trimming leaves of a text that is known in part.

Owns:
- the blanks in front of a text and behind it, which trimming drops;
- the characters that trimming keeps, all of which the text has;
- the texts of which trimming leaves nothing;
- trimmed texts, which trimming leaves as they are.

Does not own: which characters are blank.
-/

namespace SceneMarkup.Text

/-- Blanks in front of a text are dropped. -/
theorem trim_append_of_allBlank {blanks : List Char} (blank : allBlank blanks = true)
    (rest : List Char) : trim (blanks ++ rest) = trim rest := by
  rw [trim, trimStart, List.dropWhile_append_of_pos (List.all_eq_true.mp blank)]
  rfl

/-- Blanks behind a text are dropped. -/
theorem trim_append_allBlank (text : List Char) {blanks : List Char}
    (blank : allBlank blanks = true) : trim (text ++ blanks) = trim text := by
  rw [trim, trim, trimStart, trimStart, List.dropWhile_append]
  split
  · rename_i empty
    rw [List.isEmpty_iff.mp empty, List.dropWhile_eq_nil_iff.mpr (List.all_eq_true.mp blank)]
  · rw [trimEnd, trimEnd, List.reverse_append, List.dropWhile_append_of_pos]
    simpa [allBlank] using blank

theorem trim_cons {character : Char} (visible : isBlank character = false) (rest : List Char) :
    trim (character :: rest) = character :: trimEnd rest := by
  have kept : ¬ isBlank character = true := by rw [visible]; exact Bool.false_ne_true
  have start : trimStart (character :: rest) = character :: rest := by
    rw [trimStart, List.dropWhile_cons_of_neg kept]
  rw [trim, start, trimEnd, trimEnd, List.reverse_cons, List.dropWhile_append]
  split
  · rename_i empty
    rw [List.isEmpty_iff.mp empty, List.dropWhile_cons_of_neg kept]
    rfl
  · rw [List.reverse_append]
    rfl

theorem mem_of_mem_trim {text : List Char} {character : Char} (kept : character ∈ trim text) :
    character ∈ text := by
  unfold trim trimEnd trimStart at kept
  have back := (List.dropWhile_suffix isBlank).subset (List.mem_reverse.mp kept)
  exact (List.dropWhile_suffix isBlank).subset (List.mem_reverse.mp back)

/-- Trimming leaves nothing of exactly the blank texts. -/
theorem trim_eq_nil_iff {text : List Char} : trim text = [] ↔ allBlank text = true := by
  constructor
  · intro empty
    induction text with
    | nil => rfl
    | cons character rest inductionHypothesis =>
      cases blank : isBlank character with
      | false =>
        rw [trim_cons blank] at empty
        cases empty
      | true =>
        have front : allBlank [character] = true := by simp [allBlank, blank]
        have dropped := trim_append_of_allBlank front rest
        rw [List.cons_append, List.nil_append, empty] at dropped
        have others := inductionHypothesis dropped.symm
        simpa [allBlank, blank] using others
  · intro blank
    have dropped := trim_append_of_allBlank blank []
    rw [List.append_nil] at dropped
    rw [dropped]
    rfl

theorem trimEnd_trimEnd (text : List Char) : trimEnd (trimEnd text) = trimEnd text := by
  rw [trimEnd, trimEnd, List.reverse_reverse,
    List.dropWhile_eq_self_iff.mpr (List.dropWhile_get_zero_not isBlank text.reverse)]

/-- A trimmed text has no more blanks at its ends. -/
theorem trim_trim (text : List Char) : trim (trim text) = trim text := by
  induction text with
  | nil => rfl
  | cons character rest inductionHypothesis =>
    by_cases blank : isBlank character = true
    · have front : allBlank [character] = true := by simp [allBlank, blank]
      have dropped := trim_append_of_allBlank front rest
      rw [List.singleton_append] at dropped
      rw [dropped, inductionHypothesis]
    · have visible := Bool.eq_false_iff.mpr blank
      rw [trim_cons visible, trim_cons visible, trimEnd_trimEnd]

/-- A text that begins and ends with visible characters is left as it is. -/
theorem trim_eq_self_of_visible {text : List Char} (visible : ∀ character ∈ text,
    isBlank character = false) : trim text = text := by
  cases text with
  | nil => rfl
  | cons character rest =>
    have ends : trimEnd rest = rest := by
      rw [trimEnd, List.dropWhile_eq_self_iff.mpr, List.reverse_reverse]
      intro nonempty blank
      have member := List.getElem_mem (l := rest.reverse) nonempty
      rw [visible _ (List.mem_cons_of_mem _ (List.mem_reverse.mp member))] at blank
      cases blank
    rw [trim_cons (visible character List.mem_cons_self), ends]

theorem length_trim_le (text : List Char) : (trim text).length ≤ text.length := by
  have back : ((trimStart text).reverse.dropWhile isBlank).length ≤
      (trimStart text).reverse.length := (List.dropWhile_suffix isBlank).length_le
  have front : (trimStart text).length ≤ text.length := (List.dropWhile_suffix isBlank).length_le
  rw [List.length_reverse] at back
  rw [trim, trimEnd, List.length_reverse]
  exact Nat.le_trans back front

theorem trimEnd_append_of_visible (text : List Char) {suffix : List Char} (nonempty : suffix ≠ [])
    (visible : ∀ character ∈ suffix, isBlank character = false) :
    trimEnd (text ++ suffix) = text ++ suffix := by
  obtain ⟨last, others, ends⟩ :=
    List.exists_cons_of_ne_nil (List.reverse_ne_nil_iff.mpr nonempty)
  have lastVisible : isBlank last = false := by
    apply visible
    rw [← List.mem_reverse, ends]
    exact List.mem_cons_self
  have whole : (text ++ suffix).reverse = last :: (others ++ text.reverse) := by
    rw [List.reverse_append, ends, List.cons_append]
  rw [trimEnd, whole, List.dropWhile_cons_of_neg (by rw [lastVisible]; exact Bool.false_ne_true),
    ← whole, List.reverse_reverse]

/-- Visible characters behind a trimmed text leave nothing to trim. -/
theorem trim_append_of_visible {text suffix : List Char} (kept : trim text = text)
    (nonempty : text ≠ []) (suffixed : suffix ≠ [])
    (visible : ∀ character ∈ suffix, isBlank character = false) :
    trim (text ++ suffix) = text ++ suffix := by
  obtain ⟨first, rest, rfl⟩ := List.exists_cons_of_ne_nil nonempty
  have firstVisible : isBlank first = false := by
    apply Bool.eq_false_iff.mpr
    intro blank
    have front : allBlank [first] = true := by simp [allBlank, blank]
    have dropped := trim_append_of_allBlank front rest
    rw [List.singleton_append, kept] at dropped
    have shorter := length_trim_le rest
    rw [← dropped, List.length_cons] at shorter
    omega
  rw [List.cons_append, trim_cons firstVisible, trimEnd_append_of_visible rest suffixed visible]

theorem trimmed_trimmed (text : String) : trimmed (trimmed text) = trimmed text := by
  rw [trimmed, trimmed, String.toList_ofList, trim_trim]

end SceneMarkup.Text
