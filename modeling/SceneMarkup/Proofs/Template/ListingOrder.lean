import Mathlib.Data.List.Induction
import Mathlib.Data.List.Nodup
import Mathlib.Data.String.Basic
import SceneMarkup.Template.Directory
import SceneMarkup.Template.Library

/-!
Contract: what the loading of a directory owes to the order in which its entries are listed.

Owns:
- the named bodies of a directory as they are listed, and those of one stem;
- the body that a library finds, told by the listing;
- the theorem that two listings are loaded alike but for bodies of one stem;
- the listings of one directory that are loaded differently.

Does not own: which entries are components.
-/

namespace SceneMarkup

open SceneMarkup.Text

namespace TemplateDirectory

/-! ### Statement -/

/-- The named bodies in the order in which the directory lists their files. -/
def listed (directory : TemplateDirectory) : List (String × String) :=
  directory.entries.filterMap directory.template?

/-- The bodies of the files with a stem, as they are listed. -/
def bodiesOf (directory : TemplateDirectory) (stem : String) : List String :=
  (directory.listed.filter fun template => template.1 = stem).map Prod.snd

/-- Among the stems that are a name up to ASCII case, the greatest one. -/
def IsLastStem (directory : TemplateDirectory) (name stem : String) : Prop :=
  stem ∈ directory.listed.map Prod.fst ∧ sameWord stem name = true ∧
    ∀ other ∈ directory.listed.map Prod.fst, sameWord other name = true → other ≤ stem

/-- What two listings of the same entries have in common, and what their order decides. -/
structure ListedAlike (directory other : TemplateDirectory) : Prop where
  /-- Bodies are loaded in the order of their stems, and those of one stem as they are listed. -/
  ordered : directory.templates.Pairwise fun earlier later => earlier.1 ≤ later.1
  stable : ∀ stem, (directory.templates.filter fun template => template.1 = stem).map Prod.snd =
    directory.bodiesOf stem
  sameBodies : directory.templates.Perm other.templates
  /-- The same list is loaded exactly when the files of every stem are listed in the same order, as
  far as their bodies differ. -/
  sameList : directory.templates = other.templates ↔
    ∀ stem, directory.bodiesOf stem = other.bodiesOf stem
  /-- A name has the last body of the last stem that spells it. -/
  found : ∀ name body, (TemplateLibrary.ofList directory.templates).find? name = some body ↔
    ∃ stem, directory.IsLastStem name stem ∧
      (directory.bodiesOf stem).getLast?.map trimmed = some body
  sameStems : ∀ name stem, directory.IsLastStem name stem ↔ other.IsLastStem name stem
  sameLibrary : (∀ stem, (directory.bodiesOf stem).getLast? = (other.bodiesOf stem).getLast?) →
    ∀ name, (TemplateLibrary.ofList directory.templates).find? name =
      (TemplateLibrary.ofList other.templates).find? name
  /-- Where no two files have the same stem, the order does not matter. -/
  distinct : (directory.listed.map Prod.fst).Nodup → directory.templates = other.templates

/-! ### Sorting by name -/

section Sorting

/-- Two entries in the order of their names. -/
def inOrder (earlier later : String × String) : Bool := decide (earlier.1 ≤ later.1)

theorem inOrder_trans (first second third : String × String)
    (before : inOrder first second = true) (after : inOrder second third = true) :
    inOrder first third = true :=
  decide_eq_true (String.le_trans (of_decide_eq_true before) (of_decide_eq_true after))

theorem inOrder_total (first second : String × String) :
    (inOrder first second || inOrder second first) = true := by
  simpa [inOrder] using String.le_total first.1 second.1

variable (directory : TemplateDirectory)

theorem templates_eq_mergeSort : directory.templates = directory.listed.mergeSort inOrder := rfl

theorem pairwise_templates :
    directory.templates.Pairwise fun earlier later => earlier.1 ≤ later.1 :=
  (List.pairwise_mergeSort inOrder_trans inOrder_total directory.listed).imp of_decide_eq_true

variable {directory} in
theorem templates_of_pairwise
    (sorted : directory.listed.Pairwise fun earlier later => earlier.1 ≤ later.1) :
    directory.templates = directory.listed :=
  List.mergeSort_of_pairwise (sorted.imp decide_eq_true)

theorem templates_perm_listed : directory.templates.Perm directory.listed :=
  List.mergeSort_perm _ _

/-- Sorting keeps the order among the bodies of one stem. -/
theorem filter_templates (stem : String) :
    directory.templates.filter (fun template => template.1 = stem) =
      directory.listed.filter fun template => template.1 = stem := by
  have oneStem : (directory.listed.filter fun template => template.1 = stem).Pairwise
      fun left right => inOrder left right = true := by
    apply List.pairwise_of_forall_mem_list
    intro left first right second
    have leftStem : left.1 = stem := by simpa using (List.mem_filter.mp first).2
    have rightStem : right.1 = stem := by simpa using (List.mem_filter.mp second).2
    rw [inOrder, leftStem, rightStem]
    exact decide_eq_true (String.le_refl stem)
  have kept := List.sublist_mergeSort inOrder_trans inOrder_total oneStem List.filter_sublist
  rw [← templates_eq_mergeSort] at kept
  have inside := kept.filter fun template => template.1 = stem
  rw [List.filter_filter] at inside
  simp only [Bool.and_self] at inside
  exact (inside.eq_of_length (directory.templates_perm_listed.filter _).symm.length_eq).symm

end Sorting

section SameEntries

variable {first second : List (String × String)}

/-- Lists with the same entries of every name have the same entries. -/
theorem mem_iff_of_filter_eq
    (same : ∀ name, first.filter (fun entry => entry.1 = name) =
      second.filter fun entry => entry.1 = name) (entry : String × String) :
    entry ∈ first ↔ entry ∈ second := by
  have here : entry ∈ first.filter (fun other => other.1 = entry.1) ↔ entry ∈ first := by simp
  have there : entry ∈ second.filter (fun other => other.1 = entry.1) ↔ entry ∈ second := by simp
  rw [← here, same, there]

/-- Sorted lists with the same entries of every name, in the same order, are the same. -/
theorem eq_of_filter_eq (sorted : first.Pairwise fun earlier later => earlier.1 ≤ later.1)
    (otherSorted : second.Pairwise fun earlier later => earlier.1 ≤ later.1)
    (same : ∀ name, first.filter (fun entry => entry.1 = name) =
      second.filter fun entry => entry.1 = name) : first = second := by
  have member := mem_iff_of_filter_eq same
  induction first generalizing second with
  | nil =>
    cases second with
    | nil => rfl
    | cons entry rest => exact absurd ((member entry).mpr List.mem_cons_self) List.not_mem_nil
  | cons entry rest inductionHypothesis =>
    cases second with
    | nil => exact absurd ((member entry).mp List.mem_cons_self) List.not_mem_nil
    | cons otherEntry otherRest =>
      obtain ⟨least, sorted⟩ := List.pairwise_cons.mp sorted
      obtain ⟨otherLeast, otherSorted⟩ := List.pairwise_cons.mp otherSorted
      -- Each of the two first entries is listed on the other side, so neither name is greater.
      have below : entry.1 ≤ otherEntry.1 := by
        rcases List.mem_cons.mp ((member otherEntry).mpr List.mem_cons_self) with rfl | later
        · exact String.le_refl _
        · exact least _ later
      have above : otherEntry.1 ≤ entry.1 := by
        rcases List.mem_cons.mp ((member entry).mp List.mem_cons_self) with rfl | later
        · exact String.le_refl _
        · exact otherLeast _ later
      have heads := same otherEntry.1
      rw [List.filter_cons_of_pos (by simpa using String.le_antisymm below above),
        List.filter_cons_of_pos (by simp), List.cons.injEq] at heads
      have others (name : String) : rest.filter (fun entry => entry.1 = name) =
          otherRest.filter fun entry => entry.1 = name := by
        have whole := same name
        rw [heads.1] at whole
        by_cases here : otherEntry.1 = name
        · rw [List.filter_cons_of_pos (by simpa using here),
            List.filter_cons_of_pos (by simpa using here)] at whole
          exact (List.cons.inj whole).2
        · rwa [List.filter_cons_of_neg (by simpa using here),
            List.filter_cons_of_neg (by simpa using here)] at whole
      rw [heads.1, inductionHypothesis sorted otherSorted others (mem_iff_of_filter_eq others)]

end SameEntries

end TemplateDirectory

/-! ### Libraries -/

namespace TemplateLibrary

/-- Entries of another key can be left out of a look-up. -/
theorem lookup_filter_of_ne {entries : List (String × String)} {key other : String}
    (different : other ≠ key) :
    (entries.filter fun entry => entry.1 ≠ key).lookup other = entries.lookup other := by
  induction entries with
  | nil => rfl
  | cons entry rest inductionHypothesis =>
    by_cases left : entry.1 = key
    · rw [List.filter_cons_of_neg (by simpa using left), inductionHypothesis, List.lookup_cons,
        beq_eq_false_iff_ne.mpr (left ▸ different)]
    · rw [List.filter_cons_of_pos (by simpa using left), List.lookup_cons, List.lookup_cons,
        inductionHypothesis]

theorem find?_insert (library : TemplateLibrary) (name body other : String) :
    (library.insert name body).find? other =
      if sameWord name other then some (trimmed body) else library.find? other := by
  rw [find?, insert, List.lookup_cons]
  by_cases same : sameWord name other = true
  · have lowered : (other.toLower == name.toLower) = true :=
      beq_iff_eq.mpr (beq_iff_eq.mp same).symm
    rw [if_pos same, lowered]
  · have different : other.toLower ≠ name.toLower := fun equal => same (beq_iff_eq.mpr equal.symm)
    rw [if_neg same, beq_eq_false_iff_ne.mpr different, find?]
    exact lookup_filter_of_ne different

/-- The last body of a name counts. -/
theorem find?_ofList (templates : List (String × String)) (name : String) :
    (ofList templates).find? name =
      ((templates.filter fun template => sameWord template.1 name).getLast?).map
        fun template => trimmed template.2 := by
  induction templates using List.reverseRecOn with
  | nil => rfl
  | append_singleton templates last inductionHypothesis =>
    rw [ofList, List.foldl_append, List.foldl_cons, List.foldl_nil, find?_insert, ← ofList,
      inductionHypothesis, List.filter_append]
    by_cases same : sameWord last.1 name = true
    · simp [same]
    · simp [same]

end TemplateLibrary

namespace TemplateDirectory

variable {directory other : TemplateDirectory}

theorem getLast?_filter_of_getLast? {α : Type} {test : α → Bool} {entries : List α} {last : α}
    (ended : entries.getLast? = some last) (passes : test last = true) :
    (entries.filter test).getLast? = some last := by
  obtain ⟨front, rfl⟩ := List.getLast?_eq_some_iff.mp ended
  simp [passes]

/-- The templates of a name end with the last one of its last stem. -/
theorem exists_lastStem {name : String} {last : String × String}
    (ended : (directory.templates.filter fun template => sameWord template.1 name).getLast? =
      some last) :
    directory.IsLastStem name last.1 ∧ (directory.bodiesOf last.1).getLast? = some last.2 := by
  obtain ⟨front, spelled⟩ := List.getLast?_eq_some_iff.mp ended
  have member : last ∈ directory.templates ∧ sameWord last.1 name = true := by
    apply List.mem_filter.mp
    rw [spelled]
    simp
  have sorted := directory.pairwise_templates.filter fun template => sameWord template.1 name
  rw [spelled, List.pairwise_append] at sorted
  have names (stem : String) : stem ∈ directory.listed.map Prod.fst ↔
      stem ∈ directory.templates.map Prod.fst :=
    (directory.templates_perm_listed.map Prod.fst).mem_iff.symm
  refine ⟨⟨(names _).mpr (List.mem_map_of_mem member.1), member.2, fun stem listed same => ?_⟩, ?_⟩
  · obtain ⟨template, inside, rfl⟩ := List.mem_map.mp ((names stem).mp listed)
    have passes : template ∈ front ++ [last] := by
      rw [← spelled]
      exact List.mem_filter.mpr ⟨inside, same⟩
    rcases List.mem_append.mp passes with earlier | final
    · exact sorted.2.2 _ earlier _ (List.mem_singleton_self last)
    · rw [List.mem_singleton.mp final]
  · have inner : directory.templates.filter (fun template => template.1 = last.1) =
        (directory.templates.filter fun template => sameWord template.1 name).filter
          fun template => template.1 = last.1 := by
      rw [List.filter_filter]
      apply List.filter_congr
      intro template _
      by_cases stem : template.1 = last.1
      · simp [stem, member.2]
      · simp [stem]
    rw [bodiesOf, ← filter_templates, inner, List.getLast?_map,
      getLast?_filter_of_getLast? ended (by simp), Option.map_some]

theorem IsLastStem.unique {name stem otherStem : String} (last : directory.IsLastStem name stem)
    (otherLast : directory.IsLastStem name otherStem) : stem = otherStem :=
  String.le_antisymm (otherLast.2.2 _ last.1 last.2.1) (last.2.2 _ otherLast.1 otherLast.2.1)

theorem find?_eq_some_iff {name body : String} :
    (TemplateLibrary.ofList directory.templates).find? name = some body ↔
      ∃ stem, directory.IsLastStem name stem ∧
        (directory.bodiesOf stem).getLast?.map trimmed = some body := by
  rw [TemplateLibrary.find?_ofList]
  constructor
  · intro found
    obtain ⟨last, ended, rfl⟩ := Option.map_eq_some_iff.mp found
    obtain ⟨isLast, final⟩ := exists_lastStem ended
    exact ⟨last.1, isLast, by rw [final]; rfl⟩
  · rintro ⟨stem, isLast, final⟩
    cases ended : (directory.templates.filter fun template =>
        sameWord template.1 name).getLast? with
    | none =>
      have nothing := List.getLast?_eq_none_iff.mp ended
      obtain ⟨template, listed, rfl⟩ := List.mem_map.mp isLast.1
      have inside : template ∈ directory.templates.filter fun template =>
          sameWord template.1 name :=
        List.mem_filter.mpr ⟨directory.templates_perm_listed.mem_iff.mpr listed, isLast.2.1⟩
      rw [nothing] at inside
      cases inside
    | some last =>
      obtain ⟨otherLast, otherFinal⟩ := exists_lastStem ended
      rw [isLast.unique otherLast, otherFinal] at final
      exact final

/-! ### Two listings -/

theorem listed_perm (reordered : directory.entries.Perm other.entries)
    (sameExtension : directory.extension = other.extension) :
    directory.listed.Perm other.listed := by
  have same : directory.template? = other.template? := by
    funext entry
    simp only [template?, sameExtension]
  rw [listed, listed, same]
  exact reordered.filterMap _

theorem isLastStem_iff (reordered : directory.listed.Perm other.listed) (name stem : String) :
    directory.IsLastStem name stem ↔ other.IsLastStem name stem := by
  have names (stem : String) :
      stem ∈ directory.listed.map Prod.fst ↔ stem ∈ other.listed.map Prod.fst :=
    (reordered.map Prod.fst).mem_iff
  simp only [IsLastStem, names]

theorem filter_listed_eq (directory : TemplateDirectory) (stem : String) :
    directory.listed.filter (fun template => template.1 = stem) =
      (directory.bodiesOf stem).map fun body => (stem, body) := by
  rw [bodiesOf, List.map_map]
  have same : ∀ template ∈ directory.listed.filter (fun template => template.1 = stem),
      ((fun body => (stem, body)) ∘ Prod.snd) template = id template := by
    intro template member
    have here : template.1 = stem := by simpa using (List.mem_filter.mp member).2
    rw [Function.comp_apply, ← here]
    rfl
  rw [List.map_congr_left same, List.map_id]

theorem templates_eq_iff : directory.templates = other.templates ↔
    ∀ stem, directory.bodiesOf stem = other.bodiesOf stem := by
  constructor
  · intro same stem
    rw [bodiesOf, bodiesOf, ← filter_templates, ← filter_templates, same]
  · intro same
    apply eq_of_filter_eq directory.pairwise_templates other.pairwise_templates
    intro stem
    rw [filter_templates, filter_templates, filter_listed_eq, filter_listed_eq, same]

theorem templates_eq_of_nodup (reordered : directory.listed.Perm other.listed)
    (distinct : (directory.listed.map Prod.fst).Nodup) :
    directory.templates = other.templates := by
  have perm : directory.templates.Perm other.templates :=
    (directory.templates_perm_listed.trans reordered).trans other.templates_perm_listed.symm
  refine perm.eq_of_pairwise (fun left right first second before after => ?_)
    directory.pairwise_templates other.pairwise_templates
  exact List.inj_on_of_nodup_map distinct (directory.templates_perm_listed.mem_iff.mp first)
    (directory.templates_perm_listed.mem_iff.mp (perm.mem_iff.mpr second))
    (String.le_antisymm before after)

/-- Two listings of the same entries are loaded alike but for the order among the bodies of one
stem, which decides also the body that a library finds. -/
theorem loading_follows_listing (reordered : directory.entries.Perm other.entries)
    (sameExtension : directory.extension = other.extension) : ListedAlike directory other := by
  have perm := listed_perm reordered sameExtension
  exact {
    ordered := directory.pairwise_templates
    stable := fun stem => by rw [filter_templates, bodiesOf]
    sameBodies :=
      (directory.templates_perm_listed.trans perm).trans other.templates_perm_listed.symm
    sameList := templates_eq_iff
    found := fun _ _ => find?_eq_some_iff
    sameStems := isLastStem_iff perm
    sameLibrary := fun lastBodies name => by
      apply Option.ext
      intro body
      simp only [find?_eq_some_iff, isLastStem_iff perm, lastBodies]
    distinct := templates_eq_of_nodup perm }

/-- The bytes of a text are read as that text. -/
theorem fromUTF8?_toByteArray (text : String) :
    String.fromUTF8? text.toByteArray = some text := dif_pos text.isValidUTF8

/-- Names that differ in the case of a letter are different stems. -/
def twoSpellings : TemplateDirectory where
  entries := [⟨"card.SKX", some "<box/>".toUTF8⟩, ⟨"notes", none⟩,
    ⟨"Card.skx", some "<circle/>".toUTF8⟩]
  extension := "skx"

theorem listed_twoSpellings :
    twoSpellings.listed = [("card", "<box/>"), ("Card", "<circle/>")] := by
  simp [listed, twoSpellings, template?, FileName.parts, FileName.atLastPoint?, sameWord_iff,
    fromUTF8?_toByteArray]

/-- Whatever the order of the listing, the greater spelling of the name counts. -/
theorem loading_follows_listing_of_twoSpellings :
    twoSpellings.entries.Perm twoSpellings.entries.reverse ∧
      (twoSpellings.listed.map Prod.fst).Nodup ∧
      ListedAlike twoSpellings { twoSpellings with entries := twoSpellings.entries.reverse } ∧
      twoSpellings.templates =
        templates { twoSpellings with entries := twoSpellings.entries.reverse } ∧
      (TemplateLibrary.ofList twoSpellings.templates).find? "CARD" = some "<box/>" := by
  have reordered : twoSpellings.entries.Perm twoSpellings.entries.reverse :=
    (List.reverse_perm _).symm
  have distinct : (twoSpellings.listed.map Prod.fst).Nodup := by
    rw [listed_twoSpellings]
    decide
  have alike : ListedAlike twoSpellings
      { twoSpellings with entries := twoSpellings.entries.reverse } :=
    loading_follows_listing reordered rfl
  have isLast : twoSpellings.IsLastStem "CARD" "card" := by
    rw [IsLastStem, listed_twoSpellings]
    have same : sameWord "card" "CARD" = true := by simp [sameWord_iff]
    have greatest : ∀ other ∈ ["card", "Card"], other ≤ "card" := by decide
    exact ⟨List.mem_cons_self, same, fun other listed _ => greatest other listed⟩
  have body : (twoSpellings.bodiesOf "card").getLast?.map trimmed = some "<box/>" := by
    rw [bodiesOf, listed_twoSpellings]
    decide +kernel
  exact ⟨reordered, distinct, alike, alike.distinct distinct,
    (alike.found _ _).mpr ⟨"card", isLast, body⟩⟩

/-- Three files of one stem, whose extensions are spelled differently. -/
def threeExtensions : TemplateDirectory where
  entries := [⟨"A.sKx", some "<box/>".toUTF8⟩, ⟨"A.Skx", some "<circle/>".toUTF8⟩,
    ⟨"A.skx", some "<box/>".toUTF8⟩]
  extension := "skx"

/-- The same files, the second one listed last. -/
def threeExtensionsReordered : TemplateDirectory where
  entries := [⟨"A.sKx", some "<box/>".toUTF8⟩, ⟨"A.skx", some "<box/>".toUTF8⟩,
    ⟨"A.Skx", some "<circle/>".toUTF8⟩]
  extension := "skx"

theorem listed_threeExtensions :
    threeExtensions.listed = [("A", "<box/>"), ("A", "<circle/>"), ("A", "<box/>")] := by
  simp [listed, threeExtensions, template?, FileName.parts, FileName.atLastPoint?, sameWord_iff,
    fromUTF8?_toByteArray]

theorem listed_threeExtensionsReordered :
    threeExtensionsReordered.listed = [("A", "<box/>"), ("A", "<box/>"), ("A", "<circle/>")] := by
  simp [listed, threeExtensionsReordered, template?, FileName.parts, FileName.atLastPoint?,
    sameWord_iff, fromUTF8?_toByteArray]

/-- Files of one stem make what is loaded depend on the order of the listing. -/
theorem loading_depends_on_listing :
    threeExtensions.entries.Perm threeExtensionsReordered.entries ∧
      (threeExtensions.entries.map DirectoryEntry.name).Nodup ∧
      threeExtensions.templates = [("A", "<box/>"), ("A", "<circle/>"), ("A", "<box/>")] ∧
      threeExtensionsReordered.templates =
        [("A", "<box/>"), ("A", "<box/>"), ("A", "<circle/>")] ∧
      (TemplateLibrary.ofList threeExtensions.templates).find? "A" = some "<box/>" ∧
      (TemplateLibrary.ofList threeExtensionsReordered.templates).find? "A" =
        some "<circle/>" := by
  have first : threeExtensions.templates =
      [("A", "<box/>"), ("A", "<circle/>"), ("A", "<box/>")] := by
    rw [templates_of_pairwise, listed_threeExtensions]
    rw [listed_threeExtensions]
    decide
  have second : threeExtensionsReordered.templates =
      [("A", "<box/>"), ("A", "<box/>"), ("A", "<circle/>")] := by
    rw [templates_of_pairwise, listed_threeExtensionsReordered]
    rw [listed_threeExtensionsReordered]
    decide
  refine ⟨(List.Perm.swap _ _ _).cons _, by decide, first, second, ?_, ?_⟩
  · have kept : trimmed "<box/>" = "<box/>" := by decide +kernel
    rw [first, TemplateLibrary.find?_ofList]
    simp [sameWord_iff, kept]
  · have kept : trimmed "<circle/>" = "<circle/>" := by decide +kernel
    rw [second, TemplateLibrary.find?_ofList]
    simp [sameWord_iff, kept]

end TemplateDirectory

end SceneMarkup
