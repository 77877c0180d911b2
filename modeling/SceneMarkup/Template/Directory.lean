import SceneMarkup.Text.Caseless

/-!
Contract: component bodies in a directory, one file each.

Owns:
- the stem and the extension of a file name;
- which entries of a directory are components, and the order in which they are loaded.

Does not own: access to a file system; a directory is the list of its entries.
-/

namespace SceneMarkup

open SceneMarkup.Text

/-- An entry of a directory; only files have content. -/
structure DirectoryEntry where
  name : String
  content : Option ByteArray

namespace FileName

/-- The characters before the last point and those behind it, if there is a point. -/
def atLastPoint? (name : List Char) : Option (List Char × List Char) :=
  if name.contains '.' then
    some ((name.reverse.dropWhile (· ≠ '.')).drop 1 |>.reverse,
      (name.reverse.takeWhile (· ≠ '.')).reverse)
  else none

/-- The stem and the extension of a file name. A name that has its only point at the beginning is
all stem. -/
def parts (name : String) : String × Option String :=
  match atLastPoint? name.toList with
  | none => (name, none)
  | some ([], _) => (name, none)
  | some (stem, extension) => (String.ofList stem, some (String.ofList extension))

end FileName

/-- A directory of component bodies: its entries in the order in which they are listed, and the
extension that marks bodies. -/
structure TemplateDirectory where
  entries : List DirectoryEntry
  extension : String

namespace TemplateDirectory

def standardExtension : String := "skx"

/-- A directory with an extension, which may be written with points before it. -/
def withExtension (entries : List DirectoryEntry) (extension : String) : TemplateDirectory :=
  ⟨entries, String.ofList (extension.toList.dropWhile (· = '.'))⟩

/-- The name and the body of an entry: it is a file with the extension, up to ASCII case, and its
content is text. -/
def template? (directory : TemplateDirectory) (entry : DirectoryEntry) :
    Option (String × String) := do
  let content ← entry.content
  let (stem, extension) := FileName.parts entry.name
  if sameWord (← extension) directory.extension then
    return (stem, ← String.fromUTF8? content)
  else none

/-- The named bodies of a directory in the order of their names; bodies of one name stay in the
order in which they are listed. -/
def templates (directory : TemplateDirectory) : List (String × String) :=
  (directory.entries.filterMap directory.template?).mergeSort fun left right =>
    decide (left.1 ≤ right.1)

end TemplateDirectory

end SceneMarkup
