import SceneMarkup.Markup.Tree
import SceneMarkup.Scene.Basic
import SceneMarkup.Scene.Literal
import SceneMarkup.Template.Directory
import SceneMarkup.Template.Expansion

/-!
Contract: documents in any of the forms that make a scene.

Owns:
- `DocumentFormat`, told by the first character of a document;
- `Engine`, the components and templates with which documents are read;
- the reading of a document, with its errors, and the scene that stands in for other content.

Does not own: the forms themselves.
-/

namespace SceneMarkup

open SceneMarkup.Text

/-- What a document is written in. -/
inductive DocumentFormat where
  | markup
  | json
  /-- Anything else, for which a fixed scene stands in. -/
  | other
deriving DecidableEq, Repr

namespace DocumentFormat

def name : DocumentFormat → String
  | markup => "markup"
  | json => "json"
  | other => "fallback"

/-- The format that the first character other than a blank tells. -/
def detect (content : String) : DocumentFormat :=
  match (trimStart content.toList).head? with
  | some '<' => markup
  | some '\x7b' => json
  | _ => other

end DocumentFormat

/-- Why a document makes no scene, with the format it was read as. -/
structure FormatError where
  format : DocumentFormat
  cause : ParseError
deriving DecidableEq, Repr

def FormatError.message (error : FormatError) : String :=
  "failed to parse " ++ error.format.name ++ " content: " ++ error.cause.message

/-- How an engine is set up: a directory of templates, if there is one, and whether the standard
factories are registered. -/
structure EngineSettings where
  directory : Option TemplateDirectory := none
  standardFactories : Bool := true

/-- The components and templates with which documents are read. Without templates, includes are not
expanded. -/
structure Engine where
  components : ComponentRegistry
  templates : Option TemplateLibrary

namespace Engine

/-- The engine of some settings. -/
def ofSettings (settings : EngineSettings) : Engine where
  components := if settings.standardFactories then .standard else .empty
  templates := settings.directory.map fun directory => .ofList directory.templates

/-- A document with its includes replaced. -/
def expand (engine : Engine) (content : String) : String :=
  match engine.templates with
  | some library => Template.expand library content
  | none => content

/-- The text of the scene for content of no known format. -/
def unsupportedCaption : String := "Unsupported content"

/-- The tree for content of no known format: a panel with a centred caption. -/
def unsupported : IdM NodeTree := do
  let panel := (← Node.anonymous .container).withSize 400 300
  let caption := (← Node.anonymous .text).withSize panel.width panel.height
  return .mk { panel with style.background := some (.opaqueOf 243 244 246) } [.leaf { caption with
    text := unsupportedCaption
    style.textColor := some (.opaqueOf 107 114 128)
    layout.align := .center
    layout.justify := .center }]

/-- The tree of an expanded document of a format. -/
def treeOf (engine : Engine) (content : String) : DocumentFormat → BuildM NodeTree
  | .markup => Markup.parseTree engine.components content
  | .json => Literal.parse content
  | .other => unsupported

/-- The scene of a document. Names taken by a document that fails stay taken. -/
def parse (engine : Engine) (content : String) : IdM (Except FormatError Scene) := do
  let expanded := engine.expand content
  let format := DocumentFormat.detect expanded
  match ← (engine.treeOf expanded format).run with
  | .ok tree => return .ok (.ofTree tree)
  | .error cause => return .error ⟨format, cause⟩

end Engine

end SceneMarkup
