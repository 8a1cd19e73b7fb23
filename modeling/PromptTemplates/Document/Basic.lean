import PromptTemplates.Document.HeaderBlock
import PromptTemplates.Document.Section
import PromptTemplates.Journal
import PromptTemplates.Yaml.Data

/-!
# Documents

A rendered text may begin with a header block, whose attributes are a YAML mapping. What follows it is
the body, which is cut into sections.
-/

namespace PromptTemplates

/-- A text whose header block has been read. -/
structure HeadedText where
  attributes : List (Value × Value) := []
  body : String

/-- Reads the header of a text. -/
abbrev HeaderReader := String → Except RenderFault HeadedText

namespace HeadedText

/-- The attributes in a header block. An empty block has none. -/
def attributesOf (block : List Char) : Except RenderFault (List (Value × Value)) :=
  match Yaml.read block with
  | .ok .null => .ok []
  | .ok (.map entries) => .ok entries
  | .ok v => .error (.extraction (.notMapping v.typeName))
  | .error .malformed => .error (.extraction .malformed)
  | .error (.valueless kind) => .error (.stray (.plain kind))

/-- Reads the header block of a text. A text without one is its own body. -/
def ofText : HeaderReader := fun text =>
  match HeaderBlock.split? text.toList with
  | none => .ok { body := text }
  | some (block, body) => do
    return { attributes := ← attributesOf block, body := String.ofList body }

end HeadedText

/-- A rendered document. -/
structure Document where
  body : String
  attributes : List (Value × Value) := []
  sections : List Section := []

namespace Document

/-- The document of a text whose header has been read. -/
def ofHeaded (t : HeadedText) : Document :=
  let body := Text.trim t.body
  { body := body, attributes := t.attributes, sections := Section.ofText body }

/-- Makes a document of a rendered text. -/
def ofText (reader : HeaderReader) (text : String) : RenderAction Document := do
  let headed ← ExceptT.mk (pure (reader text))
  note .outputExtracted
  return ofHeaded headed

/-- The first section with a title. -/
def section? (d : Document) (title : String) : Option Section :=
  d.sections.find? fun s => s.title == some title

end Document

end PromptTemplates
