import PromptTemplates.CommandLine.Arguments
import PromptTemplates.Document.Basic
import PromptTemplates.Json.Writer

/-!
# The output of a run

A document is written as its body, as one section, as all its sections with their headings, or as a
JSON object. The summary has a row for each section.
-/

namespace PromptTemplates

namespace Section

/-- A title that is not empty. -/
def heading? (s : Section) : Option String := s.title.filter (!·.isEmpty)

/-- A section with its heading. -/
def block (s : Section) : String :=
  match s.heading? with
  | some title => heading title ++ s.content
  | none => s.content

/-- A section as a JSON tree. -/
def toJson (s : Section) : Json :=
  .obj (("content", .str s.content) :: (s.title.map fun title => ("title", Json.str title)).toList)

end Section

namespace Document

/-- All sections with their headings. -/
def sectionsText (d : Document) : String := String.intercalate "\n\n" (d.sections.map Section.block)

/-- A document as a JSON tree, if its attributes have one. -/
def toJson? (d : Document) : Option Json := do
  let attributes ← Json.ofEntries? d.attributes
  return .obj [("body", .str d.body), ("meta", .obj attributes),
    ("sections", .arr (d.sections.map Section.toJson))]

/-- The content of the section that is asked for. -/
def sectionText (d : Document) (name : String) : Except ConfigFault String :=
  match d.section? name with
  | some s => .ok s.content
  | none => .error (.noSection name (d.sections.filterMap Section.heading?))

end Document

namespace CommandLine

/-- The text that is written of a document, without the last line end. -/
def formatted (format : OutputFormat) (sectionName : Option String) (d : Document) :
    Except Fault String :=
  match sectionName.filter (!·.isEmpty) with
  | some name => (d.sectionText name).mapError Fault.config
  | none =>
    match format with
    | .json =>
      match d.toJson? with
      | some j => .ok j.text
      | none => .error (.plain .badType)
    | .sections => .ok d.sectionsText
    | .body => .ok d.body

/-- Groups digits by three, from the last one on. -/
def groupDigits (n : Nat) : String := String.ofList (group (Nat.repr n).toList)
where
  group : List Char → List Char
    | [] => []
    | c :: rest =>
      if !rest.isEmpty && rest.length % 3 = 0 then c :: ',' :: group rest else c :: group rest

/-- The row of a section in the summary: number, title, lines and characters. -/
def summaryRow (number : Nat) (s : Section) : List String :=
  [toString number, s.heading?.getD "-", toString (Text.countLines s.content),
   groupDigits s.content.length]

/-- A summary: the rows, and the keys of the attributes. -/
structure Summary where
  rows : List (List String)
  keys : List String
  deriving Repr

/-- The summary of a document. -/
def summary (d : Document) : Summary where
  rows := (d.sections.zipIdx 1).map fun (s, number) => summaryRow number s
  keys := d.attributes.map fun entry => entry.1.text

end CommandLine

end PromptTemplates
