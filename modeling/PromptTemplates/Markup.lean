import PromptTemplates.Value.Quoted
import PromptTemplates.Text.Entity
import PromptTemplates.Calendar.Iso

/-!
# Markup

An element has a tag, attributes and a content. A pair of a tag and a mapping stands for an element
as well: the entry `text` is the content, the others are attributes. Attributes and content may be
elements or pairs in turn. An attribute that does not count as true is left out, and an element
without content is written as one self-closing tag.
-/

namespace PromptTemplates

/-- The text of a value that is not an element. Safe text is written as it is, a moment with a blank
between date and time, everything else as in a printed collection. -/
def Value.plainText : Value → String
  | .str s => s
  | .date d => d.text
  | .moment m => Calendar.Iso.text " " m
  | .time t => Calendar.Iso.clockText t.hour t.minute t.second t.microsecond
  | .safe parts => String.join parts
  | .scope context _ _ _ _ _ _ => context.plainText
  | v => v.quoted

namespace Markup

/-- The key of the entry that holds the content of a pair. -/
def isTextKey : Value → Bool
  | .str s => s == "text"
  | _ => false

/-- Whether the value is a pair of a tag and a mapping. -/
def isPair : Value → Bool
  | .list [.str _, .map _] => true
  | .tuple [.str _, .map _] => true
  | _ => false

/-- One written attribute, with the blank before it. -/
def writeAttribute (name value : String) : String :=
  " " ++ name ++ "=\"" ++ Text.escapeAttribute value ++ "\""

/-- An element from its tag, its written attributes and its written content. -/
def wrap (tag attributes : String) : (content : Option String) → String
  | none => "<" ++ tag ++ attributes ++ " />"
  | some content => "<" ++ tag ++ attributes ++ ">" ++ content ++ "</" ++ tag ++ ">"

/-- The written content of an element whose content is neither an element nor a pair. -/
def plainContent (v : Value) : Option String :=
  if v.isTruthy then some (Text.escapeText v.plainText) else none

mutual

/-- The written form of an element or a pair. -/
def render? : Value → Option String
  | .element tag attributes content =>
    some (wrap tag (renderAttributes false attributes)
      (match render? content with
        | some inner => some inner
        | none => plainContent content))
  | .list [.str tag, .map props] => some (wrap tag (renderAttributes true props) (renderText props))
  | .tuple [.str tag, .map props] => some (wrap tag (renderAttributes true props) (renderText props))
  | _ => none

/-- The written attributes of an element or, leaving out the content, of a pair. -/
def renderAttributes (ofPair : Bool) : List (Value × Value) → String
  | [] => ""
  | (name, value) :: rest =>
    let written := match render? value with
      | some inner => writeAttribute name.plainText inner
      | none => if value.isTruthy then writeAttribute name.plainText value.plainText else ""
    if ofPair && isTextKey name then renderAttributes ofPair rest
    else written ++ renderAttributes ofPair rest

/-- The written content of a pair. -/
def renderText : List (Value × Value) → Option String
  | [] => none
  | (name, value) :: rest =>
    if isTextKey name then
      match render? value with
      | some inner => some inner
      | none => plainContent value
    else renderText rest

end

mutual

/-- Turns a pair into an element, and the pairs among its attributes and content too. Every other
value stays as it is. -/
def convert : Value → Value
  | .list [.str tag, .map props] => .element tag (convertAttributes props) (convertText props)
  | .tuple [.str tag, .map props] => .element tag (convertAttributes props) (convertText props)
  | v => v

/-- The attributes of a converted pair. -/
def convertAttributes : List (Value × Value) → List (Value × Value)
  | [] => []
  | (name, value) :: rest =>
    if isTextKey name then convertAttributes rest
    else (name, convert value) :: convertAttributes rest

/-- The content of a converted pair. -/
def convertText : List (Value × Value) → Value
  | [] => .null
  | (name, value) :: rest => if isTextKey name then convert value else convertText rest

end

/-- What a helper's result becomes in a template: elements, pairs and strings turn into safe text,
so that they are not escaped again. -/
def toOutput (v : Value) : Value :=
  match v with
  | .str s => .safe [s]
  | v =>
    match render? (convert v) with
    | some text => .safe [text]
    | none => v

end Markup

/-- The text of a value. -/
def Value.text (v : Value) : String :=
  match v with
  | .element .. => (Markup.render? v).getD ""
  | v => v.plainText

end PromptTemplates
