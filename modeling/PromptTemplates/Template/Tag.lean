import PromptTemplates.Text.Blank
import PromptTemplates.Text.Search
import PromptTemplates.Text.Lines

/-!
# Tags

A tag starts at two opening braces that no backslash precedes. It is a long comment, a comment, a
triple-brace tag or a plain tag, in this order of preference, and ends at the first occurrence of the
closing text of its kind. Scanning a source gives its tags in order, each with the line it starts on;
a tag that has no end, or that holds two opening braces before its end, ends the scan.
-/

namespace PromptTemplates

open Text

/-- What a tag means for the nesting of blocks. -/
inductive Tag where
  | opening (name : String)
  | closing (name : String)
  | leaf
  | unterminated
  deriving DecidableEq, Repr

/-- A tag and the number of the line it starts on. -/
structure LocatedTag where
  tag : Tag
  line : Nat
  deriving DecidableEq, Repr

namespace Tag

/-- Reads one kind of tag: `opener` is its first text inside the braces and `closer` the text that
ends it, `kept` characters of which belong to the inner text. -/
def cutKind? (opener closer : List Char) (kept : Nat) (s : List Char) :
    Option (List Char × List Char) :=
  match after? opener s with
  | none => none
  | some rest => (cutAt? closer rest).map fun (front, rest) =>
      (opener ++ front ++ closer.take kept, rest)

/-- Splits the text after two opening braces into the inner text of the tag and the rest. -/
def cut? (s : List Char) : Option (List Char × List Char) :=
  cutKind? ['!', '-', '-'] ['-', '-', '}', '}'] 2 s <|>
  cutKind? ['!'] ['}', '}'] 0 s <|>
  cutKind? ['{'] ['}', '}', '}'] 1 s <|>
  cutKind? [] ['}', '}'] 0 s

/-- The name after the sign of a block tag: up to the first blank or closing brace. -/
def blockName (s : List Char) : String :=
  String.ofList ((s.dropWhile isBlank).takeWhile fun c => !isBlank c && c != '}')

/-- What the inner text of a tag means. -/
def classify (inner : List Char) : Tag :=
  match trimChars (trimWhile (· == '~') inner) with
  | '#' :: c :: rest => .opening (blockName (c :: rest))
  | '^' :: c :: rest => .opening (blockName (c :: rest))
  | '/' :: rest => .closing (String.ofList (trimChars rest))
  | _ => .leaf

/-- Whether the inner text runs into another tag. Comments and triple-brace tags may do so. -/
def runsOver (inner : List Char) : Bool :=
  !startsWith ['!'] inner && !startsWith ['{'] inner && occursIn ['{', '{'] inner

theorem length_lt_of_cutKind? {opener closer : List Char} {kept : Nat} {s inner rest : List Char}
    (h : cutKind? opener closer kept s = some (inner, rest)) :
    rest.length + closer.length ≤ s.length := by
  unfold cutKind? at h
  split at h
  · cases h
  · next t ht =>
    obtain ⟨⟨front, r⟩, hc, he⟩ := Option.map_eq_some_iff.1 h
    cases he
    have hs := after?_eq_some_iff.1 ht
    have hr := append_of_cutAt? hc
    subst hs
    subst hr
    simp only [List.length_append]
    omega

theorem length_lt_of_cut? {s inner rest : List Char} (h : cut? s = some (inner, rest)) :
    rest.length < s.length := by
  unfold cut? at h
  simp only [Option.orElse_eq_orElse, Option.orElse_eq_or, Option.or_eq_some_iff] at h
  rcases h with h | ⟨_, h | ⟨_, h | ⟨_, h⟩⟩⟩ <;>
    have := length_lt_of_cutKind? h <;> simp at this <;> omega

/-- Scans a text. `escaped` says that a backslash precedes it, `line` is the number of its first
line. -/
def scanFrom (escaped : Bool) (line : Nat) (s : List Char) : List LocatedTag :=
  match s with
  | [] => []
  | '{' :: '{' :: rest =>
    if escaped then scanFrom false line rest
    else
      match _h : cut? rest with
      | none => [⟨.unterminated, line⟩]
      | some (inner, rest') =>
        if runsOver inner then [⟨.unterminated, line⟩]
        else ⟨classify inner, line⟩ :: scanFrom false (line + lineFeeds inner) rest'
  | c :: rest => scanFrom (c == '\\') (if c = '\n' then line + 1 else line) rest
termination_by s.length
decreasing_by
  · simp only [List.length_cons]; omega
  · have := length_lt_of_cut? _h; simp only [List.length_cons]; omega
  · simp

/-- The tags of a source. -/
def scan (source : String) : List LocatedTag := scanFrom false 1 source.toList

end Tag

end PromptTemplates
