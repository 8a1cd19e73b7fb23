import PromptTemplates.Template.Tag

/-!
# Nesting of blocks

The tags of a source are well nested when every block that is opened is closed by a closing tag of
its name, and blocks that overlap contain one another. The check reports the leftmost violation; when
the only violation is that blocks stay open, it reports the innermost of them.
-/

namespace PromptTemplates

/-- How a source fails the check, with the lines of the tags involved. -/
inductive NestingFault where
  | unterminated (line : Nat)
  | notOpen (name : String) (line : Nat)
  | mismatched (name : String) (line : Nat) (opened : String) (openedLine : Nat)
  | neverClosed (name : String) (line : Nat)
  deriving DecidableEq, Repr

namespace NestingFault

/-- A name in a tag with the given sign. -/
def tagText (sign name : String) : String := "\x7b\x7b" ++ sign ++ name ++ "\x7d\x7d"

/-- The message of a violation. -/
def message : NestingFault → String
  | .unterminated line => "unterminated tag at line " ++ toString line
  | .notOpen name line =>
    "closing tag " ++ tagText "/" name ++ " at line " ++ toString line ++ " has no open block"
  | .mismatched name line opened openedLine =>
    "closing tag " ++ tagText "/" name ++ " at line " ++ toString line ++ " does not match " ++
      tagText "#" opened ++ " from line " ++ toString openedLine
  | .neverClosed name line =>
    "block " ++ tagText "#" name ++ " opened at line " ++ toString line ++ " is never closed"

end NestingFault

namespace Nesting

/-- A block that is open: its name and the line that opens it. -/
structure OpenBlock where
  name : String
  line : Nat
  deriving DecidableEq, Repr

/-- Checks the tags that follow while the given blocks are open, the innermost first. -/
def checkFrom : (opened : List OpenBlock) → List LocatedTag → Except NestingFault Unit
  | [], [] => .ok ()
  | block :: _, [] => .error (.neverClosed block.name block.line)
  | opened, ⟨.leaf, _⟩ :: rest => checkFrom opened rest
  | opened, ⟨.opening name, line⟩ :: rest => checkFrom (⟨name, line⟩ :: opened) rest
  | [], ⟨.closing name, line⟩ :: _ => .error (.notOpen name line)
  | block :: opened, ⟨.closing name, line⟩ :: rest =>
    if name = block.name then checkFrom opened rest
    else .error (.mismatched name line block.name block.line)
  | _, ⟨.unterminated, line⟩ :: _ => .error (.unterminated line)

section

variable {opened : List OpenBlock} {rest : List LocatedTag} {name : String} {line : Nat}

theorem checkFrom_leaf : checkFrom opened (⟨.leaf, line⟩ :: rest) = checkFrom opened rest := by
  cases opened <;> rfl

theorem checkFrom_opening :
    checkFrom opened (⟨.opening name, line⟩ :: rest) = checkFrom (⟨name, line⟩ :: opened) rest := by
  cases opened <;> rfl

/-- A closing tag closes the innermost of the open blocks, if that has its name. -/
theorem checkFrom_closing (block : OpenBlock) :
    checkFrom (block :: opened) (⟨.closing name, line⟩ :: rest) =
      if name = block.name then checkFrom opened rest
      else .error (.mismatched name line block.name block.line) := rfl

theorem checkFrom_unterminated :
    checkFrom opened (⟨.unterminated, line⟩ :: rest) = .error (.unterminated line) := by
  cases opened <;> rfl

end

/-- Checks that every tag of a source ends and that its blocks are well nested. -/
def check (source : String) : Except NestingFault Unit := checkFrom [] (Tag.scan source)

end Nesting

end PromptTemplates
