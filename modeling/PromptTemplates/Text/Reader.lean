import PromptTemplates.Text.Search

/-!
# Readers

A reader takes a part from the front of a text or fails. Besides its result it tells whether, on the
way, a repetition, an optional part or a run of blanks looked for more at the very end of the text;
that is kept when an alternative fails and another one is tried.
-/

namespace PromptTemplates

/-- The outcome of reading: what was read and the rest, if anything, and whether the end was seen. -/
structure Reading (α : Type) where
  result : Option (α × List Char)
  sawEnd : Bool
  deriving Repr

/-- A reader of a part. -/
def Reader (α : Type) := List Char → Reading α

namespace Reader

variable {α β : Type}

/-- Reads nothing. -/
def succeed (a : α) : Reader α := fun s => ⟨some (a, s), false⟩

/-- Reads a part and then what depends on it. -/
def andThen (r : Reader α) (f : α → Reader β) : Reader β := fun s =>
  match r s with
  | ⟨none, e⟩ => ⟨none, e⟩
  | ⟨some (a, rest), e⟩ =>
    let next := f a rest
    ⟨next.result, e || next.sawEnd⟩

instance : Monad Reader where
  pure := succeed
  bind := andThen

/-- Fails. -/
def fail : Reader α := fun _ => ⟨none, false⟩

/-- Tries `r`, and `other` if it fails. -/
def orElse (r other : Reader α) : Reader α := fun s =>
  match r s with
  | ⟨none, e⟩ =>
    let next := other s
    ⟨next.result, e || next.sawEnd⟩
  | found => found

instance : OrElse (Reader α) := ⟨fun r other => orElse r (other ())⟩

/-- The first of the readers that reads something. -/
def firstOf : List (Reader α) → Reader α
  | [] => fail
  | r :: rest => orElse r (firstOf rest)

/-- Succeeds, reading nothing, where `r` fails. -/
def absent (r : Reader α) : Reader Unit := fun s =>
  match r s with
  | ⟨none, e⟩ => ⟨some ((), s), e⟩
  | ⟨some _, e⟩ => ⟨none, e⟩

/-- Reads a fixed text. -/
def token (t : List Char) : Reader Unit := fun s =>
  ⟨(Text.after? t s).map fun rest => ((), rest), false⟩

/-- Notes whether the text is at its end. -/
def look : Reader Unit := fun s => ⟨some ((), s), s.isEmpty⟩

/-- Reads one of the characters `cs` if there is one. -/
def optionOf (cs : List Char) : Reader Unit := fun s =>
  match s with
  | [] => ⟨some ((), []), true⟩
  | d :: rest => ⟨some ((), if cs.contains d then rest else s), false⟩

/-- Reads `c` if it is there. -/
def option (c : Char) : Reader Unit := optionOf [c]

/-- Reads the longest run of characters that satisfy `p`. -/
def run (p : Char → Bool) : Reader (List Char) := fun s =>
  ⟨some (s.takeWhile p, s.dropWhile p), (s.dropWhile p).isEmpty⟩

/-- Reads the longest run of characters that satisfy `p`, at least one. -/
def run1 (p : Char → Bool) : Reader (List Char) := fun s =>
  match s.takeWhile p with
  | [] => ⟨none, s.isEmpty⟩
  | cs => ⟨some (cs, s.dropWhile p), (s.dropWhile p).isEmpty⟩

/-- Reads one character that satisfies `p`. -/
def one (p : Char → Bool) : Reader Char := fun s =>
  match s with
  | [] => ⟨none, false⟩
  | c :: rest => if p c then ⟨some (c, rest), false⟩ else ⟨none, false⟩

/-- Reads up to the first place where `stop` succeeds, or to the end. -/
def upTo (stop : Reader β) : Reader (List Char) := fun s =>
  match s with
  | [] => ⟨some ([], []), true⟩
  | c :: rest =>
    match stop (c :: rest) with
    | ⟨some _, e⟩ => ⟨some ([], c :: rest), e⟩
    | ⟨none, e⟩ =>
      match upTo stop rest with
      | ⟨some (cs, left), e'⟩ => ⟨some (c :: cs, left), e || e'⟩
      | ⟨none, e'⟩ => ⟨none, e || e'⟩

/-- Reads parts as long as `r` reads something, at most `fuel` of them. -/
def many (r : Reader α) : (fuel : Nat) → Reader (List α)
  | 0 => succeed []
  | fuel + 1 =>
    orElse (do
      let a ← r
      return a :: (← many r fuel)) (do look; return [])

end Reader

end PromptTemplates
