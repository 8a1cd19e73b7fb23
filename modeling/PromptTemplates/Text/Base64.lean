/-!
# Base 64

Four characters stand for three octets. Characters that do not belong to the alphabet are passed over.
An equals sign counts only where a group can end; the group that it completes is the last one.
-/

namespace PromptTemplates.Text.Base64

/-- The six bits that a character stands for. -/
def sextet? (c : Char) : Option Nat :=
  if 'A' ≤ c ∧ c ≤ 'Z' then some (c.toNat - 65)
  else if 'a' ≤ c ∧ c ≤ 'z' then some (c.toNat - 71)
  else if '0' ≤ c ∧ c ≤ '9' then some (c.toNat + 4)
  else if c = '+' then some 62
  else if c = '/' then some 63
  else none

/-- Reads the characters after `place` ones of a group, whose last bits are `held`, and after `pads`
equals signs in a row. -/
def decodeFrom : (place held pads : Nat) → List Char → Option (List UInt8)
  | place, _, _, [] => if place = 0 then some [] else none
  | place, held, pads, c :: rest =>
    if c = '=' then
      if 2 ≤ place then
        if 4 ≤ place + pads + 1 then some [] else decodeFrom place held (pads + 1) rest
      else decodeFrom place held pads rest
    else
      match sextet? c with
      | none => decodeFrom place held pads rest
      | some bits =>
        match place with
        | 0 => decodeFrom 1 bits 0 rest
        | 1 => (decodeFrom 2 (bits % 16) 0 rest).map (UInt8.ofNat (held * 4 + bits / 16) :: ·)
        | 2 => (decodeFrom 3 (bits % 4) 0 rest).map (UInt8.ofNat (held * 16 + bits / 4) :: ·)
        | _ => (decodeFrom 0 0 0 rest).map (UInt8.ofNat (held * 64 + bits) :: ·)

/-- The octets that a text stands for. -/
def decode? (s : List Char) : Option (List UInt8) := decodeFrom 0 0 0 s

end PromptTemplates.Text.Base64
