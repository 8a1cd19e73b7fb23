/-!
# UTF-8

Reading a file turns its octets into characters. Overlong forms, surrogates, values above U+10FFFF
and truncated sequences have no reading. Writing is the library's own encoding of strings.
-/

namespace PromptTemplates.Text.Utf8

/-- A continuation octet's six payload bits. -/
def tail? (b : UInt8) : Option Nat :=
  if 0x80 ≤ b ∧ b ≤ 0xBF then some (b.toNat % 64) else none

/-- Reads the character at the front of the octets. -/
def decodeChar? : List UInt8 → Option (Char × List UInt8)
  | [] => none
  | a :: rest =>
    if a < 0x80 then some (Char.ofNat a.toNat, rest)
    else if 0xC2 ≤ a ∧ a ≤ 0xDF then
      match rest with
      | b :: rest => (tail? b).map fun y => (Char.ofNat (a.toNat % 32 * 64 + y), rest)
      | _ => none
    else if 0xE0 ≤ a ∧ a ≤ 0xEF then
      match rest with
      | b :: c :: rest => do
        let n := a.toNat % 16 * 4096 + (← tail? b) * 64 + (← tail? c)
        if n < 0x800 ∨ (0xD800 ≤ n ∧ n ≤ 0xDFFF) then none else some (Char.ofNat n, rest)
      | _ => none
    else if 0xF0 ≤ a ∧ a ≤ 0xF4 then
      match rest with
      | b :: c :: d :: rest => do
        let n := a.toNat % 8 * 262144 + (← tail? b) * 4096 + (← tail? c) * 64 + (← tail? d)
        if n < 0x10000 ∨ 0x10FFFF < n then none else some (Char.ofNat n, rest)
      | _ => none
    else none

/-- Reads all octets, at most `fuel` characters. -/
def decodeUpTo : (fuel : Nat) → List UInt8 → Option (List Char)
  | _, [] => some []
  | 0, _ :: _ => none
  | fuel + 1, b :: bs => do
    let (c, rest) ← decodeChar? (b :: bs)
    return c :: (← decodeUpTo fuel rest)

/-- The text that the octets encode. A character takes at least one octet, so their number bounds
the number of characters. -/
def decode? (bytes : List UInt8) : Option (List Char) := decodeUpTo bytes.length bytes

/-- The octets of a text. -/
def encode (s : String) : List UInt8 := s.toUTF8.toList

end PromptTemplates.Text.Utf8
