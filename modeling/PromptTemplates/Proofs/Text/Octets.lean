import PromptTemplates.Text.Search
import PromptTemplates.Text.Utf8

/-!
# Octets of plain texts

The octets of a text are those of its characters, and an ASCII character has one. A single character is
replaced wherever it stands, and nothing else is.
-/

namespace PromptTemplates.Text

/-- The octets of ASCII characters. -/
def asciiOctets (s : List Char) : List UInt8 := s.map fun c => UInt8.ofNat c.toNat

@[simp] theorem length_asciiOctets (s : List Char) : (asciiOctets s).length = s.length :=
  List.length_map _

theorem toList_loop (octets : ByteArray) (i : Nat) (front : List UInt8) :
    ByteArray.toList.loop octets i front = front.reverse ++ octets.data.toList.drop i := by
  fun_induction ByteArray.toList.loop octets i front with
  | case1 i front h ih =>
    have hi : i < octets.data.toList.length := h
    have hget : octets.get! i = octets.data.toList[i] := by
      simp [ByteArray.get!, getElem!_pos octets.data i h]
    rw [ih, List.drop_eq_getElem_cons hi, hget, List.reverse_cons, List.append_assoc]
    rfl
  | case2 i front h =>
    have hi : octets.data.toList.length ≤ i := by simpa using h
    rw [List.drop_eq_nil_of_le hi, List.append_nil]

theorem encode_ofList (s : List Char) :
    Utf8.encode (String.ofList s) = s.flatMap String.utf8EncodeChar := by
  unfold Utf8.encode ByteArray.toList
  rw [String.toUTF8_eq_toByteArray, String.toByteArray_ofList, toList_loop]
  unfold List.utf8Encode
  simp

theorem encode_of_ascii {s : List Char} (h : ∀ c ∈ s, c.toNat < 128) :
    Utf8.encode (String.ofList s) = asciiOctets s := by
  rw [encode_ofList]
  induction s with
  | nil => rfl
  | cons c s ih =>
    obtain ⟨hc, hs⟩ := List.forall_mem_cons.mp h
    have hle : c.val.toNat ≤ 127 := Nat.le_of_lt_succ hc
    have hencode : String.utf8EncodeChar c = [UInt8.ofNat c.toNat] := by
      unfold String.utf8EncodeChar
      exact if_pos hle
    rw [List.flatMap_cons, ih hs, hencode]
    rfl

theorem replaceFrom_of_notMem {c : Char} {s : List Char} (h : c ∉ s) (new rest : List Char) :
    replaceFrom [c] new 0 (s ++ rest) = s ++ replaceFrom [c] new 0 rest := by
  induction s with
  | nil => rfl
  | cons d s ih =>
    obtain ⟨hd, hs⟩ : c ≠ d ∧ c ∉ s := by simpa using h
    rw [List.cons_append, List.cons_append, ← ih hs]
    simp [replaceFrom, startsWith, after?, hd]

end PromptTemplates.Text
