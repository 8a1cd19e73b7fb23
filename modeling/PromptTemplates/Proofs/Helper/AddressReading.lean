import Mathlib.Data.List.NodupEquivFin
import PromptTemplates.Proofs.Helper.AddressTokens

/-!
# Addresses read as pieces

A text is read from left to right as characters and tokens in one way only. Completing an address writes
the value of a name at its first token and leaves the later tokens of this name as they stand. So all
tokens are filled in at once, as long as no name of the table has a second token.
-/

namespace PromptTemplates.Url

open Text

/-- A piece of an address: a character, or a token by its name. -/
inductive Piece where
  | plain (c : Char)
  | token (name : String)
  deriving DecidableEq, Repr

namespace Piece

/-- The piece as it stands in the address. -/
def spelled : Piece → List Char
  | plain c => [c]
  | token name => ':' :: name.toList

/-- The piece with the value of its name, if the table has one. -/
def filled (working : Named) : Piece → List Char
  | plain c => [c]
  | token name =>
    match working.get? name with
    | some value => value.text.toList
    | none => ':' :: name.toList

theorem filled_token_of_some {working : Named} {name : String} {value : Value}
    (h : working.get? name = some value) : (token name).filled working = value.text.toList := by
  simp [filled, h]

theorem filled_token_of_none {working : Named} {name : String} (h : working.get? name = none) :
    (token name).filled working = (token name).spelled := by
  simp [filled, spelled, h]

end Piece

/-- A text is read as pieces. A colon with the start of a name behind it is a token, whose name reaches as
far as there are word characters; the reading goes on behind it. -/
inductive Reads : List Char → List Piece → Prop
  | nil : Reads [] []
  | token {first : Char} {rest : List Char} {pieces : List Piece}
      (start : isAsciiNameStart first = true) (tail : Reads (rest.dropWhile isWordChar) pieces) :
      Reads (':' :: first :: rest) (.token (String.ofList (first :: rest.takeWhile isWordChar)) :: pieces)
  | plain {c : Char} {rest : List Char} {pieces : List Piece}
      (noToken : c = ':' → ∀ first ∈ rest.head?, isAsciiNameStart first = false)
      (tail : Reads rest pieces) : Reads (c :: rest) (.plain c :: pieces)

namespace Reads

variable {s : List Char} {pieces others : List Piece}

theorem unique (h : Reads s pieces) (hothers : Reads s others) : others = pieces := by
  induction h generalizing others with
  | nil => cases hothers; rfl
  | token start _ ih =>
    cases hothers with
    | token _ tail => rw [ih tail]
    | plain noToken _ => simp [noToken rfl _ rfl] at start
  | plain noToken _ ih =>
    cases hothers with
    | token start _ => simp [noToken rfl _ rfl] at start
    | plain _ tail => rw [ih tail]

end Reads

theorem exists_reads (s : List Char) : ∃ pieces, Reads s pieces := by
  induction hlength : s.length using Nat.strongRecOn generalizing s with
  | _ length ih =>
    cases s with
    | nil => exact ⟨[], .nil⟩
    | cons c rest =>
      by_cases htoken : c = ':' ∧ ∃ first ∈ rest.head?, isAsciiNameStart first = true
      · obtain ⟨rfl, first, hfirst, hstart⟩ := htoken
        obtain ⟨more, rfl⟩ := List.head?_eq_some_iff.mp hfirst
        have hshorter := (List.dropWhile_sublist (l := more) isWordChar).length_le
        obtain ⟨pieces, hreads⟩ := ih _ (by simp at hlength; omega) (more.dropWhile isWordChar) rfl
        exact ⟨_, .token hstart hreads⟩
      · obtain ⟨pieces, hreads⟩ := ih _ (by simp at hlength; omega) rest rfl
        refine ⟨_, .plain (fun hcolon first hfirst => ?_) hreads⟩
        exact Bool.eq_false_iff.mpr fun hstart => htoken ⟨hcolon, first, hfirst, hstart⟩

/-- Where a token is read, its name is taken and the rest behind it. -/
theorem tokenName?_of_start {first : Char} {rest : List Char} (h : isAsciiNameStart first = true) :
    (if ':' = ':' then tokenName? (first :: rest) else none) =
      some (first :: rest.takeWhile isWordChar, rest.dropWhile isWordChar) := by
  simp [tokenName?, h]

theorem tokenName?_of_noToken {c : Char} {rest : List Char}
    (h : c = ':' → ∀ first ∈ rest.head?, isAsciiNameStart first = false) :
    (if c = ':' then tokenName? rest else none) = none := by
  split
  · next hcolon =>
    cases rest with
    | nil => rfl
    | cons first more => simp [tokenName?, h hcolon first rfl]
  · rfl

/-- The names of the tokens are those of the pieces. -/
theorem Reads.mem_tokens {s : List Char} {pieces : List Piece} (h : Reads s pieces) (name : String) :
    name ∈ tokens s ↔ .token name ∈ pieces := by
  induction h with
  | nil => simp [tokens]
  | token start _ ih => simp [tokens_of_token (tokenName?_of_start start), ih]
  | plain noToken _ ih => simp [tokens_of_none (tokenName?_of_noToken noToken), ih]

/-! ## What is written -/

/-- What is written for each piece: a token is filled in unless the same one stands among the pieces
before it. `earlier` are those before the first piece. -/
def filledOnce (working : Named) (earlier pieces : List Piece) : List (List Char) :=
  pieces.mapIdx fun i piece =>
    if piece ∈ earlier ++ pieces.take i then piece.spelled else piece.filled working

variable {working : Named} {earlier pieces : List Piece} {piece : Piece}

theorem filledOnce_cons : filledOnce working earlier (piece :: pieces) =
    (if piece ∈ earlier then piece.spelled else piece.filled working) ::
      filledOnce working (earlier ++ [piece]) pieces := by
  simp [filledOnce, List.mapIdx_cons]

/-- The table without the names of the tokens among some pieces. -/
def unspent (pieces : List Piece) (working : Named) : Named :=
  working.filter fun entry => .token entry.1 ∉ pieces

theorem get?_unspent (name : String) : (unspent earlier working).get? name =
    if .token name ∈ earlier then none else working.get? name := by
  rw [unspent, Entries.get?_filter fun key => decide (Piece.token key ∉ earlier)]
  by_cases h : Piece.token name ∈ earlier <;> simp [h]

theorem unspent_append_token (name : String) :
    unspent (earlier ++ [.token name]) working = (unspent earlier working).erase name := by
  rw [unspent, unspent, Entries.erase, List.filter_filter]
  refine List.filter_congr fun entry _ => ?_
  by_cases h : entry.1 = name <;> simp [h]

theorem unspent_append_plain (c : Char) :
    unspent (earlier ++ [.plain c]) working = unspent earlier working := by
  simp [unspent]

/-- The name of a token is not at hand for the text behind it, whether or not the table has it. -/
theorem fill_token {first : Char} {rest : List Char} (h : isAsciiNameStart first = true) :
    let name := String.ofList (first :: rest.takeWhile isWordChar)
    (fill working (':' :: first :: rest)).1 = (Piece.token name).filled working ++
      (fill (working.erase name) (rest.dropWhile isWordChar)).1 := by
  intro name
  rw [fill]
  split
  · next heq =>
    rw [tokenName?_of_start h] at heq
    cases heq
    cases hvalue : working.get? name with
    | some value => rw [Piece.filled_token_of_some hvalue]
    | none =>
      rw [Piece.filled_token_of_none hvalue, erase_of_absent hvalue, Piece.spelled, String.toList_ofList]
  · next heq => cases (tokenName?_of_start h).symm.trans heq

theorem fill_plain {c : Char} {rest : List Char}
    (h : c = ':' → ∀ first ∈ rest.head?, isAsciiNameStart first = false) :
    (fill working (c :: rest)).1 = c :: (fill working rest).1 := by
  rw [fill]
  split
  · next heq => cases (tokenName?_of_noToken h).symm.trans heq
  · rfl

/-- A token is filled in if the table at hand has its name. -/
theorem written_token (name : String) : (if Piece.token name ∈ earlier then (Piece.token name).spelled
    else (Piece.token name).filled working) = (Piece.token name).filled (unspent earlier working) := by
  have hget : (unspent earlier working).get? name = _ := get?_unspent name
  split
  · next hearlier =>
    rw [if_pos hearlier] at hget
    rw [Piece.filled_token_of_none hget]
  · next hearlier =>
    rw [if_neg hearlier] at hget
    rw [Piece.filled, Piece.filled, hget]

/-- The table at hand is the one at the beginning without the names of the earlier tokens. -/
theorem Reads.fill_fst {s : List Char} (h : Reads s pieces) (earlier : List Piece) :
    (fill (unspent earlier working) s).1 = (filledOnce working earlier pieces).flatten := by
  induction h generalizing earlier with
  | nil => rw [fill]; rfl
  | token start _ ih =>
    rw [filledOnce_cons, List.flatten_cons, ← ih, unspent_append_token, written_token]
    exact fill_token start
  | plain noToken _ ih =>
    rw [filledOnce_cons, List.flatten_cons, ← ih, unspent_append_plain, fill_plain noToken]
    simp [Piece.spelled, Piece.filled]

/-- All tokens are filled in alike unless a later token of a name differs from the value of this name. -/
theorem filledOnce_eq_map_iff : filledOnce working [] pieces = pieces.map (·.filled working) ↔
    ∀ name value, working.get? name = some value → 2 ≤ pieces.count (.token name) →
      value.text.toList = (Piece.token name).spelled := by
  have hindex : filledOnce working [] pieces = pieces.map (·.filled working) ↔
      ∀ i (hi : i < pieces.length), pieces[i] ∈ pieces.take i →
        pieces[i].spelled = pieces[i].filled working := by
    rw [List.ext_getElem_iff]
    simp [filledOnce]
  rw [hindex]
  constructor
  · intro h name value hvalue hcount
    obtain ⟨i, j, hlt, hi, hj⟩ :=
      List.duplicate_iff_exists_distinct_get.mp (List.duplicate_iff_two_le_count.mpr hcount)
    have hearlier : pieces[j] ∈ pieces.take j :=
      List.mem_take_iff_getElem.mpr ⟨i, by omega, hi.symm.trans hj⟩
    have hspelled := h j j.isLt hearlier
    rw [← List.get_eq_getElem, ← hj, Piece.filled_token_of_some hvalue] at hspelled
    exact hspelled.symm
  · intro h i hi hearlier
    cases hpiece : pieces[i] with
    | plain c => rfl
    | token name =>
      rw [hpiece] at hearlier
      cases hvalue : working.get? name with
      | none => rw [Piece.filled_token_of_none hvalue]
      | some value =>
        obtain ⟨j, hj, hsame⟩ := List.mem_take_iff_getElem.mp hearlier
        have htwice : List.Duplicate (.token name) pieces :=
          List.duplicate_iff_exists_distinct_get.mpr
            ⟨⟨j, by omega⟩, ⟨i, hi⟩, by simp; omega, hsame.symm, hpiece.symm⟩
        rw [Piece.filled_token_of_some hvalue,
          h name value hvalue (List.duplicate_iff_two_le_count.mp htwice)]

theorem rebase_eq (base : Option String) (url : String) : rebase base url =
    if base.getD "" ≠ "" ∧ '/' ∈ url.toList.head? then base.getD "" ++ url else url := by
  cases base with
  | none => simp [rebase]
  | some b => simp [rebase]

/-- Every first token of a name is filled in, the values are not read again, and the filled names are taken
out of the table. This is the result of filling in all tokens at once unless a name of the table has a
second token, which would have to be written as something else. -/
theorem normalize_eq_filledOnce (url : String) (working : Named) (base : Option String) :
    let address := if base.getD "" ≠ "" ∧ '/' ∈ url.toList.head? then base.getD "" ++ url else url
    ∃ pieces, (∀ others, Reads address.toList others ↔ others = pieces) ∧
      (normalize url working base).1.toList = (filledOnce working [] pieces).flatten ∧
      (normalize url working base).2 = working.filter (fun entry => .token entry.1 ∉ pieces) ∧
      (filledOnce working [] pieces = pieces.map (·.filled working) ↔
        ∀ name value, working.get? name = some value → 2 ≤ pieces.count (.token name) →
          value.text.toList = (Piece.token name).spelled) := by
  intro address
  have haddress : rebase base url = address := rebase_eq base url
  obtain ⟨pieces, hreads⟩ := exists_reads address.toList
  refine ⟨pieces, fun others => ⟨hreads.unique, fun h => h ▸ hreads⟩, ?_, ?_, filledOnce_eq_map_iff⟩
  · have hfill : (fill (unspent [] working) _).1 = _ := hreads.fill_fst []
    have hall : unspent [] working = working := by simp [unspent]
    rw [hall] at hfill
    rw [normalize, haddress]
    simpa using hfill
  · rw [normalize_snd, haddress, without]
    refine List.filter_congr fun entry _ => ?_
    simp [hreads.mem_tokens]

/-- The second token of a name stands as it was, although the table has a value for it. -/
theorem normalize_second_token :
    let pieces : List Piece := [.plain '/', .token "id", .plain '/', .token "id"]
    let working : Named := [("id", .int 5)]
    Reads "/:id/:id".toList pieces ∧ pieces.flatMap (·.filled working) = "/5/5".toList ∧
      (normalize "/:id/:id" working none).1 = "/5/:id" := by
  have hdigit : isWordChar 'd' = true := by decide +kernel
  have hslash : isWordChar '/' = false := by decide +kernel
  have hlast : Reads [':', 'i', 'd'] [.token "id"] := by
    simpa [hdigit] using @Reads.token 'i' ['d'] [] rfl (by simpa [hdigit] using .nil)
  have hrest : Reads ['/', ':', 'i', 'd'] [.plain '/', .token "id"] := .plain (by simp) hlast
  have hfirst : Reads [':', 'i', 'd', '/', ':', 'i', 'd'] [.token "id", .plain '/', .token "id"] := by
    simpa [hdigit, hslash] using @Reads.token 'i' ['d', '/', ':', 'i', 'd'] _ rfl
      (by simpa [hdigit, hslash] using hrest)
  have hall : Reads ['/', ':', 'i', 'd', '/', ':', 'i', 'd'] _ := .plain (by simp) hfirst
  exact ⟨hall, by decide +kernel, by decide +kernel⟩

end PromptTemplates.Url
