import PromptTemplates.Proofs.Number.Rounding
import PromptTemplates.Proofs.Value.ConsistentKeys
import PromptTemplates.Value.Key

/-!
# What makes two keys the same

Numbers of every kind are compared by their value, moments by their instant, and all else by what it is
made of. For values whose floats have their one form and whose moments are not read off the clocks of a
zone, that comparison is symmetric and transitive, so such values are keys that tables can rely on.
-/

namespace PromptTemplates

open Number (Binary64)

/-- The rational number that a float stands for, or the sign of an infinity. -/
def Number.Binary64.number? : Binary64 → Option (ℚ ⊕ Bool)
  | .nan => none
  | .infinite negative => some (.inr negative)
  | .finite negative m e => some (.inl (if negative then -(m * 2 ^ e) else m * 2 ^ e))

/-- The rational number that a value stands for, or the sign of an infinity. -/
def Value.number? : Value → Option (ℚ ⊕ Bool)
  | .bool b => some (.inl (if b then 1 else 0))
  | .int n => some (.inl n)
  | .float x => x.number?
  | _ => none

mutual

/-- Two values are the same. -/
inductive Value.Same : Value → Value → Prop
  | null : Value.Same .null .null
  | str (s) : Value.Same (.str s) (.str s)
  | bytes (octets) : Value.Same (.bytes octets) (.bytes octets)
  | date (d) : Value.Same (.date d) (.date d)
  | moment {m n} : m.offset?.isSome = n.offset?.isSome → m.instant = n.instant →
      Value.Same (.moment m) (.moment n)
  | time (t) : Value.Same (.time t) (.time t)
  | list {as bs} : AllSame as bs → Value.Same (.list as) (.list bs)
  | tuple {as bs} : AllSame as bs → Value.Same (.tuple as) (.tuple bs)
  | number {a b q} : a.number? = some q → b.number? = some q → Value.Same a b

/-- Two lists have the same values in order. -/
inductive AllSame : List Value → List Value → Prop
  | nil : AllSame [] []
  | cons {a b as bs} : Value.Same a b → AllSame as bs → AllSame (a :: as) (b :: bs)

end

mutual

/-- The floats of a value have their one form, and no moment in it is read off the clocks of a zone. -/
def Value.IsComparable : Value → Prop
  | .float x => x.IsCanonical
  | .moment m => ∀ z later, m.anchor ≠ .zone z later
  | .list items => AreComparable items
  | .tuple items => AreComparable items
  | _ => True

/-- All values of a list are comparable. -/
def AreComparable : List Value → Prop
  | [] => True
  | item :: rest => item.IsComparable ∧ AreComparable rest

end

/-! ## An equivalence -/

mutual

theorem Value.Same.symm {a b : Value} : a.Same b → b.Same a
  | .null => .null
  | .str s => .str s
  | .bytes octets => .bytes octets
  | .date d => .date d
  | .moment hties hinstant => .moment hties.symm hinstant.symm
  | .time t => .time t
  | .list h => .list h.symm
  | .tuple h => .tuple h.symm
  | .number ha hb => .number hb ha

theorem AllSame.symm {as bs : List Value} : AllSame as bs → AllSame bs as
  | .nil => .nil
  | .cons h hrest => .cons h.symm hrest.symm

end

/-- What is the same as a number is a number. -/
theorem Value.Same.number?_eq {a b : Value} {q : ℚ ⊕ Bool} (h : a.Same b) (ha : a.number? = some q) :
    b.number? = some q := by
  cases h with
  | number ha' hb => rw [hb, ← ha', ha]
  | _ => cases ha

mutual

theorem Value.Same.trans {a b c : Value} : a.Same b → b.Same c → a.Same c
  | .null, h => h
  | .str _, h => h
  | .bytes _, h => h
  | .date _, h => h
  | .moment hties hinstant, h => by
    cases h with
    | moment hties' hinstant' => exact .moment (hties.trans hties') (hinstant.trans hinstant')
    | number hb _ => cases hb
  | .time _, h => h
  | .list h, h' => by
    cases h' with
    | list h' => exact .list (h.trans h')
    | number hb _ => cases hb
  | .tuple h, h' => by
    cases h' with
    | tuple h' => exact .tuple (h.trans h')
    | number hb _ => cases hb
  | .number ha hb, h => .number ha (h.number?_eq hb)

theorem AllSame.trans {as bs cs : List Value} : AllSame as bs → AllSame bs cs → AllSame as cs
  | .nil, h => h
  | .cons h hrest, .cons h' hrest' => .cons (h.trans h') (hrest.trans hrest')

end

/-! ## Numbers -/

namespace Number.Binary64

variable {x y : Binary64} {s s' : Bool} {m m' : Nat} {e e' : Int}

/-- Floats of their one form with the same value are equal, but for the sign of zero. -/
theorem eq_or_zero_of_number?_eq (hx : (finite s m e).IsCanonical) (hy : (finite s' m' e').IsCanonical)
    (h : (finite s m e).number? = (finite s' m' e').number?) :
    finite s m e = finite s' m' e' ∨ m = 0 ∧ m' = 0 := by
  have hpos := two_zpow_pos e
  have hpos' := two_zpow_pos e'
  simp only [number?, Option.some.injEq, Sum.inl.injEq] at h
  rcases Nat.eq_zero_or_pos m with rfl | hm
  · have hvalue : (m' * 2 ^ e' : ℚ) = 0 := by
      cases s <;> cases s' <;> simpa using h.symm
    have hm' : (m' : ℚ) = 0 := (mul_eq_zero.mp hvalue).resolve_right hpos'.ne'
    exact .inr ⟨rfl, by exact_mod_cast hm'⟩
  · have hvalue : (0 : ℚ) < m * 2 ^ e := mul_pos (by exact_mod_cast hm) hpos
    have hvalue' : (0 : ℚ) ≤ m' * 2 ^ e' := mul_nonneg (Nat.cast_nonneg m') hpos'.le
    -- Only numbers of one sign can have the value of a number that is not zero.
    have hsame : s = s' ∧ (m * 2 ^ e : ℚ) = m' * 2 ^ e' := by
      cases s <;> cases s' <;> simp at h ⊢ <;> linarith
    obtain ⟨rfl, hequal⟩ := hsame
    obtain ⟨rfl, rfl⟩ := normal_unique hm hx.1 hy.1 hequal
    exact .inl rfl

theorem number?_of_isZero (h : x.isZero = true) : x.number? = some (.inl 0) := by
  cases x with
  | finite s m e =>
    have hm : m = 0 := by simpa [isZero] using h
    simp [number?, hm]
  | _ => cases h

theorem number?_of_toRatio? {n : Int} {d : Nat} (h : x.toRatio? = some (n, d)) :
    x.number? = some (.inl (n / d)) := by
  cases x with
  | finite s m e =>
    have hquotient := quotient_magnitude m e
    unfold quotient at hquotient
    simp only [toRatio?, Option.some.injEq, Prod.mk.injEq] at h
    obtain ⟨rfl, rfl⟩ := h
    rw [number?, ← hquotient]
    cases s <;> simp [neg_div]
  | _ => cases h

/-- Floats of their one form compare as equal exactly if they stand for the same. -/
theorem isSame_iff (hx : x.IsCanonical) (hy : y.IsCanonical) :
    (x == y && x != .nan || x.isZero && y.isZero) = true ↔
      ∃ q, x.number? = some q ∧ y.number? = some q := by
  constructor
  · intro h
    simp only [Bool.or_eq_true, Bool.and_eq_true, beq_iff_eq, bne_iff_ne] at h
    rcases h with ⟨rfl, hnan⟩ | ⟨hx, hy⟩
    · cases x with
      | nan => exact absurd rfl hnan
      | _ => exact ⟨_, rfl, rfl⟩
    · exact ⟨_, number?_of_isZero hx, number?_of_isZero hy⟩
  · rintro ⟨q, hq, hq'⟩
    cases x with
    | nan => cases hq
    | infinite s =>
      cases y with
      | infinite s' =>
        cases hq
        cases hq'
        simp
      | nan => cases hq'
      | finite s' m' e' =>
        cases hq
        cases hq'
    | finite s m e =>
      cases y with
      | finite s' m' e' =>
        rcases eq_or_zero_of_number?_eq hx hy (hq.trans hq'.symm) with heq | ⟨rfl, rfl⟩
        · simp [heq]
        · simp [isZero]
      | nan => cases hq'
      | infinite s' =>
        cases hq
        cases hq'

end Number.Binary64

/-! ## The comparison -/

namespace Value

variable {a b : Value} {n m : Int} {d e : Nat} {q : ℚ ⊕ Bool}

theorem number?_of_ratio? (h : a.ratio? = some (n, d)) : 0 < d ∧ a.number? = some (.inl (n / d)) := by
  cases a with
  | bool b =>
    cases h
    cases b <;> exact ⟨Nat.one_pos, by simp [number?]⟩
  | int n =>
    cases h
    exact ⟨Nat.one_pos, by simp [number?]⟩
  | float x => exact ⟨Number.den_pos_of_toRatio? h, Number.Binary64.number?_of_toRatio? h⟩
  | _ => cases h

/-- A value that stands for a rational number has a numerator and a denominator. -/
theorem exists_ratio? {r : ℚ} (h : a.number? = some (.inl r)) : ∃ n d, a.ratio? = some (n, d) := by
  cases a with
  | bool b => exact ⟨_, _, rfl⟩
  | int n => exact ⟨_, _, rfl⟩
  | float x =>
    cases x with
    | finite s m e => exact ⟨_, _, rfl⟩
    | _ => cases h
  | _ => cases h

/-- Quotients compared crosswise are compared by their values. -/
theorem cross_iff (ha : a.ratio? = some (n, d)) (hb : b.ratio? = some (m, e)) :
    n * e = m * d ↔ a.number? = b.number? := by
  obtain ⟨hd, ha⟩ := number?_of_ratio? ha
  obtain ⟨he, hb⟩ := number?_of_ratio? hb
  have hd : (d : ℚ) ≠ 0 := by exact_mod_cast hd.ne'
  have he : (e : ℚ) ≠ 0 := by exact_mod_cast he.ne'
  rw [ha, hb, Option.some.injEq, Sum.inl.injEq, div_eq_div_iff hd he]
  exact_mod_cast Iff.rfl

/-- Numbers of different kinds are compared as quotients. -/
theorem isSame_iff_cross (hmixed : ∀ x y, a = .float x → b = .float y → False)
    (ha : a.ratio? = some (n, d)) (hb : b.ratio? = some (m, e)) :
    a.isSame b = true ↔ n * e = m * d := by
  unfold isSame
  split
  case h_9 => exact (hmixed _ _ rfl rfl).elim
  case h_10 =>
    rw [ha, hb]
    simp
  all_goals cases ha

/-- Values that stand for one number compare as the same. -/
theorem isSame_of_number? (hcomparable : a.IsComparable) (hcomparable' : b.IsComparable)
    (ha : a.number? = some q) (hb : b.number? = some q) : a.isSame b = true := by
  by_cases hfloats : ∃ x y, a = .float x ∧ b = .float y
  · obtain ⟨x, y, rfl, rfl⟩ := hfloats
    exact (Number.Binary64.isSame_iff hcomparable hcomparable').mpr ⟨q, ha, hb⟩
  · have hmixed : ∀ x y, a = .float x → b = .float y → False :=
      fun x y hx hy => hfloats ⟨x, y, hx, hy⟩
    cases q with
    | inl r =>
      obtain ⟨n, d, hratio⟩ := exists_ratio? ha
      obtain ⟨m, e, hratio'⟩ := exists_ratio? hb
      exact (isSame_iff_cross hmixed hratio hratio').mpr ((cross_iff hratio hratio').mpr (ha.trans hb.symm))
    | inr negative =>
      -- Only floats are infinite.
      have hfloat {v : Value} (h : v.number? = some (.inr negative)) : ∃ x, v = .float x := by
        cases v with
        | float x => exact ⟨x, rfl⟩
        | _ => cases h
      obtain ⟨x, hx⟩ := hfloat ha
      obtain ⟨y, hy⟩ := hfloat hb
      exact (hmixed x y hx hy).elim

end Value

theorem Calendar.Moment.isSame_iff {m n : Calendar.Moment} (hm : ∀ z later, m.anchor ≠ .zone z later)
    (hn : ∀ z later, n.anchor ≠ .zone z later) :
    m.isSame n = true ↔ m.offset?.isSome = n.offset?.isSome ∧ m.instant = n.instant := by
  unfold isSame since sameClock instant offset?
  cases hanchor : m.anchor with
  | zone z later => exact absurd hanchor (hm z later)
  | _ =>
    cases hanchor' : n.anchor with
    | zone z later => exact absurd hanchor' (hn z later)
    | _ => simp [sub_eq_zero]

/-- Values that compare as the same are the same. -/
theorem same_of_isSame :
    (∀ a b : Value, a.IsComparable → b.IsComparable → a.isSame b = true → a.Same b) ∧
      ∀ as bs, AreComparable as → AreComparable bs → areSame as bs = true → AllSame as bs := by
  apply Value.isSame.mutual_induct
  case case1 => exact fun _ _ _ => .null
  case case2 =>
    intro s s' _ _ h
    cases eq_of_beq h
    exact .str s
  case case3 =>
    intro octets octets' _ _ h
    cases eq_of_beq h
    exact .bytes octets
  case case4 =>
    intro d d' _ _ h
    cases eq_of_beq h
    exact .date d
  case case5 =>
    intro m n hm hn h
    obtain ⟨hties, hinstant⟩ := (Calendar.Moment.isSame_iff hm hn).mp h
    exact .moment hties hinstant
  case case6 =>
    intro t t' _ _ h
    cases eq_of_beq h
    exact .time t
  case case7 => exact fun as bs ih ha hb h => .list (ih ha hb h)
  case case8 => exact fun as bs ih ha hb h => .tuple (ih ha hb h)
  case case9 =>
    intro x y hx hy h
    obtain ⟨q, hq, hq'⟩ := (Number.Binary64.isSame_iff hx hy).mp h
    exact .number hq hq'
  case case10 =>
    intro a b _ _ _ _ _ _ _ _ hmixed n d m e hb ha _ _ h
    have hcross := (Value.isSame_iff_cross hmixed ha hb).mp h
    obtain ⟨-, hnumber⟩ := Value.number?_of_ratio? ha
    exact .number hnumber (((Value.cross_iff ha hb).mp hcross).symm.trans hnumber)
  case case11 =>
    intro a b h1 h2 h3 h4 h5 h6 h7 h8 h9 hnone _ _ h
    rw [Value.isSame.eq_10 a b h1 h2 h3 h4 h5 h6 h7 h8 h9] at h
    split at h
    · next ha hb => exact (hnone _ _ _ _ ha hb).elim
    · cases h
  case case12 => exact fun _ _ _ => .nil
  case case13 =>
    intro a as b bs ih ihs ha hb h
    obtain ⟨hfirst, hrest⟩ := Bool.and_eq_true_iff.mp h
    exact .cons (ih ha.1 hb.1 hfirst) (ihs ha.2 hb.2 hrest)
  case case14 =>
    intro as bs hnil hcons _ _ h
    cases as with
    | nil =>
      cases bs with
      | nil => exact (hnil rfl rfl).elim
      | cons b bs => cases h
    | cons a as =>
      cases bs with
      | nil => cases h
      | cons b bs => exact (hcons _ _ _ _ rfl rfl).elim

mutual

/-- Values that are the same compare as the same. -/
theorem Value.Same.isSame {a b : Value} (ha : a.IsComparable) (hb : b.IsComparable) :
    a.Same b → a.isSame b = true
  | .null => rfl
  | .str s => beq_self_eq_true s
  | .bytes octets => beq_self_eq_true octets
  | .date d => beq_self_eq_true d
  | .moment hties hinstant => (Calendar.Moment.isSame_iff ha hb).mpr ⟨hties, hinstant⟩
  | .time t => beq_self_eq_true t
  | .list h => h.areSame ha hb
  | .tuple h => h.areSame ha hb
  | .number hq hq' => Value.isSame_of_number? ha hb hq hq'

theorem AllSame.areSame {as bs : List Value} (ha : AreComparable as) (hb : AreComparable bs) :
    AllSame as bs → PromptTemplates.areSame as bs = true
  | .nil => rfl
  | .cons h hrest => Bool.and_eq_true_iff.mpr ⟨h.isSame ha.1 hb.1, hrest.areSame ha.2 hb.2⟩

end

/-- Comparable values can be relied on as keys. -/
theorem consistent_comparable : Entries.Consistent Value.IsComparable where
  symm ha hb h := (same_of_isSame.1 _ _ ha hb h).symm.isSame hb ha
  trans ha hb hc h h' :=
    ((same_of_isSame.1 _ _ ha hb h).trans (same_of_isSame.1 _ _ hb hc h')).isSame ha hc

end PromptTemplates
