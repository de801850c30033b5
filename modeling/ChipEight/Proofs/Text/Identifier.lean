import ChipEight.Proofs.Except
import ChipEight.Proofs.Text.Fields
import ChipEight.Text.Identifier
import ChipEight.Text.Numeral

/-!
# Identifiers are no numerals

No character that begins an identifier is read as a blank, a sign or a decimal digit, so a numeral
in an open radix does not begin like an identifier (`parse_of_begins`). The sets of characters are
told apart by walking along their boundaries (`apartWithin_sound`).
-/

namespace ChipEight.Text

/-! ### Sets of code points -/

namespace CodePoints

/-- Whether `n` is a member, by the boundaries from some point on, `before` telling the membership
up to there. -/
def member (before : Bool) (boundaries : List Nat) (n : Nat) : Bool :=
  before ^^ ((boundaries.takeWhile (· ≤ n)).length % 2 == 1)

theorem contains_eq_member (s : CodePoints) (c : Char) :
    s.contains c = member false s.boundaries c.toNat :=
  (Bool.false_xor _).symm

theorem member_nil (before : Bool) (n : Nat) : member before [] n = before := Bool.xor_false _

theorem odd_succ (k : Nat) : ((k + 1) % 2 == 1) = !(k % 2 == 1) := by
  obtain even | odd := Nat.mod_two_eq_zero_or_one k
  · rw [even, show (k + 1) % 2 = 1 by omega]
    rfl
  · rw [odd, show (k + 1) % 2 = 0 by omega]
    rfl

theorem member_cons (before : Bool) (a : Nat) (boundaries : List Nat) (n : Nat) :
    member before (a :: boundaries) n = if a ≤ n then member (!before) boundaries n else before := by
  unfold member
  by_cases reached : a ≤ n
  · rw [if_pos reached, List.takeWhile_cons_of_pos (by simpa using reached), List.length_cons,
      odd_succ, Bool.xor_not, Bool.not_xor]
  · rw [if_neg reached, List.takeWhile_cons_of_neg (by simpa using reached)]
    exact Bool.xor_false _

/-- Walks along the boundaries of two sets, at most `fuel` of them, and looks whether a point is in
both. -/
def apartWithin : Nat → Bool → Bool → List Nat → List Nat → Bool
  | 0, _, _, _, _ => false
  | _, p, _, [], _ => !p
  | _, _, q, _ :: _, [] => !q
  | fuel + 1, p, q, a :: s, b :: t =>
    !(p && q) &&
      if a < b then apartWithin fuel (!p) q s (b :: t)
      else if b < a then apartWithin fuel p (!q) (a :: s) t
      else apartWithin fuel (!p) (!q) s t

def apart (s t : CodePoints) : Bool :=
  apartWithin (s.boundaries.length + t.boundaries.length + 1) false false s.boundaries t.boundaries

theorem apartWithin_sound {fuel : Nat} {p q : Bool} {s t : List Nat}
    (walked : apartWithin fuel p q s t = true) (n : Nat) :
    ¬(member p s n = true ∧ member q t n = true) := by
  induction fuel generalizing p q s t with
  | zero => cases walked
  | succ fuel ih =>
    cases s with
    | nil =>
      have outside : p = false := by simpa [apartWithin] using walked
      simp [member_nil, outside]
    | cons a s =>
      cases t with
      | nil =>
        have outside : q = false := by simpa [apartWithin] using walked
        simp [member_nil, outside]
      | cons b t =>
        rw [apartWithin, Bool.and_eq_true] at walked
        obtain ⟨here, further⟩ := walked
        have not_both : ¬(p = true ∧ q = true) := by
          rintro ⟨rfl, rfl⟩
          cases here
        rw [member_cons p, member_cons q]
        split at further
        · rename_i before
          by_cases reached : a ≤ n
          · rw [if_pos reached, ← member_cons]
            exact ih further
          · rw [if_neg reached, if_neg (by omega)]
            exact not_both
        · split at further
          · rename_i before
            by_cases reached : b ≤ n
            · rw [if_pos reached, ← member_cons]
              exact ih further
            · rw [if_neg reached, if_neg (by omega)]
              exact not_both
          · obtain rfl : a = b := by omega
            by_cases reached : a ≤ n
            · rw [if_pos reached, if_pos reached]
              exact ih further
            · rw [if_neg reached, if_neg reached]
              exact not_both

theorem not_contains_of_apart {s t : CodePoints} (walked : s.apart t = true) {c : Char}
    (mem : s.contains c = true) : t.contains c = false := by
  rw [contains_eq_member] at mem ⊢
  exact Bool.eq_false_iff.mpr fun both => apartWithin_sound walked _ ⟨mem, both⟩

end CodePoints

/-! ### What a numeral reads -/

def blanks : CodePoints := .mk [
  9, 0xe, 0x1c, 0x21, 0x85, 0x86, 0xa0, 0xa1, 0x1680, 0x1681, 0x2000, 0x200b, 0x2028, 0x202a,
  0x202f, 0x2030, 0x205f, 0x2060, 0x3000, 0x3001]

def decimalDigits : CodePoints := .mk (zeroDigits.flatMap fun z => [z, z + 10])

theorem contains_blanks {c : Char} (blank : isBlank c = true) : blanks.contains c = true := by
  rw [CodePoints.contains_eq_member, blanks]
  unfold isBlank at blank
  simp only [CodePoints.member_cons, CodePoints.member_nil]
  generalize c.toNat = n at blank ⊢
  grind

theorem member_digits {zeros : List Nat} (apart : zeros.Pairwise fun z z' => z + 10 ≤ z')
    {z n : Nat} (mem : z ∈ zeros) (lower : z ≤ n) (upper : n < z + 10) :
    CodePoints.member false (zeros.flatMap fun z => [z, z + 10]) n = true := by
  induction zeros with
  | nil => cases mem
  | cons w zeros ih =>
    obtain ⟨first, apart⟩ := List.pairwise_cons.mp apart
    show CodePoints.member false (w :: (w + 10) :: zeros.flatMap fun z => [z, z + 10]) n = true
    rw [CodePoints.member_cons, CodePoints.member_cons]
    obtain rfl | mem := List.mem_cons.mp mem
    · rw [if_pos lower, if_neg (by omega)]
      rfl
    · have below := first z mem
      rw [if_pos (by omega), if_pos (by omega)]
      exact ih apart mem

theorem contains_decimalDigits {c : Char} {d : Nat} (digit : decimalDigit? c = some d) :
    decimalDigits.contains c = true := by
  obtain ⟨z, found, -⟩ := Option.map_eq_some_iff.mp digit
  have range := List.find?_some found
  rw [Bool.and_eq_true, decide_eq_true_eq, decide_eq_true_eq] at range
  have apart : zeroDigits.Pairwise fun z z' => z + 10 ≤ z' := by decide +kernel
  rw [CodePoints.contains_eq_member]
  exact member_digits apart (List.mem_of_find?_eq_some found) range.1 range.2

theorem identifierStarts_apart_blanks : identifierStarts.apart blanks = true := by decide +kernel

theorem identifierStarts_apart_decimalDigits : identifierStarts.apart decimalDigits = true := by
  decide +kernel

theorem isBlank_of_identifierStart {c : Char} (start : identifierStarts.contains c = true) :
    isBlank c = false := by
  have outside := CodePoints.not_contains_of_apart identifierStarts_apart_blanks start
  exact Bool.eq_false_iff.mpr fun blank => by simp [contains_blanks blank] at outside

theorem decimalDigit?_of_identifierStart {c : Char} (start : identifierStarts.contains c = true) :
    decimalDigit? c = none := by
  have outside := CodePoints.not_contains_of_apart identifierStarts_apart_decimalDigits start
  rw [Option.eq_none_iff_forall_ne_some]
  intro d digit
  simp [contains_decimalDigits digit] at outside

namespace Numeral

/-- A character with which no decimal numeral begins, but for an underscore. -/
structure BeginsNoNumeral (c : Char) : Prop where
  solid : isSpace c = false
  unsigned : c ≠ '-' ∧ c ≠ '+'
  unprefixed : c ≠ '0'
  noDigit : isDigit 10 c = false

instance (c : Char) : Decidable (BeginsNoNumeral c) :=
  decidable_of_iff (isSpace c = false ∧ (c ≠ '-' ∧ c ≠ '+') ∧ c ≠ '0' ∧ isDigit 10 c = false)
    ⟨fun ⟨a, b, c, d⟩ => ⟨a, b, c, d⟩, fun ⟨a, b, c, d⟩ => ⟨a, b, c, d⟩⟩

theorem beginsNoNumeral_of_identifierStart {c : Char}
    (start : identifierStarts.contains c = true) : BeginsNoNumeral (asciiForm c) := by
  unfold asciiForm
  by_cases ascii : c.toNat < 127
  · have table : ∀ n < 127, identifierStarts.contains (Char.ofNat n) = true →
        BeginsNoNumeral (Char.ofNat n) := by decide +kernel
    have own := table c.toNat ascii
    rw [Char.ofNat_toNat] at own
    rw [if_pos ascii]
    exact own start
  · rw [if_neg ascii, isBlank_of_identifierStart start, decimalDigit?_of_identifierStart start]
    decide

theorem parseDigits_of_noDigit (malformed : Error) {a : Char} {rest : List Char}
    (noDigit : isDigit 10 a = false) :
    parseDigits malformed ⟨10, false, a :: rest⟩ = .error malformed := by
  unfold parseDigits
  dsimp only
  by_cases underscore : a = '_'
  · -- No digit stands before the underscore.
    have leads : ∀ cs, underscoresSeparate false ('_' :: cs) = false := by
      intro cs
      cases cs <;> rfl
    subst underscore
    rw [List.takeWhile_cons_of_pos (by decide), leads]
    rfl
  · rw [List.takeWhile_cons_of_neg (by simp [noDigit, underscore])]
    rfl

/-- What does not begin like a numeral is none in an open radix. -/
theorem parse_of_begins {a c : Char} {cs : List Char} (read : asciiForm c = a)
    (begins : BeginsNoNumeral a) :
    parse .byPrefix (c :: cs) = .error (.malformed .byPrefix (c :: cs)) := by
  obtain ⟨solid, ⟨no_minus, no_plus⟩, unprefixed, noDigit⟩ := begins
  have unsigned : ∀ rest, splitSign (a :: rest) = (false, a :: rest) := by
    intro rest
    unfold splitSign
    split <;> simp_all
  have head : ∀ rest, splitPrefix .byPrefix (a :: rest) = ⟨10, false, a :: rest⟩ := by
    intro rest
    unfold splitPrefix
    split <;> simp_all
  unfold parse
  rw [List.map_cons, read, List.dropWhile_cons_of_neg (by simp [solid]), unsigned]
  dsimp only
  rw [head, parseDigits_of_noDigit _ noDigit]
  rfl

end Numeral

end ChipEight.Text
