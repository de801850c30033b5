import ChipEight.Proofs.Text.LetterCase
import ChipEight.Proofs.Text.Numeral
import ChipEight.Text.LowerCase
import Mathlib.Data.List.Induction

/-!
# Hexadecimal digits as they are typed

Digits of base sixteen in either case, made small and read under an open radix. Behind `0x` they are
read as the number that they spell (`parse_prefixed`). Without it they are read as binary or decimal
digits, if at all (`parse_of_readsBare`, `parse_of_not_readsBare`), and hardly ever as that number
(`readsBare_spelled_iff`).
-/

namespace ChipEight.Text

/-! ### ASCII -/

theorem forall_ascii {p : Char → Prop} (each : ∀ n < 128, p (Char.ofNat n)) {c : Char}
    (ascii : c.toNat < 128) : p c := by
  have own := each c.toNat ascii
  rwa [Char.ofNat_toNat] at own

theorem capitalRuns_tail : ∀ run ∈ capitalRuns.tail, 128 ≤ run.1 := by decide +kernel

theorem find?_capitalRuns_tail {c : Char} (ascii : c.toNat < 128)
    {holds : Nat × Nat × Nat × Nat → Bool} (starts : ∀ run, holds run = true → run.1 ≤ c.toNat) :
    capitalRuns.tail.find? holds = none := by
  rw [List.find?_eq_none]
  intro run mem held
  have beyond := capitalRuns_tail run mem
  have before := starts run held
  omega

theorem lowerChar_ascii {c : Char} (ascii : c.toNat < 128) : lowerChar c = [c.toLower] := by
  have not_dotted : c.toNat ≠ 0x130 := by omega
  have runs : capitalRuns = (0x41, 0x5a, 1, 0x61) :: capitalRuns.tail := rfl
  rw [lowerChar, if_neg not_dotted, runs, List.find?_cons, find?_capitalRuns_tail ascii ?starts]
  case starts =>
    intro run held
    simp only [Bool.and_eq_true, decide_eq_true_eq] at held
    exact held.1.1
  by_cases capital : 0x41 ≤ c.toNat ∧ c.toNat ≤ 0x5a
  · have small : c.toLower = Char.ofNat (0x61 + (c.toNat - 0x41)) := by
      rw [← Char.ofNat_toNat c.toLower, toNat_toLower, if_pos capital]
      congr 1
      omega
    simp [small, capital, Nat.mod_one]
  · have own : c.toLower = c := by
      rw [← Char.toNat_inj, toNat_toLower, if_neg capital]
    have outside : (decide (0x41 ≤ c.toNat) && decide (c.toNat ≤ 0x5a)) = false := by
      simpa using capital
    simp only [own, outside, Bool.false_and]

/-- Among ASCII characters the small form of any script is that of ASCII. -/
theorem lower_eq_lowerAscii {cs : List Char} (ascii : ∀ c ∈ cs, c.toNat < 128) :
    lower cs = lowerAscii cs := by
  have after : ∀ before, lowerAfter before cs = lowerAscii cs := by
    induction cs with
    | nil => exact fun _ => rfl
    | cons c cs ih =>
      intro before
      rw [List.forall_mem_cons] at ascii
      have no_sigma : c ≠ '\u03a3' := by
        rintro rfl
        exact absurd ascii.1 (by decide)
      rw [lowerAfter, if_neg no_sigma, lowerChar_ascii ascii.1, ih ascii.2]
      rfl
  exact after []

namespace Numeral

theorem toNat_lt_of_digitValue? {c : Char} {d : Nat} (digit : digitValue? c = some d) :
    c.toNat < 128 := by
  have upto : ∀ last : Char, c ≤ last → last.toNat < 128 → c.toNat < 128 := by
    intro last within ascii
    have same : c.toNat ≤ last.toNat := within
    omega
  unfold digitValue? at digit
  split at digit
  · rename_i range
    exact upto '9' (of_decide_eq_true (Bool.and_eq_true_iff.mp range).2) (by decide)
  split at digit
  · rename_i range
    exact upto 'z' (of_decide_eq_true (Bool.and_eq_true_iff.mp range).2) (by decide)
  split at digit
  · rename_i range
    exact upto 'Z' (of_decide_eq_true (Bool.and_eq_true_iff.mp range).2) (by decide)
  · cases digit

theorem toNat_lt_of_isDigit {base : Nat} {c : Char} (digit : isDigit base c = true) :
    c.toNat < 128 := by
  unfold isDigit at digit
  cases value : digitValue? c with
  | none => simp [value] at digit
  | some d => exact toNat_lt_of_digitValue? value

theorem exists_digit_of_isDigit {c : Char} (digit : isDigit 16 c = true) :
    ∃ d < 16, c.toLower = Nat.digitChar d := by
  have ascii := toNat_lt_of_isDigit digit
  revert digit
  apply forall_ascii (p := fun c => isDigit 16 c = true → ∃ d < 16, c.toLower = Nat.digitChar d) _
    ascii
  decide +kernel

/-! ### Values -/

theorem value_add_le {base : Nat} (positive : 0 < base) (cs ds : List Char) :
    value base cs + value base ds ≤ value base (cs ++ ds) := by
  induction ds using List.reverseRecOn with
  | nil => simp [value]
  | append_singleton ds d ih =>
    rw [← List.append_assoc, value_append, value_append]
    have scaled := Nat.mul_le_mul_right base ih
    have larger : value base cs ≤ value base cs * base := Nat.le_mul_of_pos_right _ positive
    rw [Nat.add_mul] at scaled
    omega

theorem value_le_value {base base' : Nat} (le : base ≤ base') (cs : List Char) :
    value base cs ≤ value base' cs := by
  induction cs using List.reverseRecOn with
  | nil => exact Nat.le_refl _
  | append_singleton cs c ih =>
    rw [value_append, value_append]
    have scaled : value base cs * base ≤ value base' cs * base' := Nat.mul_le_mul ih le
    omega

variable {cs : List Char}

/-- Several digits spell a decimal number and a greater hexadecimal one, but for leading zeros. -/
theorem value_ten_eq_iff (decimal : AreDigits 10 cs) :
    value 10 cs = value 16 cs ↔ value 16 cs < 10 := by
  induction cs using List.reverseRecOn with
  | nil => exact ⟨fun _ => by decide, fun _ => rfl⟩
  | append_singleton cs c _ =>
    obtain ⟨d, small, rfl⟩ := decimal c (by simp)
    have less := value_le_value (show 10 ≤ 16 by decide) cs
    rw [value_append, value_append, digitValue?_digitChar d (by omega), Option.getD_some]
    omega

theorem zero_of_value_lt {d : Nat} (hex : d < 16) {c : Char} {rest : List Char}
    (small : value 16 (Nat.digitChar d :: c :: rest) < 10) : d = 0 := by
  have front := value_add_le (show 0 < 16 by decide) [Nat.digitChar d, c] rest
  have two : value 16 [Nat.digitChar d, c] = d * 16 + (digitValue? c).getD 0 := by
    simp [value, digitValue?_digitChar d hex]
  rw [two, List.cons_append, List.singleton_append] at front
  omega

theorem areDigits_ten_of_value_lt (digits : AreDigits 16 cs) (small : value 16 cs < 10) :
    AreDigits 10 cs := by
  induction cs using List.reverseRecOn with
  | nil => exact fun c mem => nomatch mem
  | append_singleton cs c ih =>
    obtain ⟨d, hex, rfl⟩ := digits c (by simp)
    rw [value_append, digitValue?_digitChar d hex, Option.getD_some] at small
    have front := ih (fun c mem => digits c (List.mem_append_left _ mem)) (by omega)
    intro c mem
    rcases List.mem_append.mp mem with mem | mem
    · exact front c mem
    · exact ⟨d, by omega, List.mem_singleton.mp mem⟩

/-! ### Digits without a prefix -/

/-- What small hexadecimal digits are read as if no prefix says that they are hexadecimal: a `0b`
makes those behind it binary, and otherwise all of them have to be decimal. -/
inductive ReadsBare : List Char → Nat → Prop where
  | binary {bits : List Char} (digits : AreDigits 2 bits) (nonempty : bits ≠ []) :
      ReadsBare ('0' :: 'b' :: bits) (value 2 bits)
  | decimal {ds : List Char} (digits : AreDigits 10 ds) (nonempty : ds ≠ [])
      (short : ds.length ≤ digitLimit) (zero : ds.head? = some '0' → value 10 ds = 0) :
      ReadsBare ds (value 10 ds)

variable {ds : List Char}

/-- Nothing but digits of the base is read where hexadecimal digits are all there is. -/
theorem areDigits_of_parseDigits {malformed : Error} {base n : Nat} {zeroOnly : Bool}
    (hex : AreDigits 16 ds) (read : parseDigits malformed ⟨base, zeroOnly, ds⟩ = .ok n) :
    AreDigits base ds := by
  have spaces : (ds.dropWhile fun c => isDigit base c || c = '_').all isSpace = true := by
    unfold parseDigits at read
    dsimp only at read
    iterate 4
      split at read
      · cases read
    split at read
    · assumption
    · cases read
  have none_left : ds.dropWhile (fun c => isDigit base c || c = '_') = [] := by
    cases left : ds.dropWhile fun c => isDigit base c || c = '_' with
    | nil => rfl
    | cons c rest =>
      have mem : c ∈ ds := (List.dropWhile_sublist _).mem (left ▸ List.mem_cons_self)
      obtain ⟨d, small, rfl⟩ := hex c mem
      rw [left, List.all_cons, (digitChar_begins d small).1] at spaces
      cases spaces
  intro c mem
  obtain ⟨d, small, rfl⟩ := hex c mem
  have part := List.dropWhile_eq_nil_iff.mp none_left _ mem
  refine ⟨d, ?_, rfl⟩
  simpa [isDigit, digitValue?_digitChar d small, digitChar_ne_underscore d small] using part

theorem parseDigits_eq_ok_iff {malformed : Error} {base n : Nat} {zeroOnly : Bool} (hb : base ≤ 16)
    (hex : AreDigits 16 ds) :
    parseDigits malformed ⟨base, zeroOnly, ds⟩ = .ok n ↔
      AreDigits base ds ∧ ds ≠ [] ∧ (base = 10 → ds.length ≤ digitLimit) ∧
      (zeroOnly = true → value base ds = 0) ∧ value base ds = n := by
  constructor
  · intro read
    have digits := areDigits_of_parseDigits hex read
    by_cases nonempty : ds = []
    · rw [nonempty] at read
      simp [parseDigits, underscoresSeparate] at read
    rw [parseDigits_areDigits hb digits nonempty] at read
    split at read
    · cases read
    rename_i short
    split at read
    · cases read
    rename_i zero
    refine ⟨digits, nonempty, fun ten => ?_, fun only => ?_, Except.ok.inj read⟩
    · exact Nat.not_lt.mp fun long => short ⟨ten, long⟩
    · exact Decidable.not_not.mp fun positive => zero ⟨only, positive⟩
  · rintro ⟨digits, nonempty, short, zero, rfl⟩
    exact parseDigits_digits hb digits nonempty short zero

theorem prefixBase?_digitChar : ∀ d < 16,
    prefixBase? (Nat.digitChar d) = if d = 11 then some 2 else none := by decide

theorem digitChar_eq_b : ∀ d < 16, Nat.digitChar d = 'b' → d = 11 := by decide

theorem splitPrefix_hex (hex : AreDigits 16 ds) :
    (∃ bits, ds = '0' :: 'b' :: bits ∧ splitPrefix .byPrefix ds = ⟨2, false, bits⟩) ∨
    (∀ bits, ds ≠ '0' :: 'b' :: bits) ∧
      splitPrefix .byPrefix ds = ⟨10, ds.head? = some '0', ds⟩ := by
  by_cases zero : ds.head? = some '0'
  · obtain ⟨rest, rfl⟩ := List.head?_eq_some_iff.mp zero
    cases rest with
    | nil => exact .inr ⟨by simp, rfl⟩
    | cons c bits =>
      obtain ⟨d, small, rfl⟩ := hex c (by simp)
      have base := prefixBase?_digitChar d small
      by_cases eleven : d = 11
      · have hex_bits : AreDigits 16 bits := fun c mem => hex c (by simp [mem])
        have bare : dropUnderscore bits = bits :=
          dropUnderscore_of_notMem (underscore_notMem (by decide) hex_bits)
        subst eleven
        refine .inl ⟨bits, rfl, ?_⟩
        exact congrArg (Head.mk 2 false) bare
      · have other : Nat.digitChar d ≠ 'b' := mt (digitChar_eq_b d small) eleven
        rw [if_neg eleven] at base
        refine .inr ⟨by simp [other], ?_⟩
        rw [splitPrefix, base]
        simp
  · refine .inr ⟨?_, ?_⟩
    · rintro bits rfl
      exact zero rfl
    · rw [splitPrefix_of_head? ds .byPrefix zero, decide_eq_false zero]
      rfl

theorem parseDigits_bare_iff {malformed : Error} (hex : AreDigits 16 ds) {n : Nat} :
    parseDigits malformed (splitPrefix .byPrefix ds) = .ok n ↔ ReadsBare ds n := by
  obtain ⟨bits, rfl, head⟩ | ⟨no_mark, head⟩ := splitPrefix_hex hex
  · have hex_bits : AreDigits 16 bits := fun c mem => hex c (by simp [mem])
    rw [head, parseDigits_eq_ok_iff (by decide) hex_bits]
    constructor
    · rintro ⟨digits, nonempty, -, -, rfl⟩
      exact .binary digits nonempty
    · intro reads
      cases reads with
      | binary digits nonempty => exact ⟨digits, nonempty, by simp, by simp, rfl⟩
      | decimal digits =>
        obtain ⟨d, small, mark⟩ := digits 'b' (by simp)
        have eleven := digitChar_eq_b d (by omega) mark.symm
        omega
  · rw [head, parseDigits_eq_ok_iff (by decide) hex]
    simp only [decide_eq_true_eq, forall_const]
    constructor
    · rintro ⟨digits, nonempty, short, zero, rfl⟩
      exact .decimal digits nonempty short zero
    · intro reads
      cases reads with
      | binary => exact absurd rfl (no_mark _)
      | decimal digits nonempty short zero => exact ⟨digits, nonempty, short, zero, rfl⟩

theorem parse_hex (hex : AreDigits 16 ds) (nonempty : ds ≠ []) :
    parse .byPrefix ds =
      (parseDigits (.malformed .byPrefix ds) (splitPrefix .byPrefix ds)).map Int.ofNat := by
  obtain ⟨d, small, first⟩ := head_eq_digitChar hex nonempty
  exact parse_of_head? first small (map_asciiForm_digits (by decide) hex)

theorem parse_of_readsBare (hex : AreDigits 16 ds) (nonempty : ds ≠ []) {n : Nat}
    (reads : ReadsBare ds n) : parse .byPrefix ds = .ok (n : Int) := by
  rw [parse_hex hex nonempty, (parseDigits_bare_iff hex).mpr reads]
  rfl

theorem parse_of_not_readsBare (hex : AreDigits 16 ds) (nonempty : ds ≠ [])
    (unread : ∀ n, ¬ReadsBare ds n) : ∃ error, parse .byPrefix ds = .error error := by
  rw [parse_hex hex nonempty]
  cases read : parseDigits (.malformed .byPrefix ds) (splitPrefix .byPrefix ds) with
  | ok n => exact absurd ((parseDigits_bare_iff hex).mp read) (unread n)
  | error error => exact ⟨error, rfl⟩

/-- Digits are read as the hexadecimal number that they spell if there is only one and it is decimal,
and if all of them are zeros. -/
theorem readsBare_spelled_iff (hex : AreDigits 16 ds) (nonempty : ds ≠ []) :
    ReadsBare ds (value 16 ds) ↔
      ds.length = 1 ∧ value 16 ds < 10 ∨ value 16 ds = 0 ∧ ds.length ≤ digitLimit := by
  constructor
  · intro reads
    generalize spelled : value 16 ds = a at reads
    cases reads with
    | @binary bits =>
      have sum := value_add_le (show 0 < 16 by decide) ['0', 'b'] bits
      have less := value_le_value (show 2 ≤ 16 by decide) bits
      have mark : value 16 ['0', 'b'] = 11 := rfl
      rw [mark, List.cons_append, List.singleton_append, spelled] at sum
      omega
    | decimal digits _ short zero =>
      have small := (value_ten_eq_iff digits).mp spelled.symm
      obtain ⟨c, rest, rfl⟩ := List.exists_cons_of_ne_nil nonempty
      obtain ⟨d, hex_d, rfl⟩ := hex c (by simp)
      cases rest with
      | nil => exact .inl ⟨rfl, spelled ▸ small⟩
      | cons c' rest =>
        -- A number below ten has only zeros before its last digit.
        have zero_first : d = 0 := zero_of_value_lt hex_d small
        subst zero_first
        exact .inr ⟨zero rfl, short⟩
  · intro few
    have small : value 16 ds < 10 := by omega
    have digits := areDigits_ten_of_value_lt hex small
    have same := (value_ten_eq_iff digits).mpr small
    have short : ds.length ≤ digitLimit := by
      have limit : 1 ≤ digitLimit := by decide
      omega
    rw [← same]
    apply ReadsBare.decimal digits nonempty short
    intro leading
    rcases few with ⟨single, -⟩ | ⟨zero, -⟩
    · obtain ⟨c, rfl⟩ := List.length_eq_one_iff.mp single
      obtain rfl : c = '0' := Option.some.inj leading
      rfl
    · exact same.trans zero

/-! ### Digits in either case -/

/-- Hexadecimal digits in either case, with any number of zeros before them, that spell `a`. -/
structure Spells (a : Nat) (digits : List Char) : Prop where
  nonempty : digits ≠ []
  hex : ∀ c ∈ digits, isDigit 16 c = true
  value : value 16 digits = a

namespace Spells

variable {a : Nat} {digits : List Char}

theorem ascii (spelled : Spells a digits) : ∀ c ∈ digits, c.toNat < 128 := fun c mem =>
  toNat_lt_of_isDigit (spelled.hex c mem)

theorem areDigits (spelled : Spells a digits) : AreDigits 16 (lowerAscii digits) := by
  intro small mem
  obtain ⟨c, inside, rfl⟩ := List.mem_map.mp mem
  exact exists_digit_of_isDigit (spelled.hex c inside)

theorem nonempty_lower (spelled : Spells a digits) : lowerAscii digits ≠ [] :=
  mt List.map_eq_nil_iff.mp spelled.nonempty

theorem value_lower (spelled : Spells a digits) : Numeral.value 16 (lowerAscii digits) = a :=
  (value_lowerAscii digits 16).trans spelled.value

theorem readsBare_iff (spelled : Spells a digits) : ReadsBare (lowerAscii digits) a ↔
    digits.length = 1 ∧ a < 10 ∨ a = 0 ∧ digits.length ≤ digitLimit := by
  have reads := readsBare_spelled_iff spelled.areDigits spelled.nonempty_lower
  rwa [spelled.value_lower, lowerAscii, List.length_map] at reads

end Spells

end Numeral

end ChipEight.Text
