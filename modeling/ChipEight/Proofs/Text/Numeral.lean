import ChipEight.Text.Display
import ChipEight.Text.Numeral
import Mathlib.Data.List.TakeWhile

/-!
# Printed numbers are read back

`parse_prefixedHex` and `parse_toString` say that the reader of numerals undoes the two printers of
numbers, hexadecimal behind `0x` and plain decimal.
-/

namespace ChipEight.Text.Numeral

theorem digitValue?_digitChar : ∀ d < 16, digitValue? (Nat.digitChar d) = some d := by decide

theorem asciiForm_digitChar : ∀ d < 16, asciiForm (Nat.digitChar d) = Nat.digitChar d := by decide

theorem digitChar_ne_underscore : ∀ d < 16, Nat.digitChar d ≠ '_' := by decide

/-- A digit is no blank and no sign. -/
theorem digitChar_begins : ∀ d < 16, isSpace (Nat.digitChar d) = false ∧
    Nat.digitChar d ≠ '-' ∧ Nat.digitChar d ≠ '+' := by decide

/-- Text that consists of the printed digits of a base. -/
def AreDigits (base : Nat) (cs : List Char) : Prop := ∀ c ∈ cs, ∃ d < base, c = Nat.digitChar d

theorem areDigits_toDigits {base : Nat} (n : Nat) (hb : 1 < base) :
    AreDigits base (Nat.toDigits base n) := by
  induction n using Nat.strongRecOn with
  | _ n ih =>
    intro c hc
    rw [Nat.toDigits_eq_if hb] at hc
    split at hc
    · exact ⟨n, by assumption, by simpa using hc⟩
    · rcases List.mem_append.mp hc with hc | hc
      · exact ih _ (Nat.div_lt_self (by omega) hb) c hc
      · exact ⟨n % base, Nat.mod_lt _ (by omega), by simpa using hc⟩

theorem areDigits_leftpad {base : Nat} {cs : List Char} (width : Nat) (hb : 0 < base)
    (h : AreDigits base cs) : AreDigits base (cs.leftpad width '0') := by
  intro c hc
  rcases List.mem_append.mp hc with hc | hc
  · exact ⟨0, hb, (List.mem_replicate.mp hc).2⟩
  · exact h c hc

theorem value_append (base : Nat) (cs : List Char) (c : Char) :
    value base (cs ++ [c]) = value base cs * base + (digitValue? c).getD 0 := by
  simp [value, List.foldl_append]

theorem value_toDigits {base : Nat} (n : Nat) (hb : 1 < base) (hb' : base ≤ 16) :
    value base (Nat.toDigits base n) = n := by
  induction n using Nat.strongRecOn with
  | _ n ih =>
    rw [Nat.toDigits_eq_if hb]
    split
    · rename_i h
      simp [value, digitValue?_digitChar n (by omega)]
    · have hd : n % base < base := Nat.mod_lt _ (by omega)
      rw [value_append, ih _ (Nat.div_lt_self (by omega) hb), digitValue?_digitChar _ (by omega)]
      exact Nat.div_add_mod' n base

theorem value_leftpad (base width : Nat) (cs : List Char) :
    value base (cs.leftpad width '0') = value base cs := by
  have zeros : ∀ k, value base (List.replicate k '0' ++ cs) = value base cs := by
    intro k
    induction k with
    | zero => rfl
    | succ k ih =>
      rw [List.replicate_succ, List.cons_append, ← ih]
      simp [value, digitValue?]
  exact zeros _

theorem map_asciiForm_digits {base : Nat} {cs : List Char} (hb : base ≤ 16)
    (h : AreDigits base cs) : cs.map asciiForm = cs := by
  rw [List.map_congr_left (g := id), List.map_id]
  intro c hc
  obtain ⟨d, hd, rfl⟩ := h c hc
  exact asciiForm_digitChar d (by omega)

theorem underscoresSeparate_of_notMem {cs : List Char} (afterDigit : Bool) (h : '_' ∉ cs) :
    underscoresSeparate afterDigit cs = true := by
  induction cs generalizing afterDigit with
  | nil => rfl
  | cons c cs ih =>
    obtain ⟨hc, hcs⟩ := not_or.mp (mt List.mem_cons.mpr h)
    rw [underscoresSeparate]
    · exact ih true hcs
    · rintro rfl; exact absurd rfl hc
    · rintro rfl; exact hc rfl

theorem notMem_of_areDigits {base : Nat} {cs : List Char} {c : Char}
    (other : ∀ d < 16, Nat.digitChar d ≠ c) (hb : base ≤ 16) (h : AreDigits base cs) : c ∉ cs := by
  intro hc
  obtain ⟨d, hd, hc⟩ := h _ hc
  exact other d (by omega) hc.symm

theorem underscore_notMem {base : Nat} {cs : List Char} (hb : base ≤ 16) (h : AreDigits base cs) :
    '_' ∉ cs := notMem_of_areDigits digitChar_ne_underscore hb h

theorem parseDigits_areDigits {malformed : Error} {base : Nat} {zeroOnly : Bool} {cs : List Char}
    (hb : base ≤ 16) (h : AreDigits base cs) (hne : cs ≠ []) :
    parseDigits malformed ⟨base, zeroOnly, cs⟩ =
      if base = 10 ∧ digitLimit < cs.length then .error (.tooLong cs.length)
      else if zeroOnly = true ∧ value base cs ≠ 0 then .error malformed
      else .ok (value base cs) := by
  have part : ∀ c ∈ cs, (isDigit base c || decide (c = '_')) = true := by
    intro c hc
    obtain ⟨d, hd, rfl⟩ := h c hc
    simp [isDigit, digitValue?_digitChar d (by omega), hd]
  have noUnderscore := underscore_notMem hb h
  have scanned : cs.takeWhile (fun c => isDigit base c || decide (c = '_')) = cs :=
    List.takeWhile_eq_self_iff.mpr part
  have rest : cs.dropWhile (fun c => isDigit base c || decide (c = '_')) = [] :=
    List.dropWhile_eq_nil_iff.mpr part
  have digits : cs.filter (fun c => decide (c ≠ '_')) = cs :=
    List.filter_eq_self.mpr fun c hc => decide_eq_true fun same => noUnderscore (same ▸ hc)
  simp only [parseDigits, scanned, rest, digits, underscoresSeparate_of_notMem false noUnderscore]
  simp [hne]

theorem parseDigits_digits {malformed : Error} {base : Nat} {zeroOnly : Bool} {cs : List Char}
    (hb : base ≤ 16) (h : AreDigits base cs) (hne : cs ≠ [])
    (hlen : base = 10 → cs.length ≤ digitLimit) (hz : zeroOnly = true → value base cs = 0) :
    parseDigits malformed ⟨base, zeroOnly, cs⟩ = .ok (value base cs) := by
  have short : ¬(base = 10 ∧ digitLimit < cs.length) := fun ⟨ten, long⟩ => by
    have := hlen ten
    omega
  have zero : ¬(zeroOnly = true ∧ value base cs ≠ 0) := fun ⟨only, nonzero⟩ => nonzero (hz only)
  rw [parseDigits_areDigits hb h hne, if_neg short, if_neg zero]

theorem parse_of_head? {radix : Radix} {d : Nat} {cs : List Char}
    (first : cs.head? = some (Nat.digitChar d)) (small : d < 16) (ascii : cs.map asciiForm = cs) :
    parse radix cs = (parseDigits (.malformed radix cs) (splitPrefix radix cs)).map Int.ofNat := by
  obtain ⟨rest, rfl⟩ := List.head?_eq_some_iff.mp first
  obtain ⟨noSpace, noMinus, noPlus⟩ := digitChar_begins d small
  have trimmed : (Nat.digitChar d :: rest).dropWhile isSpace = Nat.digitChar d :: rest := by
    rw [List.dropWhile_cons_of_neg (by simp [noSpace])]
  have unsigned : splitSign (Nat.digitChar d :: rest) = (false, Nat.digitChar d :: rest) := by
    unfold splitSign
    split <;> simp_all
  simp only [parse, ascii, trimmed, unsigned]
  rfl

/-- A numeral without blanks or sign is read as the value of the digits after its head. -/
theorem parse_unsigned {radix : Radix} {base d : Nat} {zeroOnly : Bool} {cs ds : List Char}
    (first : cs.head? = some (Nat.digitChar d)) (small : d < 16) (ascii : cs.map asciiForm = cs)
    (head : splitPrefix radix cs = ⟨base, zeroOnly, ds⟩) (hb : base ≤ 16)
    (digits : AreDigits base ds) (nonempty : ds ≠ [])
    (short : base = 10 → ds.length ≤ digitLimit) (zero : zeroOnly = true → value base ds = 0) :
    parse radix cs = .ok (value base ds : Int) := by
  rw [parse_of_head? first small ascii, head, parseDigits_digits hb digits nonempty short zero]
  rfl

/-! ### What the program prints -/

theorem toList_prefixedHex (width n : Nat) : (prefixedHex width n).toList =
    '0' :: 'x' :: (Nat.toDigits 16 n).leftpad (width - 2) '0' := by
  have positive : ¬(n : Int) < 0 := by omega
  simp only [prefixedHex, hex, if_neg positive, String.empty_append, String.toList_append,
    String.toList_ofList, Int.natAbs_natCast]
  rfl

theorem dropUnderscore_of_notMem {cs : List Char} (h : '_' ∉ cs) : dropUnderscore cs = cs := by
  unfold dropUnderscore
  split
  · exact absurd List.mem_cons_self h
  · rfl

theorem parse_prefixed {radix : Radix} {cs : List Char} (prefixes : radix ≠ .ten)
    (digits : AreDigits 16 cs) (nonempty : cs ≠ []) :
    parse radix ('0' :: 'x' :: cs) = .ok (value 16 cs : Int) := by
  have ascii : ('0' :: 'x' :: cs).map asciiForm = '0' :: 'x' :: cs := by
    rw [List.map_cons, List.map_cons, map_asciiForm_digits (by decide) digits]
    rfl
  have bare := dropUnderscore_of_notMem (underscore_notMem (by decide) digits)
  have head : splitPrefix radix ('0' :: 'x' :: cs) = ⟨16, false, cs⟩ := by
    cases radix with
    | ten => exact absurd rfl prefixes
    | sixteen => rw [splitPrefix, if_pos (by decide), bare]
    | byPrefix => exact congrArg (Head.mk 16 false) bare
  exact parse_unsigned (d := 0) rfl (by decide) ascii head (by decide) digits nonempty (by simp)
    (by simp)

/-- Hexadecimal digits behind `0x` are read back, whatever they were padded to. -/
theorem parse_prefixedHex (width n : Nat) :
    parse .sixteen (prefixedHex width n).toList = .ok (n : Int) := by
  have digits := areDigits_leftpad (width - 2) (by decide)
    (areDigits_toDigits n (show 1 < 16 by decide))
  have nonempty : (Nat.toDigits 16 n).leftpad (width - 2) '0' ≠ [] := by simp [List.leftpad]
  rw [toList_prefixedHex, parse_prefixed Radix.noConfusion digits nonempty, value_leftpad,
    value_toDigits n (by decide) (by decide)]

theorem head_toDigits_ne {n : Nat} (h : n ≠ 0) : (Nat.toDigits 10 n).head? ≠ some '0' := by
  induction n using Nat.strongRecOn with
  | _ n ih =>
    rw [Nat.toDigits_eq_if (by decide)]
    split
    · rename_i small
      have : ∀ d < 10, d ≠ 0 → [Nat.digitChar d].head? ≠ some '0' := by decide
      exact this n small h
    · have front := ih (n / 10) (by omega) (by omega)
      obtain ⟨c, rest, split⟩ :=
        List.exists_cons_of_ne_nil (Nat.toDigits_ne_nil (n := n / 10) (b := 10))
      rwa [split] at front ⊢

theorem head_eq_digitChar {base : Nat} {cs : List Char} (h : AreDigits base cs) (hne : cs ≠ []) :
    ∃ d < base, cs.head? = some (Nat.digitChar d) := by
  obtain ⟨c, rest, rfl⟩ := List.exists_cons_of_ne_nil hne
  obtain ⟨d, hd, rfl⟩ := h c List.mem_cons_self
  exact ⟨d, hd, rfl⟩

/-- The decimal digits of a number are read back under an open radix, unless they are too many. -/
theorem parse_toString (n : Nat) (h : (Nat.toDigits 10 n).length ≤ digitLimit) :
    parse .byPrefix (toString n).toList = .ok (n : Int) := by
  have digits := areDigits_toDigits n (show 1 < 10 by decide)
  have spelled := value_toDigits n (show 1 < 10 by decide) (by decide)
  have head : splitPrefix .byPrefix (Nat.toDigits 10 n) = ⟨10, n = 0, Nat.toDigits 10 n⟩ := by
    by_cases zero : n = 0
    · subst zero
      rfl
    · have nonzero := head_toDigits_ne zero
      unfold splitPrefix
      split <;> simp_all
  obtain ⟨d, small, first⟩ := head_eq_digitChar digits Nat.toDigits_ne_nil
  rw [Nat.toString_eq_ofList_toDigits, String.toList_ofList,
    parse_unsigned first (by omega) (map_asciiForm_digits (by decide) digits) head (by decide)
      digits Nat.toDigits_ne_nil (fun _ => h) (fun zero => by simpa [spelled] using zero), spelled]

theorem toList_toString_natCast (n : Nat) : (toString (n : Int)).toList = Nat.toDigits 10 n := by
  have same : toString (n : Int) = toString n := rfl
  rw [same, Nat.toString_eq_ofList_toDigits, String.toList_ofList]

theorem toList_toString_negSucc (n : Nat) :
    (toString (Int.negSucc n)).toList = '-' :: Nat.toDigits 10 (n + 1) := by
  have same : toString (Int.negSucc n) = "-" ++ toString (n + 1) := rfl
  rw [same, Nat.toString_eq_ofList_toDigits, String.toList_append, String.toList_ofList,
    String.toList_ofList]
  rfl

theorem parse_negative (n : Nat) (h : (Nat.toDigits 10 n).length ≤ digitLimit) :
    parse .ten ('-' :: Nat.toDigits 10 n) = .ok (-(n : Int)) := by
  have digits := areDigits_toDigits n (show 1 < 10 by decide)
  have spelled := value_toDigits n (show 1 < 10 by decide) (by decide)
  have ascii : ('-' :: Nat.toDigits 10 n).map asciiForm = '-' :: Nat.toDigits 10 n := by
    rw [List.map_cons, map_asciiForm_digits (by decide) digits]
    rfl
  have trimmed : ('-' :: Nat.toDigits 10 n).dropWhile isSpace = '-' :: Nat.toDigits 10 n :=
    List.dropWhile_cons_of_neg (by decide)
  have read (malformed : Error) :
      parseDigits malformed ⟨10, false, Nat.toDigits 10 n⟩ = .ok n := by
    refine (parseDigits_digits (by decide) digits Nat.toDigits_ne_nil (fun _ => h) ?_).trans ?_
    · exact fun never => absurd never Bool.false_ne_true
    · rw [spelled]
  simp only [parse, ascii, trimmed, splitSign, splitPrefix, read]
  rfl

end ChipEight.Text.Numeral
