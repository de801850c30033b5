import ChipEight.Assembly.Operand
import ChipEight.Instruction.Encoding
import ChipEight.Proofs.Except

/-!
# What operands mean

A register operand is the printed name of a register in either case; a number operand stands for a
number in the range of its field. The readers of operands take exactly these.
-/

namespace ChipEight

open Text

namespace Text

/-! ### Letters in either case -/

theorem toNat_toUpper (c : Char) :
    c.toUpper.toNat = if 97 ≤ c.toNat ∧ c.toNat ≤ 122 then c.toNat - 32 else c.toNat := by
  unfold Char.toUpper
  simp only [Char.toNat, UInt32.le_iff_toNat_le, Char.reduceVal, UInt32.reduceToNat]
  split
  · simp only [UInt32.toNat_add, UInt32.reduceSub, UInt32.reduceToNat]
    omega
  · rfl

theorem toNat_toLower (c : Char) :
    c.toLower.toNat = if 65 ≤ c.toNat ∧ c.toNat ≤ 90 then c.toNat + 32 else c.toNat := by
  unfold Char.toLower
  simp only [Char.toNat, ge_iff_le, UInt32.le_iff_toNat_le, Char.reduceVal, UInt32.reduceToNat]
  split
  · simp only [UInt32.toNat_add, UInt32.reduceSub, UInt32.reduceToNat]
    omega
  · rfl

theorem toLower_eq_iff_toUpper_eq (small capital : Char) {c : Char}
    (letter : 97 ≤ small.toNat ∧ small.toNat ≤ 122)
    (same : capital.toNat = small.toNat - 32) : c.toLower = small ↔ c.toUpper = capital := by
  rw [← Char.toNat_inj, ← Char.toNat_inj, toNat_toLower, toNat_toUpper]
  split <;> split <;> omega

theorem toLower_eq_iff_of_digit (digit : Char) {c : Char}
    (range : 48 ≤ digit.toNat ∧ digit.toNat ≤ 57) :
    c.toLower = digit ↔ c.toUpper = digit := by
  rw [← Char.toNat_inj, ← Char.toNat_inj, toNat_toLower, toNat_toUpper]
  split <;> split <;> omega

theorem toNat_capitalDigit : ∀ d : Fin 16, (Nat.digitChar d).toUpper.toNat =
    if d.val < 10 then 48 + d.val else 55 + d.val := by decide

theorem digitValue?_eq_some_iff {c : Char} {d : Fin 16} :
    Numeral.digitValue? c = some d.val ↔ c.toUpper = (Nat.digitChar d).toUpper := by
  rw [← Char.toNat_inj, toNat_capitalDigit, toNat_toUpper]
  simp only [Numeral.digitValue?, Char.le_def, UInt32.le_iff_toNat_le, Char.toNat_val,
    Char.reduceToNat, Bool.and_eq_true, decide_eq_true_eq]
  have small := d.isLt
  split
  · rw [Option.some.injEq]
    split <;> split <;> omega
  split
  · rw [Option.some.injEq]
    split <;> omega
  split
  · rw [Option.some.injEq]
    split <;> omega
  · simp only [reduceCtorEq, false_iff]
    split <;> omega

end Text

namespace Assembly

/-! ### What operands mean -/

/-- The operand is the name of the register, in either case. -/
def NamesRegister (operand : List Char) (x : Register) : Prop :=
  upperAscii operand = (registerText x).toList

/-- The operand stands for a number from -128 to 255, and the byte is that number modulo 256. -/
def ByteOperand (labels : Labels) (operand : List Char) (b : UInt8) : Prop :=
  ∃ value, resolve labels operand = .ok value ∧ -128 ≤ value ∧ value ≤ 255 ∧
    (b.toNat : Int) = value % 256

/-- The operand stands for the address; so it is no number outside 0 to 4095. -/
def AddressOperand (labels : Labels) (operand : List Char) (target : Address) : Prop :=
  resolve labels operand = .ok (target.val : Int)

/-- The operand spells the height of a sprite; so it is no number outside 0 to 15. -/
def HeightOperand (operand : List Char) (n : Nibble) : Prop :=
  immediate operand = .ok (n.val : Int)

def WordOperand (labels : Labels) (operand : List Char) (w : UInt16) : Prop :=
  resolve labels operand = .ok (w.toNat : Int)

theorem toList_registerText : ∀ x : Register,
    (registerText x).toList = ['V', (Nat.digitChar x).toUpper] := by decide

theorem register?_eq_some_iff {operand : List Char} {x : Register} :
    register? operand = some x ↔ NamesRegister operand x := by
  unfold register? NamesRegister
  rw [toList_registerText]
  split
  · rename_i v digit
    have letter : (v = 'V' ∨ v = 'v') ↔ v.toUpper = 'V' := by
      rw [← Char.toNat_inj, ← Char.toNat_inj, ← Char.toNat_inj, toNat_toUpper]
      simp only [Char.reduceToNat]
      split <;> omega
    simp only [upperAscii, List.map_cons, List.map_nil, List.cons.injEq, and_true,
      ← digitValue?_eq_some_iff, ← letter, Bool.or_eq_true, decide_eq_true_eq]
    split
    · rename_i named
      simp only [named, true_and]
      cases Numeral.digitValue? digit with
      | none => simp
      | some d =>
        simp only [Option.some.injEq]
        constructor
        · intro same
          split at same
          · cases same
            rfl
          · cases same
        · rintro rfl
          rw [dif_pos x.isLt]
    · rename_i other
      simp [other]
  · rename_i long
    constructor
    · exact fun none => nomatch none
    · intro named
      obtain ⟨v, rest, rfl, -, more⟩ := List.map_eq_cons_iff.mp named
      obtain ⟨digit, rest, rfl, -, none⟩ := List.map_eq_cons_iff.mp more
      rw [List.map_eq_nil_iff.mp none] at long
      exact absurd rfl (long v digit)

theorem register_eq_ok {operand : List Char} {x : Register} :
    register operand = .ok x ↔ NamesRegister operand x := by
  rw [← register?_eq_some_iff, register]
  cases register? operand <;> simp

theorem register?_eq_none_iff {operand : List Char} :
    register? operand = none ↔ ∀ x, ¬NamesRegister operand x := by
  simp only [← register?_eq_some_iff, Option.eq_none_iff_forall_ne_some, ne_eq]

theorem lowerAscii_eq_zeroth {operand : List Char} :
    lowerAscii operand = ['v', '0'] ↔ NamesRegister operand indexingRegister := by
  have digit : (Nat.digitChar 0).toUpper = '0' := by decide
  rw [NamesRegister, toList_registerText]
  simp only [lowerAscii, upperAscii, List.map_eq_cons_iff, List.map_eq_nil_iff, indexingRegister,
    Fin.val_zero, digit, toLower_eq_iff_toUpper_eq 'v' 'V' (by decide) (by decide),
    toLower_eq_iff_of_digit '0' (by decide)]

theorem lowerAscii_eq_index {operand : List Char} :
    lowerAscii operand = ['i'] ↔ upperAscii operand = ['I'] := by
  simp only [lowerAscii, upperAscii, List.map_eq_cons_iff, List.map_eq_nil_iff,
    toLower_eq_iff_toUpper_eq 'i' 'I' (by decide) (by decide)]

theorem fit_eq_ok {quantity : Quantity} {value : Int} {n : Fin quantity.bound} :
    fit quantity value = .ok n ↔ value = (n.val : Int) := by
  unfold fit
  split
  · rw [Except.ok.injEq, Fin.ext_iff]
    dsimp only
    omega
  · rename_i outside
    have := n.isLt
    simp only [reduceCtorEq, false_iff]
    omega

variable {labels : Labels}

theorem bind_fit_eq_ok {quantity : Quantity} {x : Except Cause Int} {n : Fin quantity.bound} :
    (x >>= fit quantity) = .ok n ↔ x = .ok (n.val : Int) := by
  rw [bind_eq_ok]
  constructor
  · rintro ⟨value, read, fits⟩
    rwa [fit_eq_ok.mp fits] at read
  · intro read
    exact ⟨_, read, fit_eq_ok.mpr rfl⟩

theorem address_eq_ok {operand : List Char} {target : Address} :
    address labels operand = .ok target ↔ AddressOperand labels operand target :=
  bind_fit_eq_ok

theorem height_eq_ok {operand : List Char} {n : Nibble} :
    height operand = .ok n ↔ HeightOperand operand n :=
  bind_fit_eq_ok

theorem word_eq_ok {operand : List Char} {w : UInt16} :
    word labels operand = .ok w ↔ WordOperand labels operand w := by
  simp only [word, bind_eq_ok, pure_eq_ok, Except.ok.injEq, WordOperand]
  constructor
  · rintro ⟨value, read, n, fits, rfl⟩
    have same : (UInt16.ofNat n.val).toNat = n.val := UInt16.toNat_ofNat_of_lt n.isLt
    rw [same, read, fit_eq_ok.mp fits]
  · intro read
    have small : w.toNat < Quantity.word.bound := w.toNat_lt
    exact ⟨_, read, ⟨w.toNat, small⟩, fit_eq_ok.mpr rfl, UInt16.ofNat_toNat⟩

theorem byte_eq_ok {operand : List Char} {b : UInt8} :
    byte labels operand = .ok b ↔ ByteOperand labels operand b := by
  simp only [byte, bind_eq_ok, pure_eq_ok, Except.ok.injEq, ByteOperand]
  refine exists_congr fun value => and_congr_right fun _ => ?_
  constructor
  · rintro ⟨n, fits, rfl⟩
    have fits := fit_eq_ok.mp fits
    have small : n.val < 256 := n.isLt
    rw [UInt8.toNat_ofNat', Nat.mod_eq_of_lt small]
    split at fits <;> omega
  · rintro ⟨least, greatest, same⟩
    have small : b.toNat < Quantity.byte.bound := b.toNat_lt
    refine ⟨⟨b.toNat, small⟩, fit_eq_ok.mpr ?_, UInt8.ofNat_toNat⟩
    dsimp only
    split <;> omega

end Assembly

end ChipEight
