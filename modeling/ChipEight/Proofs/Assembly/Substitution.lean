import ChipEight.Proofs.Assembly.Encoding
import ChipEight.Proofs.Assembly.Overwriting

/-!
# A number in place of a label

An operand that stands for the same number as a label, and is no register either, does in every
statement what the label does. The number in decimal is such an operand.
-/

namespace ChipEight.Assembly

open Text

/-- The operand `new` may be written for the label `old`: neither is a register, and every number
that `old` can stand for in a field is what `new` stands for. -/
structure StandsFor (labels : Labels) (old new : List Char) : Prop where
  old_noRegister : ∀ x, ¬NamesRegister old x
  new_noRegister : ∀ x, ¬NamesRegister new x
  sameValue : ∀ value, resolve labels old = .ok value → -128 ≤ value → value ≤ 0xFFFF →
    resolve labels new = .ok value

namespace StandsFor

variable {labels : Labels} {old new : List Char}

theorem address (same : StandsFor labels old new) {target : Address}
    (h : AddressOperand labels old target) : AddressOperand labels new target :=
  same.sameValue _ h (by omega) (by omega)

theorem byte (same : StandsFor labels old new) {b : UInt8} (h : ByteOperand labels old b) :
    ByteOperand labels new b := by
  obtain ⟨value, stands, least, greatest, modulo⟩ := h
  exact ⟨value, same.sameValue value stands least (by omega), least, greatest, modulo⟩

theorem word (same : StandsFor labels old new) {w : UInt16} (h : WordOperand labels old w) :
    WordOperand labels new w := by
  have := w.toNat_lt
  exact same.sameValue _ h (by omega) (by omega)

end StandsFor

/-- Whether the operand in place `k` may be a label. The `I` of a load and the height of a sprite
are none, nor is what an origin goes on at. -/
def Statement.takesLabel (k : Nat) : Statement → Bool
  | .origin _ => false
  | .instruction .ld _ => k ≠ 0
  | .instruction .drw _ => k ≠ 2
  | _ => true

theorem mapM_set_eq_ok {α β ε : Type} {f : α → Except ε β} {xs : List α} {ys : List β} {k : Nat}
    {old new : α} (there : xs[k]? = some old) (same : ∀ y, f old = .ok y → f new = .ok y)
    (mapped : xs.mapM f = .ok ys) : (xs.set k new).mapM f = .ok ys := by
  induction xs generalizing ys k with
  | nil => cases there
  | cons x xs ih =>
    obtain ⟨y, rest, first, others, rfl⟩ := mapM_cons_eq_ok.mp mapped
    cases k with
    | zero =>
      obtain rfl := Option.some.inj there
      exact mapM_cons_eq_ok.mpr ⟨y, rest, same y first, others, rfl⟩
    | succ k => exact mapM_cons_eq_ok.mpr ⟨y, rest, first, ih there others, rfl⟩

theorem getElem?_pair {α : Type} {a b x : α} {k : Nat} (there : [a, b][k]? = some x) :
    (k = 0 ∧ a = x) ∨ (k = 1 ∧ b = x) := by
  match k with
  | 0 => exact .inl ⟨rfl, Option.some.inj there⟩
  | 1 => exact .inr ⟨rfl, Option.some.inj there⟩

theorem getElem?_single {α : Type} {a x : α} {k : Nat} (there : [a][k]? = some x) :
    k = 0 ∧ a = x := by
  match k with
  | 0 => exact ⟨rfl, Option.some.inj there⟩

section

variable {labels : Labels} {old new : List Char} (same : StandsFor labels old new)

include same

theorem writtenAs_set {operands : List (List Char)} {i : Instruction} {k : Nat}
    (written : WrittenAs labels operands i)
    (takes : (Statement.instruction i.op.keyword operands).takesLabel k = true)
    (there : operands[k]? = some old) : WrittenAs labels (operands.set k new) i := by
  -- Where a register is written there is no `old`; elsewhere `new` stands for the same number.
  cases i with
  | finish | clear | ret =>
    obtain rfl := written
    cases there
  | sys target | jump target | call target =>
    obtain ⟨a, rfl, stands⟩ := written
    obtain ⟨rfl, rfl⟩ := getElem?_single there
    exact ⟨new, rfl, same.address stands⟩
  | jumpOffset target =>
    obtain ⟨a, b, rfl, ha, stands⟩ := written
    obtain ⟨rfl, rfl⟩ | ⟨rfl, rfl⟩ := getElem?_pair there
    · exact absurd ha (same.old_noRegister _)
    · exact ⟨a, new, rfl, ha, same.address stands⟩
  | loadIndex target =>
    obtain ⟨a, b, rfl, ha, stands⟩ := written
    obtain ⟨rfl, rfl⟩ | ⟨rfl, rfl⟩ := getElem?_pair there
    · cases takes
    · exact ⟨a, new, rfl, ha, same.address stands⟩
  | skipEqByte x value | skipNeByte x value | loadByte x value | addByte x value =>
    obtain ⟨a, b, rfl, ha, -, stands⟩ := written
    obtain ⟨rfl, rfl⟩ | ⟨rfl, rfl⟩ := getElem?_pair there
    · exact absurd ha (same.old_noRegister _)
    · exact ⟨a, new, rfl, ha, same.new_noRegister, same.byte stands⟩
  | random x mask =>
    obtain ⟨a, b, rfl, ha, stands⟩ := written
    obtain ⟨rfl, rfl⟩ | ⟨rfl, rfl⟩ := getElem?_pair there
    · exact absurd ha (same.old_noRegister _)
    · exact ⟨a, new, rfl, ha, same.byte stands⟩
  | shiftRight x y | shiftLeft x y =>
    obtain ⟨a, rfl, ha, -⟩ | ⟨a, b, rfl, ha, hb⟩ := written
    · obtain ⟨rfl, rfl⟩ := getElem?_single there
      exact absurd ha (same.old_noRegister _)
    · obtain ⟨rfl, rfl⟩ | ⟨rfl, rfl⟩ := getElem?_pair there
      · exact absurd ha (same.old_noRegister _)
      · exact absurd hb (same.old_noRegister _)
  | draw x y height =>
    obtain ⟨a, b, c, rfl, ha, hb, -⟩ := written
    match k with
    | 0 => exact absurd (Option.some.inj there ▸ ha) (same.old_noRegister _)
    | 1 => exact absurd (Option.some.inj there ▸ hb) (same.old_noRegister _)
    | 2 => cases takes
  | unknown w =>
    obtain ⟨a, rfl, stands⟩ := written
    obtain ⟨rfl, rfl⟩ := getElem?_single there
    exact ⟨new, rfl, same.word stands⟩
  | _ x y =>
    obtain ⟨a, b, rfl, ha, hb⟩ := written
    obtain ⟨rfl, rfl⟩ | ⟨rfl, rfl⟩ := getElem?_pair there
    · exact absurd ha (same.old_noRegister _)
    · exact absurd hb (same.old_noRegister _)

theorem encode_setOperand {statement : Statement} {k : Nat} {bytes : List UInt8}
    (takes : statement.takesLabel k = true) (there : statement.operands[k]? = some old)
    (encoded : statement.encode labels = .ok bytes) :
    (statement.setOperand k new).encode labels = .ok bytes := by
  cases statement with
  | origin operand => cases there
  | bytes operands =>
    exact mapM_set_eq_ok there (fun _ read => byte_eq_ok.mpr (same.byte (byte_eq_ok.mp read)))
      encoded
  | words operands =>
    obtain ⟨ws, read, made⟩ := map_eq_ok.mp encoded
    refine map_eq_ok.mpr ⟨ws, mapM_set_eq_ok there (fun _ read => ?_) read, made⟩
    exact word_eq_ok.mpr (same.word (word_eq_ok.mp read))
  | instruction m operands =>
    obtain ⟨i, read, made⟩ := map_eq_ok.mp encoded
    obtain ⟨rfl, written⟩ := writtenAs_of_instruction read
    exact map_eq_ok.mpr
      ⟨i, instruction_of_writtenAs (writtenAs_set same written takes there), made⟩

end

theorem size_setOperand (statement : Statement) (k : Nat) (new : List Char) (address : Int) :
    (statement.setOperand k new).size address = statement.size address := by
  cases statement <;> simp [Statement.setOperand, Statement.size]

theorem isOrigin_setOperand (statement : Statement) (k : Nat) (new : List Char) :
    (statement.setOperand k new).isOrigin = statement.isOrigin := by
  cases statement <;> rfl

/-! ### Decimal numbers -/

def decimal (value : Int) : List Char := (toString value).toList

theorem decimal_cases (value : Int) :
    (∃ n : Nat, value = n ∧ decimal value = Nat.toDigits 10 n) ∨
      ∃ n : Nat, value = -(n : Int) ∧ decimal value = '-' :: Nat.toDigits 10 n := by
  cases value with
  | ofNat n => exact .inl ⟨n, rfl, Numeral.toList_toString_natCast n⟩
  | negSucc n => exact .inr ⟨n + 1, rfl, Numeral.toList_toString_negSucc n⟩

theorem mem_decimal {value : Int} {c : Char} (mem : c ∈ decimal value) :
    c = '-' ∨ ∃ d < 10, c = Nat.digitChar d := by
  have digits := fun n => Numeral.areDigits_toDigits n (show 1 < 10 by decide)
  obtain ⟨n, -, text⟩ | ⟨n, -, text⟩ := decimal_cases value
  · rw [text] at mem
    exact .inr (digits n c mem)
  · rw [text] at mem
    rcases List.mem_cons.mp mem with rfl | mem
    · exact .inl rfl
    · exact .inr (digits n c mem)

theorem decimal_ne_nil (value : Int) : decimal value ≠ [] := by
  obtain ⟨n, -, text⟩ | ⟨n, -, text⟩ := decimal_cases value
  · rw [text]
    exact Nat.toDigits_ne_nil
  · rw [text]
    exact List.cons_ne_nil _ _

theorem isOperandText_decimal (value : Int) : IsOperandText (decimal value) where
  nonempty := decimal_ne_nil value
  solid c mem := by
    have digit : ∀ d < 10, isBlank (Nat.digitChar d) = false ∧ Nat.digitChar d ≠ ',' ∧
        Nat.digitChar d ≠ ';' ∧ Nat.digitChar d ≠ ':' := by decide
    obtain rfl | ⟨d, small, rfl⟩ := mem_decimal mem
    · decide
    · exact digit d small

theorem radixOf_digits {cs : List Char} (digits : Numeral.AreDigits 10 cs) :
    radixOf cs = .byPrefix := by
  have none : ∀ d < 10, Nat.digitChar d ≠ 'x' ∧ Nat.digitChar d ≠ 'X' ∧ Nat.digitChar d ≠ '-' := by
    decide
  unfold radixOf
  split
  · obtain ⟨d, small, same⟩ := digits 'x' (by simp)
    exact absurd same.symm (none d small).1
  · obtain ⟨d, small, same⟩ := digits 'X' (by simp)
    exact absurd same.symm (none d small).2.1
  · obtain ⟨d, small, same⟩ := digits '-' (by simp)
    exact absurd same.symm (none d small).2.2
  · rfl

/-- A number that fits a field is read back from its decimal text. -/
theorem immediate_decimal {value : Int} (least : -128 ≤ value) (greatest : value ≤ 0xFFFF) :
    immediate (decimal value) = .ok value := by
  have short : ∀ n : Nat, n < 10 ^ 5 → (Nat.toDigits 10 n).length ≤ Numeral.digitLimit := by
    intro n small
    have five : (Nat.toDigits 10 n).length ≤ 5 :=
      (Nat.length_toDigits_le_iff (by decide) (by decide)).mpr small
    exact five.trans (by decide)
  rw [immediate, (isOperandText_decimal value).isTrimmed.trim_eq]
  obtain ⟨n, rfl, text⟩ | ⟨n, rfl, text⟩ := decimal_cases value
  · have read := Numeral.parse_toString n (short n (by omega))
    have spelled : (toString n).toList = Nat.toDigits 10 n := Numeral.toList_toString_natCast n
    rw [spelled] at read
    have radix := radixOf_digits (Numeral.areDigits_toDigits n (show 1 < 10 by decide))
    rw [text, radix, read, mapError_ok]
  · rw [text]
    exact congrArg (Except.mapError _) (Numeral.parse_negative n (short n (by omega)))

theorem decimal_noRegister (value : Int) (x : Register) : ¬NamesRegister (decimal value) x := by
  intro named
  rw [NamesRegister, toList_registerText] at named
  obtain ⟨v, rest, split, capital, -⟩ := List.map_eq_cons_iff.mp named
  have none : ∀ d < 10, (Nat.digitChar d).toUpper ≠ 'V' := by decide
  have mem : v ∈ decimal value := by
    rw [split]
    exact List.mem_cons_self
  obtain rfl | ⟨d, small, rfl⟩ := mem_decimal mem
  · exact absurd capital (by decide)
  · exact none d small capital

theorem isIdentifier_decimal (value : Int) : isIdentifier (decimal value) = false := by
  have none : ∀ d < 10, identifierStarts.contains (Nat.digitChar d) = false := by decide
  obtain ⟨c, rest, split⟩ := List.exists_cons_of_ne_nil (decimal_ne_nil value)
  have mem : c ∈ decimal value := by
    rw [split]
    exact List.mem_cons_self
  have start : identifierStarts.contains c = false := by
    obtain rfl | ⟨d, small, rfl⟩ := mem_decimal mem
    · decide
    · exact none d small
  rw [split, isIdentifier, start, Bool.false_and]

/-- The number of a label in decimal may be written for the label. -/
theorem standsFor_decimal {labels : Labels} {name : List Char} {value : Int}
    (names : ∀ other v, labels.value? other = some v → isLabelName other = true)
    (known : labels.value? name = some value) : StandsFor labels name (decimal value) where
  old_noRegister := by
    have valid := names name value known
    rw [isLabelName, Bool.and_eq_true, Option.isNone_iff_eq_none] at valid
    exact register?_eq_none_iff.mp valid.2
  new_noRegister := decimal_noRegister value
  sameValue := by
    intro value' stands least greatest
    obtain rfl : value = value' := by
      rw [resolve, known] at stands
      exact Except.ok.inj stands
    -- A number is no name, so it is not looked up among the labels.
    refine resolve_of_immediate ?_ (immediate_decimal least greatest)
    rw [Option.eq_none_iff_forall_ne_some]
    intro v found
    have valid := names _ v found
    rw [isLabelName, isIdentifier_decimal, Bool.false_and] at valid
    cases valid

end ChipEight.Assembly
