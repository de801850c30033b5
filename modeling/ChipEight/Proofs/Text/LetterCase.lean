import ChipEight.Proofs.Alike
import ChipEight.Proofs.Assembly.Meaning
import ChipEight.Proofs.Text.Fields
import ChipEight.Text.Identifier

/-!
# Texts in another case

What cuts a text into parts cuts it at the same places when its capitals are made small, and a
numeral in small letters is the same number (`alike_parse_lowerAscii`).
-/

namespace ChipEight.Text

/-! ### Characters -/

/-- To regard a character is to regard a capital, or one that is its own small form. -/
theorem toLower_cases {p : Char → Prop} (capital : ∀ n < 26, p (Char.ofNat (65 + n)))
    (small : ∀ c, c.toLower = c → p c) (c : Char) : p c := by
  by_cases range : 65 ≤ c.toNat ∧ c.toNat ≤ 90
  · have own := capital (c.toNat - 65) (by omega)
    rwa [Nat.add_sub_cancel' range.1, Char.ofNat_toNat] at own
  · exact small c (by rw [← Char.toNat_inj, toNat_toLower, if_neg range])

/-- What is the same for each capital and its small form is the same for all characters. -/
theorem apply_toLower {α : Type} {f : Char → α}
    (capital : ∀ n < 26, f (Char.ofNat (65 + n)).toLower = f (Char.ofNat (65 + n))) (c : Char) :
    f c.toLower = f c :=
  toLower_cases (p := fun c => f c.toLower = f c) capital (fun _ own => congrArg f own) c

theorem toLower_toUpper (c : Char) : c.toUpper.toLower = c.toLower := by
  rw [← Char.toNat_inj, toNat_toLower, toNat_toLower, toNat_toUpper]
  grind

theorem toUpper_toLower (c : Char) : c.toLower.toUpper = c.toUpper := by
  rw [← Char.toNat_inj, toNat_toUpper, toNat_toUpper, toNat_toLower]
  grind

theorem toLower_toLower : ∀ c : Char, c.toLower.toLower = c.toLower := apply_toLower (by decide)

theorem isBlank_toLower : ∀ c, isBlank c.toLower = isBlank c := apply_toLower (by decide)

theorem identifierStarts_toLower :
    ∀ c, identifierStarts.contains c.toLower = identifierStarts.contains c :=
  apply_toLower (by decide +kernel)

theorem identifierParts_toLower :
    ∀ c, identifierParts.contains c.toLower = identifierParts.contains c :=
  apply_toLower (by decide +kernel)

def IsCaseless (c : Char) : Prop := c.toLower = c ∧ c.toUpper = c

instance (c : Char) : Decidable (IsCaseless c) :=
  inferInstanceAs (Decidable (c.toLower = c ∧ c.toUpper = c))

theorem IsCaseless.toLower_eq_iff {mark : Char} (caseless : IsCaseless mark) {c : Char} :
    c.toLower = mark ↔ c = mark := by
  constructor
  · intro small
    have capital : c.toUpper = mark := by rw [← toUpper_toLower, small, caseless.2]
    rw [← Char.toNat_inj, toNat_toLower] at small
    rw [← Char.toNat_inj, toNat_toUpper] at capital
    rw [← Char.toNat_inj]
    grind
  · rintro rfl
    exact caseless.1

/-! ### Parts of texts -/

section

variable (cs : List Char)

theorem lowerAscii_upperAscii : lowerAscii (upperAscii cs) = lowerAscii cs := by
  rw [lowerAscii, upperAscii, List.map_map]
  exact List.map_congr_left fun c _ => toLower_toUpper c

theorem upperAscii_lowerAscii : upperAscii (lowerAscii cs) = upperAscii cs := by
  rw [lowerAscii, upperAscii, List.map_map]
  exact List.map_congr_left fun c _ => toUpper_toLower c

theorem lowerAscii_lowerAscii : lowerAscii (lowerAscii cs) = lowerAscii cs := by
  rw [lowerAscii, lowerAscii, List.map_map]
  exact List.map_congr_left fun c _ => toLower_toLower c

variable {cs} in
theorem lowerAscii_eq_cons {mark : Char} (caseless : IsCaseless mark) {small : List Char} :
    lowerAscii cs = mark :: small ↔ ∃ rest, cs = mark :: rest ∧ lowerAscii rest = small := by
  rw [lowerAscii, List.map_eq_cons_iff]
  constructor
  · rintro ⟨c, rest, rfl, same, rfl⟩
    exact ⟨rest, by rw [caseless.toLower_eq_iff.mp same], rfl⟩
  · rintro ⟨rest, rfl, rfl⟩
    exact ⟨mark, rest, rfl, caseless.1, rfl⟩

theorem take_lowerAscii (n : Nat) : (lowerAscii cs).take n = lowerAscii (cs.take n) :=
  List.map_take.symm

theorem drop_lowerAscii (n : Nat) : (lowerAscii cs).drop n = lowerAscii (cs.drop n) :=
  List.map_drop.symm

variable {p : Char → Bool}

theorem takeWhile_lowerAscii (same : ∀ c, p c.toLower = p c) :
    (lowerAscii cs).takeWhile p = lowerAscii (cs.takeWhile p) := by
  rw [lowerAscii, List.takeWhile_map, show p ∘ Char.toLower = p from funext same, lowerAscii]

theorem dropWhile_lowerAscii (same : ∀ c, p c.toLower = p c) :
    (lowerAscii cs).dropWhile p = lowerAscii (cs.dropWhile p) := by
  rw [lowerAscii, List.dropWhile_map, show p ∘ Char.toLower = p from funext same, lowerAscii]

theorem trim_lowerAscii : trim (lowerAscii cs) = lowerAscii (trim cs) := by
  rw [trim, dropEnd, dropWhile_lowerAscii _ isBlank_toLower, lowerAscii, ← List.map_reverse,
    ← lowerAscii, dropWhile_lowerAscii _ isBlank_toLower, lowerAscii, ← List.map_reverse]
  rfl

theorem splitWord_lowerAscii : splitWord (lowerAscii cs) =
    (lowerAscii (splitWord cs).1, lowerAscii (splitWord cs).2) := by
  have solid : ∀ c : Char, (!isBlank c.toLower) = !isBlank c :=
    fun c => congrArg _ (isBlank_toLower c)
  rw [splitWord, takeWhile_lowerAscii _ solid, dropWhile_lowerAscii _ solid,
    dropWhile_lowerAscii _ isBlank_toLower]
  rfl

theorem splitOn_lowerAscii {separator : Char} (caseless : IsCaseless separator) :
    (lowerAscii cs).splitOn separator = (cs.splitOn separator).map lowerAscii := by
  induction cs with
  | nil => rfl
  | cons c cs ih =>
    have ends : (c.toLower == separator) = (c == separator) :=
      Bool.eq_iff_iff.mpr (by rw [beq_iff_eq, beq_iff_eq, caseless.toLower_eq_iff])
    rw [lowerAscii, List.map_cons, ← lowerAscii, List.splitOn_cons_eq_if_modifyHead,
      List.splitOn_cons_eq_if_modifyHead, ih, ends]
    split
    · rfl
    · obtain ⟨first, rest, cut⟩ := List.exists_cons_of_ne_nil (List.splitOn_ne_nil separator cs)
      rw [cut]
      rfl

theorem commaFields_lowerAscii : commaFields (lowerAscii cs) = (commaFields cs).map lowerAscii := by
  have trims : trim ∘ lowerAscii = lowerAscii ∘ trim := funext trim_lowerAscii
  have empties : (fun f => !f.isEmpty) ∘ lowerAscii = fun f : List Char => !f.isEmpty :=
    funext fun f => by rw [Function.comp_apply, lowerAscii, List.isEmpty_map]
  rw [commaFields, splitOn_lowerAscii _ (by decide), List.map_map, trims, ← List.map_map,
    List.filter_map, empties]
  rfl

theorem isIdentifier_lowerAscii : isIdentifier (lowerAscii cs) = isIdentifier cs := by
  cases cs with
  | nil => rfl
  | cons c cs =>
    show (identifierStarts.contains c.toLower && (lowerAscii cs).all identifierParts.contains) = _
    rw [identifierStarts_toLower, lowerAscii, List.all_map,
      show identifierParts.contains ∘ Char.toLower = identifierParts.contains from
        funext identifierParts_toLower]
    rfl

end

/-! ### Numerals -/

namespace Numeral

theorem digitValue?_toLower : ∀ c : Char, digitValue? c.toLower = digitValue? c :=
  apply_toLower (by decide)

theorem isSpace_toLower : ∀ c : Char, isSpace c.toLower = isSpace c := apply_toLower (by decide)

theorem prefixBase?_toLower : ∀ c : Char, prefixBase? c.toLower = prefixBase? c :=
  apply_toLower (by decide)

theorem prefixBase?_eq_sixteen {c : Char} (found : prefixBase? c = some 16) :
    c = 'x' ∨ c = 'X' := by
  unfold prefixBase? at found
  split at found
  · rename_i letter
    simpa using letter
  split at found
  · cases found
  split at found
  · cases found
  · cases found

theorem toLower_digitChar (d : Nat) : (Nat.digitChar d).toLower = Nat.digitChar d := by
  fun_cases Nat.digitChar d <;> rfl

theorem asciiForm_toLower : ∀ c : Char, asciiForm c.toLower = (asciiForm c).toLower := by
  refine toLower_cases (by decide) fun c own => ?_
  rw [own]
  unfold asciiForm
  split
  · exact own.symm
  split
  · rfl
  split
  · exact (toLower_digitChar _).symm
  · rfl

variable (cs : List Char)

theorem splitSign_lowerAscii :
    splitSign (lowerAscii cs) = ((splitSign cs).1, lowerAscii (splitSign cs).2) := by
  fun_cases splitSign cs with
  | case1 | case2 => rfl
  | case3 cs noMinus noPlus =>
    unfold splitSign
    split
    · rename_i same
      obtain ⟨rest, rfl, -⟩ := (lowerAscii_eq_cons (by decide)).mp same
      exact (noMinus rest rfl).elim
    · rename_i same
      obtain ⟨rest, rfl, -⟩ := (lowerAscii_eq_cons (by decide)).mp same
      exact (noPlus rest rfl).elim
    · rfl

theorem dropUnderscore_lowerAscii :
    dropUnderscore (lowerAscii cs) = lowerAscii (dropUnderscore cs) := by
  fun_cases dropUnderscore cs with
  | case1 => rfl
  | case2 cs other =>
    unfold dropUnderscore
    split
    · rename_i same
      obtain ⟨rest, rfl, -⟩ := (lowerAscii_eq_cons (by decide)).mp same
      exact (other rest rfl).elim
    · rfl

def Head.lower (head : Head) : Head := { head with rest := lowerAscii head.rest }

theorem splitPrefix_of_head? (radix : Radix) (other : cs.head? ≠ some '0') :
    splitPrefix radix cs = ⟨if radix = .sixteen then 16 else 10, false, cs⟩ := by
  fun_cases splitPrefix radix cs with
  | case1 | case4 | case8 => rfl
  | case2 | case3 | case5 | case6 | case7 => exact absurd rfl other

theorem splitPrefix_lowerAscii (radix : Radix) :
    splitPrefix radix (lowerAscii cs) = (splitPrefix radix cs).lower := by
  by_cases zero : cs.head? = some '0'
  · obtain ⟨rest, rfl⟩ := List.head?_eq_some_iff.mp zero
    cases rest with
    | nil => cases radix <;> rfl
    | cons c rest =>
      have digits : ∀ base, (⟨base, false, dropUnderscore (lowerAscii rest)⟩ : Head) =
          Head.lower ⟨base, false, dropUnderscore rest⟩ := by
        intro base
        rw [dropUnderscore_lowerAscii]
        rfl
      cases radix with
      | ten => rfl
      | sixteen =>
        show splitPrefix .sixteen ('0' :: c.toLower :: lowerAscii rest) = _
        rw [splitPrefix, splitPrefix, prefixBase?_toLower]
        split
        · exact digits 16
        · rfl
      | byPrefix =>
        show splitPrefix .byPrefix ('0' :: c.toLower :: lowerAscii rest) = _
        rw [splitPrefix, splitPrefix, prefixBase?_toLower]
        cases prefixBase? c with
        | some base => exact digits base
        | none => rfl
  · have other : (lowerAscii cs).head? ≠ some '0' := by
      intro same
      obtain ⟨small, same⟩ := List.head?_eq_some_iff.mp same
      obtain ⟨rest, rfl, -⟩ := (lowerAscii_eq_cons (by decide)).mp same
      exact zero rfl
    rw [splitPrefix_of_head? _ _ zero, splitPrefix_of_head? _ _ other]
    rfl

theorem underscoresSeparate_lowerAscii (afterDigit : Bool) :
    underscoresSeparate afterDigit (lowerAscii cs) = underscoresSeparate afterDigit cs := by
  fun_induction underscoresSeparate afterDigit cs with
  | case1 | case2 => rfl
  | case3 afterDigit cs more ih =>
    cases cs with
    | nil => exact (more rfl).elim
    | cons c cs => exact congrArg (afterDigit && ·) ih
  | case4 afterDigit c cs _ other ih =>
    have solid : c.toLower ≠ '_' := fun same =>
      other (IsCaseless.toLower_eq_iff (by decide) |>.mp same)
    rw [lowerAscii, List.map_cons, underscoresSeparate]
    · exact ih
    · simp [solid]
    · simp [solid]

theorem value_lowerAscii (base : Nat) : value base (lowerAscii cs) = value base cs := by
  rw [value, value, lowerAscii, List.foldl_map]
  simp only [digitValue?_toLower]

/-- Digits in small letters make the same number, or none as well. -/
theorem alike_parseDigits_lower (malformed malformed' : Error) (base : Nat) (zeroOnly : Bool) :
    Alike (fun _ _ => True) Eq (parseDigits malformed ⟨base, zeroOnly, cs⟩)
      (parseDigits malformed' ⟨base, zeroOnly, lowerAscii cs⟩) := by
  have underscore (c : Char) : (c.toLower = '_') = (c = '_') :=
    propext (IsCaseless.toLower_eq_iff (by decide))
  have part (c : Char) :
      (isDigit base c.toLower || c.toLower = '_') = (isDigit base c || c = '_') := by
    simp only [isDigit, digitValue?_toLower, underscore]
  have digits (cs : List Char) :
      (lowerAscii cs).filter (· ≠ '_') = lowerAscii (cs.filter (· ≠ '_')) := by
    simp only [lowerAscii, List.filter_map, Function.comp_def, ne_eq, underscore]
  have behind (cs : List Char) : (lowerAscii cs).all isSpace = cs.all isSpace := by
    rw [lowerAscii, List.all_map, show isSpace ∘ Char.toLower = isSpace from funext isSpace_toLower]
  have length (cs : List Char) : (lowerAscii cs).length = cs.length := List.length_map _
  have empty (cs : List Char) : (lowerAscii cs).isEmpty = cs.isEmpty := List.isEmpty_map
  unfold parseDigits
  dsimp only
  rw [takeWhile_lowerAscii cs part, dropWhile_lowerAscii cs part, digits, behind,
    underscoresSeparate_lowerAscii, length, empty, value_lowerAscii]
  split
  · exact .error trivial
  split
  · exact .error trivial
  split
  · exact .error trivial
  split
  · exact .error trivial
  split
  · exact .ok rfl
  · exact .error trivial

theorem alike_parse_lowerAscii (radix : Radix) :
    Alike (fun _ _ => True) Eq (parse radix cs) (parse radix (lowerAscii cs)) := by
  have forms : (lowerAscii cs).map asciiForm = lowerAscii (cs.map asciiForm) := by
    rw [lowerAscii, lowerAscii, List.map_map, List.map_map]
    exact List.map_congr_left fun c _ => asciiForm_toLower c
  rw [parse, parse, forms, dropWhile_lowerAscii _ isSpace_toLower, splitSign_lowerAscii]
  dsimp only
  rw [splitPrefix_lowerAscii]
  exact (alike_parseDigits_lower _ _ _ _ _).map fun n n' same => by rw [same]

end Numeral

end ChipEight.Text
