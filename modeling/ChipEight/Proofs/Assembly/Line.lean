import ChipEight.Assembly.Layout
import ChipEight.Proofs.Assembly.Operand

/-!
# The line of an instruction

A line of words between blanks and commas is no label and no directive, and neither comment nor
trimming takes anything from it. So the line of an instruction is read as a statement of its
mnemonic and its operands.
-/

namespace ChipEight.Assembly

open Text

/-! ### Lines -/

/-- A line that begins and ends with a letter or digit and has only those, blanks and commas. -/
structure IsPlainLine (cs : List Char) : Prop where
  first : ∃ a, cs.head? = some a ∧ a.isAlphanum = true
  last : ∃ z, cs.getLast? = some z ∧ z.isAlphanum = true
  all : ∀ c ∈ cs, c.isAlphanum = true ∨ c = ' ' ∨ c = ','

theorem isPlainLine_of_isWord {cs : List Char} (h : IsWord cs) : IsPlainLine cs where
  first := ⟨_, List.head?_eq_some_head h.nonempty, h.alphanumeric _ (List.head_mem _)⟩
  last := ⟨_, List.getLast?_eq_some_getLast h.nonempty, h.alphanumeric _ (List.getLast_mem _)⟩
  all c hc := .inl (h.alphanumeric c hc)

theorem IsPlainLine.append {front rest : List Char} (gap : List Char) (hf : IsPlainLine front)
    (hr : IsPlainLine rest) (hg : ∀ c ∈ gap, c = ' ' ∨ c = ',') :
    IsPlainLine (front ++ (gap ++ rest)) := by
  obtain ⟨a, first, ha⟩ := hf.first
  obtain ⟨z, last, hz⟩ := hr.last
  refine ⟨⟨a, by simp [first], ha⟩, ⟨z, by simp [last], hz⟩, fun c hc => ?_⟩
  rcases List.mem_append.mp hc with hc | hc
  · exact hf.all c hc
  · rcases List.mem_append.mp hc with hc | hc
    · exact .inr (hg c hc)
    · exact hr.all c hc

theorem isPlainLine_intercalate {w : List Char} {ws : List (List Char)}
    (h : ∀ v ∈ w :: ws, IsWord v) : IsPlainLine ([',', ' '].intercalate (w :: ws)) := by
  induction ws generalizing w with
  | nil => simpa using isPlainLine_of_isWord (h w List.mem_cons_self)
  | cons v ws ih =>
    rw [List.intercalate_cons_cons, List.append_assoc]
    exact (isPlainLine_of_isWord (h w List.mem_cons_self)).append _
      (ih fun u hu => h u (List.mem_cons_of_mem _ hu)) (by simp)

theorem toLower_ne_point {a : Char} (h : a ≠ '.') : a.toLower ≠ '.' := by
  intro same
  unfold Char.toLower at same
  split at same
  · rename_i upper
    have moved := congrArg (fun c => c.val.toNat) same
    simp only [ge_iff_le, UInt32.le_iff_toNat_le, Char.reduceVal, UInt32.reduceToNat,
      UInt32.reduceSub, UInt32.toNat_add] at moved upper
    omega
  · exact h same

theorem afterDirective?_of_head {directive : String} {letters cs : List Char} {a : Char}
    (first : cs.head? = some a) (noPoint : a ≠ '.') (point : directive.toList = '.' :: letters) :
    afterDirective? directive cs = none := by
  obtain ⟨rest, rfl⟩ := List.head?_eq_some_iff.mp first
  have length : directive.length = letters.length + 1 := by
    rw [← String.length_toList, point, List.length_cons]
  rw [afterDirective?, if_neg]
  rw [length, point, lowerAscii, List.take_succ_cons, List.map_cons]
  intro same
  exact toLower_ne_point noPoint (List.cons.inj same).1

namespace IsPlainLine

variable {cs : List Char}

theorem notMem {c : Char} (h : IsPlainLine cs) (hc : c.isAlphanum = false) (blank : c ≠ ' ')
    (comma : c ≠ ',') : c ∉ cs := by
  intro mem
  rcases h.all c mem with same | same | same
  · simp [same] at hc
  · exact blank same
  · exact comma same

theorem trim_eq (h : IsPlainLine cs) : trim cs = cs := by
  obtain ⟨a, first, ha⟩ := h.first
  obtain ⟨z, last, hz⟩ := h.last
  exact trim_of_ends first last (isBlank_of_isAlphanum ha) (isBlank_of_isAlphanum hz)

theorem content_eq (h : IsPlainLine cs) : content cs = cs := by
  have noComment : ∀ c ∈ cs, decide (c ≠ ';') = true := fun c hc =>
    decide_eq_true fun same => h.notMem (by decide) (by decide) (by decide) (same ▸ hc)
  rw [content, List.takeWhile_eq_self_iff.mpr noComment, h.trim_eq]

theorem labelName?_eq (h : IsPlainLine cs) : labelName? cs = none := by
  obtain ⟨z, last, hz⟩ := h.last
  rw [labelName?, if_neg]
  intro colon
  rw [last, Option.some.injEq] at colon
  subst colon
  exact absurd hz (by decide)

/-- A directive begins with a point, and no plain line does. -/
theorem afterDirective?_eq {directive : String} {letters : List Char} (h : IsPlainLine cs)
    (point : directive.toList = '.' :: letters) : afterDirective? directive cs = none := by
  obtain ⟨a, first, ha⟩ := h.first
  refine afterDirective?_of_head first ?_ point
  rintro rfl
  exact absurd ha (by decide)

end IsPlainLine

/-! ### The line of an instruction -/

theorem toList_text (i : Instruction) : i.text.toList = i.op.mnemonic.toList ++
    (match i.operandTexts.map String.toList with
    | [] => []
    | w :: ws => ' ' :: [',', ' '].intercalate (w :: ws)) := by
  unfold Instruction.text
  cases i.operandTexts with
  | nil => simp
  | cons t ts => simp

theorem isWord_of_mem_operands (i : Instruction) :
    ∀ w ∈ i.operandTexts.map String.toList, IsWord w := by
  intro w hw
  obtain ⟨t, ht, rfl⟩ := List.mem_map.mp hw
  exact isWord_operandTexts i t ht

theorem isPlainLine_text (i : Instruction) : IsPlainLine i.text.toList := by
  have words := isWord_of_mem_operands i
  have word := isPlainLine_of_isWord (isWord_mnemonic i.op)
  rw [toList_text]
  cases hw : i.operandTexts.map String.toList with
  | nil => simpa using word
  | cons w ws =>
    rw [hw] at words
    exact word.append [' '] (isPlainLine_intercalate words) (by simp)

theorem splitWord_text (i : Instruction) : splitWord i.text.toList =
    (i.op.mnemonic.toList, [',', ' '].intercalate (i.operandTexts.map String.toList)) := by
  have words := isWord_of_mem_operands i
  rw [toList_text]
  cases hw : i.operandTexts.map String.toList with
  | nil => simpa using splitWord_word (isWord_mnemonic i.op)
  | cons w ws =>
    rw [hw] at words
    obtain ⟨a, first, ha⟩ := (isPlainLine_intercalate words).first
    exact splitWord_blank (isWord_mnemonic i.op) first (isBlank_of_isAlphanum ha)

/-- The line of an instruction is the statement of its mnemonic and its operands. -/
theorem ofText_text (i : Instruction) : Statement.ofText i.text.toList =
    .ok (.instruction i.op.keyword (i.operandTexts.map String.toList)) := by
  have plain := isPlainLine_text i
  have org : afterDirective? ".org" i.text.toList = none := plain.afterDirective?_eq rfl
  have db : afterDirective? ".db" i.text.toList = none := plain.afterDirective?_eq rfl
  have dw : afterDirective? ".dw" i.text.toList = none := plain.afterDirective?_eq rfl
  simp only [Statement.ofText, org, db, dw, Statement.ofInstructionText, splitWord_text,
    ← Op.name_keyword, Mnemonic.ofWord?_name, commaFields_intercalate (isWord_of_mem_operands i)]

end ChipEight.Assembly
