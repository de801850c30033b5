import ChipEight.Proofs.Assembly.Emission
import ChipEight.Proofs.Assembly.Line

/-!
# Writing over an operand

Every operand of a statement stands somewhere in its line, between what is before and after it.
With another operand written there the line makes the same statement but for that operand.
-/

namespace ChipEight.Assembly

open Text

namespace Statement

def operands : Statement → List (List Char)
  | origin _ => []
  | bytes operands | words operands | instruction _ operands => operands

/-- The statement with another operand in place `k`. -/
def setOperand (k : Nat) (new : List Char) : Statement → Statement
  | origin operand => origin operand
  | bytes operands => bytes (operands.set k new)
  | words operands => words (operands.set k new)
  | instruction m operands => instruction m (operands.set k new)

end Statement

/-- A text that can be an operand: not empty, and without blanks, commas, semicolons and colons. -/
structure IsOperandText (cs : List Char) : Prop where
  nonempty : cs ≠ []
  solid : ∀ c ∈ cs, isBlank c = false ∧ c ≠ ',' ∧ c ≠ ';' ∧ c ≠ ':'

namespace IsOperandText

variable {cs : List Char}

theorem isTrimmed (h : IsOperandText cs) : IsTrimmed cs where
  first := ⟨_, List.head?_eq_some_head h.nonempty, (h.solid _ (List.head_mem _)).1⟩
  last := ⟨_, List.getLast?_eq_some_getLast h.nonempty, (h.solid _ (List.getLast_mem _)).1⟩

theorem comma_notMem (h : IsOperandText cs) : ',' ∉ cs := fun mem => (h.solid _ mem).2.1 rfl

theorem semicolon_notMem (h : IsOperandText cs) : ';' ∉ cs := fun mem => (h.solid _ mem).2.2.1 rfl

theorem colon_notMem (h : IsOperandText cs) : ':' ∉ cs := fun mem => (h.solid _ mem).2.2.2 rfl

end IsOperandText

/-! ### The content of a line -/

theorem ne_semicolon_of_isBlank {c : Char} (blank : isBlank c = true) : c ≠ ';' := by
  rintro rfl
  exact absurd blank (by decide)

theorem semicolon_notMem_content (raw : List Char) : ';' ∉ content raw := by
  intro mem
  obtain ⟨before, after, split, -⟩ := exists_trim (raw.takeWhile (· ≠ ';'))
  have inside : ';' ∈ raw.takeWhile (· ≠ ';') := by
    rw [split]
    exact List.mem_append_right _ (List.mem_append_left _ mem)
  exact absurd (List.mem_takeWhile_imp inside) (by decide)

theorem content_padded {before text blanks comment : List Char}
    (lead : ∀ c ∈ before, isBlank c = true) (trimmed : IsTrimmed text) (single : ';' ∉ text)
    (tail : ∀ c ∈ blanks, isBlank c = true) (stop : comment.takeWhile (· ≠ ';') = []) :
    content (before ++ (text ++ (blanks ++ comment))) = text := by
  have noComment : ∀ c ∈ before ++ (text ++ blanks), decide (c ≠ ';') = true := by
    intro c mem
    refine decide_eq_true ?_
    simp only [List.mem_append] at mem
    rcases mem with mem | mem | mem
    · exact ne_semicolon_of_isBlank (lead c mem)
    · rintro rfl
      exact single mem
    · exact ne_semicolon_of_isBlank (tail c mem)
  rw [content, ← List.append_assoc text, ← List.append_assoc before,
    List.takeWhile_append_of_pos noComment, stop, List.append_nil, trimmed.trim_padded lead tail]

/-- The content of a line stands somewhere in it, and any other content can be written there. -/
theorem exists_overwrite_content (raw : List Char) :
    ∃ before after, raw = before ++ (content raw ++ after) ∧
      ∀ new, IsTrimmed new → ';' ∉ new → content (before ++ (new ++ after)) = new := by
  obtain ⟨before, blanks, split, lead, tail⟩ := exists_trim (raw.takeWhile (· ≠ ';'))
  refine ⟨before, blanks ++ raw.dropWhile (· ≠ ';'), ?_, fun new trimmed single => ?_⟩
  · have whole : raw = raw.takeWhile (· ≠ ';') ++ raw.dropWhile (· ≠ ';') :=
      List.takeWhile_append_dropWhile.symm
    rw [split] at whole
    simpa [content] using whole
  · refine content_padded lead trimmed single tail ?_
    cases comment : raw.dropWhile (· ≠ ';') with
    | nil => rfl
    | cons c rest =>
      have stop := head_dropWhile (· ≠ ';') raw (a := c) (by rw [comment]; rfl)
      rw [List.takeWhile_cons_of_neg (by simp [stop])]

/-! ### Statements -/

theorem afterDirective?_eq_some_iff {directive : String} {text rest : List Char} :
    afterDirective? directive text = some rest ↔
      ∃ lead, text = lead ++ rest ∧ lowerAscii lead = directive.toList := by
  unfold afterDirective?
  dsimp only
  constructor
  · intro found
    split at found
    · rename_i same
      obtain rfl := Option.some.inj found
      exact ⟨_, (List.take_append_drop _ _).symm, same⟩
    · cases found
  · rintro ⟨lead, rfl, same⟩
    have length : lead.length = directive.length := by
      rw [← String.length_toList, ← same, lowerAscii, List.length_map]
    rw [← length, List.take_left, List.drop_left, if_pos same]

/-- Which directive a text begins with can be told from its third character. -/
theorem third_of_afterDirective? {directive : String} {text rest : List Char}
    (long : 2 < directive.toList.length) (found : afterDirective? directive text = some rest) :
    text[2]?.map Char.toLower = directive.toList[2]? := by
  obtain ⟨lead, rfl, same⟩ := afterDirective?_eq_some_iff.mp found
  have length : 2 < lead.length := by
    rw [← same, lowerAscii, List.length_map] at long
    exact long
  rw [List.getElem?_append_left length, ← same, lowerAscii, List.getElem?_map]

theorem afterDirective?_eq_none (other : String) {directive : String} {text rest : List Char}
    (long : 2 < directive.toList.length ∧ 2 < other.toList.length)
    (differ : directive.toList[2]? ≠ other.toList[2]?)
    (found : afterDirective? directive text = some rest) : afterDirective? other text = none := by
  rw [Option.eq_none_iff_forall_ne_some]
  intro rest' found'
  exact differ ((third_of_afterDirective? long.1 found).symm.trans
    (third_of_afterDirective? long.2 found'))

theorem exists_overwrite_directive {directive : String} {k : Nat} {text args old : List Char}
    (found : afterDirective? directive text = some args)
    (there : (commaFields args)[k]? = some old) :
    ∃ before after, text = before ++ (old ++ after) ∧ ∀ new, IsOperandText new →
      ∃ args', afterDirective? directive (before ++ (new ++ after)) = some args' ∧
        commaFields args' = (commaFields args).set k new := by
  obtain ⟨lead, rfl, same⟩ := afterDirective?_eq_some_iff.mp found
  obtain ⟨before, after, rfl, overwrite⟩ := exists_overwrite_field there
  refine ⟨lead ++ before, after, by simp, fun new text => ?_⟩
  exact ⟨before ++ (new ++ after),
    afterDirective?_eq_some_iff.mpr ⟨lead, by simp, same⟩,
    overwrite new text.isTrimmed text.comma_notMem⟩

/-- No mnemonic begins with a point. -/
theorem exists_head_of_ofWord? {word : List Char} {m : Mnemonic}
    (found : Mnemonic.ofWord? word = some m) : ∃ a, word.head? = some a ∧ a ≠ '.' := by
  have begins : ∃ c, m.name.toList.head? = some c ∧ c ≠ '.' := by
    cases m <;> exact ⟨_, rfl, by decide⟩
  obtain ⟨c, first, noPoint⟩ := begins
  rw [toList_name_of_ofWord? found, upperAscii, List.head?_map, Option.map_eq_some_iff] at first
  obtain ⟨a, first, rfl⟩ := first
  refine ⟨a, first, ?_⟩
  rintro rfl
  exact noPoint (by decide)

theorem exists_overwrite_instruction {k : Nat} {text old word args : List Char} {m : Mnemonic}
    (cut : splitWord text = (word, args)) (found : Mnemonic.ofWord? word = some m)
    (there : (commaFields args)[k]? = some old) :
    ∃ before after, text = before ++ (old ++ after) ∧ ∀ new, IsOperandText new →
      Statement.ofText (before ++ (new ++ after)) =
        .ok (.instruction m ((commaFields args).set k new)) := by
  obtain ⟨gap, split, solid, blank, separated, begins⟩ := exists_splitWord text
  rw [cut] at split solid separated begins
  obtain ⟨before, after, rfl, overwrite⟩ := exists_overwrite_field there
  have more : before ++ (old ++ after) ≠ [] := by
    intro none
    rw [none] at there
    cases there
  refine ⟨word ++ (gap ++ before), after, by simp [split], fun new operand => ?_⟩
  -- The line still begins with its mnemonic, so none of the directives is read in it.
  obtain ⟨a, first, noPoint⟩ := exists_head_of_ofWord? found
  have plain : ∀ (directive : String) {letters : List Char}, directive.toList = '.' :: letters →
      afterDirective? directive (word ++ (gap ++ (before ++ (new ++ after)))) = none :=
    fun _ _ => afterDirective?_of_head (by simp [first]) noPoint
  have begins' : ∀ c, (before ++ (new ++ after)).head? = some c → isBlank c = false := by
    intro c head
    cases before with
    | nil =>
      obtain ⟨b, rest, rfl⟩ := List.exists_cons_of_ne_nil operand.nonempty
      obtain rfl := Option.some.inj head
      exact (operand.solid b List.mem_cons_self).1
    | cons b rest => exact begins c head
  have cut' := splitWord_padded solid blank (separated more) begins'
  have assoc : word ++ (gap ++ before) ++ (new ++ after) =
      word ++ (gap ++ (before ++ (new ++ after))) := by simp
  simp only [assoc, Statement.ofText, plain ".org" rfl, plain ".db" rfl, plain ".dw" rfl,
    Statement.ofInstructionText, cut', found,
    overwrite new operand.isTrimmed operand.comma_notMem]

theorem exists_overwrite_statement {k : Nat} {text old : List Char} {statement : Statement}
    (made : Statement.ofText text = .ok statement) (there : statement.operands[k]? = some old) :
    ∃ before after, text = before ++ (old ++ after) ∧ ∀ new, IsOperandText new →
      Statement.ofText (before ++ (new ++ after)) = .ok (statement.setOperand k new) := by
  unfold Statement.ofText at made
  split at made
  · cases made
    cases there
  · rename_i noOrigin found
    cases made
    obtain ⟨before, after, split, overwrite⟩ := exists_overwrite_directive found there
    refine ⟨before, after, split, fun new operand => ?_⟩
    obtain ⟨args', found', fields⟩ := overwrite new operand
    have org := afterDirective?_eq_none ".org" (by decide) (by decide) found'
    simp only [Statement.ofText, org, found', fields, Statement.setOperand]
  · rename_i noOrigin noBytes found
    cases made
    obtain ⟨before, after, split, overwrite⟩ := exists_overwrite_directive found there
    refine ⟨before, after, split, fun new operand => ?_⟩
    obtain ⟨args', found', fields⟩ := overwrite new operand
    have org := afterDirective?_eq_none ".org" (by decide) (by decide) found'
    have db := afterDirective?_eq_none ".db" (by decide) (by decide) found'
    simp only [Statement.ofText, org, db, found', fields, Statement.setOperand]
  · unfold Statement.ofInstructionText at made
    cases cut : splitWord text with
    | mk word args =>
      simp only [cut] at made
      split at made
      · rename_i m found
        cases made
        exact exists_overwrite_instruction cut found there
      · cases made

theorem ne_nil_of_ofText {text : List Char} {statement : Statement}
    (made : Statement.ofText text = .ok statement) : text ≠ [] := by
  rintro rfl
  cases made

theorem labelName?_eq_none_iff {text : List Char} :
    labelName? text = none ↔ text.getLast? ≠ some ':' := by
  unfold labelName?
  split <;> simp_all

/-- The operands of a statement stand in its line, and others can be written in their places. -/
theorem exists_overwrite_operand {k : Nat} {raw old : List Char} {statement : Statement}
    (unnamed : labelName? (content raw) = none)
    (made : Statement.ofText (content raw) = .ok statement)
    (there : statement.operands[k]? = some old) :
    ∃ before after, raw = before ++ (old ++ after) ∧ ∀ new, IsOperandText new →
      labelName? (content (before ++ (new ++ after))) = none ∧
        Statement.ofText (content (before ++ (new ++ after))) =
          .ok (statement.setOperand k new) := by
  obtain ⟨lead, tail, around, fill⟩ := exists_overwrite_content raw
  obtain ⟨before, after, inside, overwrite⟩ := exists_overwrite_statement made there
  have trimmed : IsTrimmed (content raw) := isTrimmed_trim (ne_nil_of_ofText made)
  have single := semicolon_notMem_content raw
  rw [inside] at trimmed single unnamed around
  refine ⟨lead ++ before, after ++ tail, by simpa using around, fun new operand => ?_⟩
  have filled : content (lead ++ before ++ (new ++ (after ++ tail))) =
      before ++ (new ++ after) := by
    have noSemicolon := operand.semicolon_notMem
    rw [← fill (before ++ (new ++ after)) (trimmed.overwrite operand.isTrimmed)
      (by simp_all)]
    simp
  rw [filled]
  refine ⟨?_, overwrite new operand⟩
  rw [labelName?_eq_none_iff] at unnamed ⊢
  -- A colon at the end would be the last character of `new` or have been there before.
  intro colon
  cases after with
  | nil =>
    have last : new.getLast? = some ':' := by
      rw [List.append_nil, List.getLast?_append_of_ne_nil _ operand.nonempty] at colon
      exact colon
    exact operand.colon_notMem (List.mem_of_getLast? last)
  | cons c rest => exact unnamed (by simpa using colon)

end ChipEight.Assembly
