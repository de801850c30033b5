import ChipEight.Proofs.Assembly.Concatenation
import ChipEight.Proofs.Assembly.Encoding
import ChipEight.Proofs.Assembly.Lockstep
import ChipEight.Proofs.Text.LetterCase

/-!
# Sources in another case

Only the names of labels tell capitals from small letters. A source without labels assembles to the
same image in capitals and in small letters, or is rejected at the same line.
-/

namespace ChipEight.Assembly

open Text

/-! ### Lines -/

def SourceLine.lower (line : SourceLine) : SourceLine := ⟨line.number, lowerAscii line.text⟩

theorem content_lowerAscii (line : List Char) :
    content (lowerAscii line) = lowerAscii (content line) := by
  have comment (c : Char) : decide (c.toLower ≠ ';') = decide (c ≠ ';') :=
    decide_eq_decide.mpr (not_congr (IsCaseless.toLower_eq_iff (by decide)))
  rw [content, takeWhile_lowerAscii _ comment, trim_lowerAscii]
  rfl

theorem numberedLines_lowerAscii (first : Nat) (lines : List (List Char)) :
    numberedLines first (lines.map lowerAscii) =
      (numberedLines first lines).map SourceLine.lower := by
  induction lines generalizing first with
  | nil => rfl
  | cons line lines ih =>
    have empty : (lowerAscii (content line)).isEmpty = (content line).isEmpty := List.isEmpty_map
    rw [List.map_cons, numberedLines_cons, numberedLines_cons first line, ih, List.map_append,
      numberedLines_singleton, numberedLines_singleton, content_lowerAscii, empty]
    split <;> rfl

theorem sourceLines_lowerAscii (source : List Char) :
    sourceLines (lowerAscii source) = (sourceLines source).map SourceLine.lower := by
  rw [sourceLines, splitOn_lowerAscii source (by decide), numberedLines_lowerAscii, sourceLines]

theorem labelName?_lowerAscii (text : List Char) :
    labelName? (lowerAscii text) = (labelName? text).map lowerAscii := by
  have last : (lowerAscii text).getLast? = some ':' ↔ text.getLast? = some ':' := by
    rw [lowerAscii, List.getLast?_map, Option.map_eq_some_iff]
    constructor
    · rintro ⟨c, same, colon⟩
      rw [same, (IsCaseless.toLower_eq_iff (by decide)).mp colon]
    · intro same
      exact ⟨':', same, rfl⟩
  simp only [labelName?, last]
  split
  · rw [Option.map_some, ← trim_lowerAscii, lowerAscii, lowerAscii, List.map_dropLast]
  · rfl

theorem register?_lowerAscii (operand : List Char) :
    register? (lowerAscii operand) = register? operand := by
  ext x
  rw [register?_eq_some_iff, register?_eq_some_iff, NamesRegister, NamesRegister,
    upperAscii_lowerAscii]

theorem isLabelName_lowerAscii (name : List Char) :
    isLabelName (lowerAscii name) = isLabelName name := by
  rw [isLabelName, isIdentifier_lowerAscii, register?_lowerAscii, isLabelName]

/-! ### Operands -/

theorem radixOf_lowerAscii (operand : List Char) :
    radixOf (lowerAscii operand) = radixOf operand := by
  fun_cases radixOf operand with
  | case1 | case2 | case3 => rfl
  | case4 operand noSmall noCapital noMinus =>
    have noPrefix (x : Char) (small : List Char) (found : Numeral.prefixBase? x = some 16) :
        lowerAscii operand ≠ '0' :: x :: small := by
      intro same
      obtain ⟨rest, rfl, more⟩ := (lowerAscii_eq_cons (by decide)).mp same
      obtain ⟨c, rest, rfl, rfl, -⟩ := List.map_eq_cons_iff.mp more
      rw [Numeral.prefixBase?_toLower] at found
      rcases Numeral.prefixBase?_eq_sixteen found with rfl | rfl
      · exact noSmall rest rfl
      · exact noCapital rest rfl
    unfold radixOf
    split
    · rename_i same
      exact absurd same (noPrefix _ _ (by decide))
    · rename_i same
      exact absurd same (noPrefix _ _ (by decide))
    · rename_i same
      obtain ⟨rest, rfl, -⟩ := (lowerAscii_eq_cons (by decide)).mp same
      exact (noMinus rest rfl).elim
    · rfl

theorem alike_immediate (operand : List Char) :
    Alike (fun _ _ => True) Eq (immediate operand) (immediate (lowerAscii operand)) := by
  rw [immediate, immediate, trim_lowerAscii, radixOf_lowerAscii]
  exact (Numeral.alike_parse_lowerAscii _ _).mapError fun _ _ _ => trivial

theorem resolve_lowerAscii {operand : List Char} {n : Int} :
    resolve #[] (lowerAscii operand) = .ok n ↔ resolve #[] operand = .ok n := by
  have unknown (name : List Char) : Labels.value? #[] name = none := rfl
  simp only [resolve, unknown, mapError_eq_ok]
  exact (alike_immediate operand).eq_ok_iff

theorem namesRegister_lowerAscii {operand : List Char} {x : Register} :
    NamesRegister (lowerAscii operand) x ↔ NamesRegister operand x := by
  rw [NamesRegister, upperAscii_lowerAscii, NamesRegister]

theorem byteOperand_lowerAscii {operand : List Char} {b : UInt8} :
    ByteOperand #[] (lowerAscii operand) b ↔ ByteOperand #[] operand b := by
  simp only [ByteOperand, resolve_lowerAscii]

theorem addressOperand_lowerAscii {operand : List Char} {target : Address} :
    AddressOperand #[] (lowerAscii operand) target ↔ AddressOperand #[] operand target :=
  resolve_lowerAscii

theorem heightOperand_lowerAscii {operand : List Char} {n : Nibble} :
    HeightOperand (lowerAscii operand) n ↔ HeightOperand operand n :=
  (alike_immediate operand).eq_ok_iff

theorem wordOperand_lowerAscii {operand : List Char} {w : UInt16} :
    WordOperand #[] (lowerAscii operand) w ↔ WordOperand #[] operand w :=
  resolve_lowerAscii

theorem writtenAs_lowerAscii {operands : List (List Char)} {i : Instruction} :
    WrittenAs #[] (operands.map lowerAscii) i ↔ WrittenAs #[] operands i := by
  cases i <;>
    simp [WrittenAs, List.map_eq_cons_iff, namesRegister_lowerAscii, byteOperand_lowerAscii,
      addressOperand_lowerAscii, heightOperand_lowerAscii, wordOperand_lowerAscii,
      upperAscii_lowerAscii]

/-- Operands in small letters make the same instruction, or none as well. -/
theorem alike_instruction (m : Mnemonic) (operands : List (List Char)) :
    Alike (fun _ _ => True) Eq (m.instruction #[] operands)
      (m.instruction #[] (operands.map lowerAscii)) := by
  refine .of_eq_ok_iff fun i => ⟨fun made => ?_, fun made => ?_⟩
  · obtain ⟨rfl, written⟩ := writtenAs_of_instruction made
    exact instruction_of_writtenAs (writtenAs_lowerAscii.mp written)
  · obtain ⟨rfl, written⟩ := writtenAs_of_instruction made
    exact instruction_of_writtenAs (writtenAs_lowerAscii.mpr written)

/-! ### Statements -/

theorem alike_mapM {α : Type} {read : List Char → Except Cause α}
    (each : ∀ a, Alike (fun _ _ => True) Eq (read a) (read (lowerAscii a)))
    (operands : List (List Char)) :
    Alike (fun _ _ => True) Eq (operands.mapM read) ((operands.map lowerAscii).mapM read) := by
  have paired : List.Forall₂ (fun a a' => a' = lowerAscii a) operands
      (operands.map lowerAscii) := by
    rw [List.forall₂_map_right_iff, List.forall₂_same]
    exact fun _ _ => rfl
  have alike : Alike (fun _ _ => True) (List.Forall₂ Eq) (operands.mapM read)
      ((operands.map lowerAscii).mapM read) := .mapM paired fun a a' same => same ▸ each a
  rwa [List.forall₂_eq_eq_eq] at alike

def Statement.lower : Statement → Statement
  | .origin operand => .origin (lowerAscii operand)
  | .bytes operands => .bytes (operands.map lowerAscii)
  | .words operands => .words (operands.map lowerAscii)
  | .instruction m operands => .instruction m (operands.map lowerAscii)

theorem afterDirective?_lowerAscii (directive : String) (text : List Char) :
    afterDirective? directive (lowerAscii text) =
      (afterDirective? directive text).map lowerAscii := by
  simp only [afterDirective?, take_lowerAscii, lowerAscii_lowerAscii, drop_lowerAscii]
  split <;> rfl

theorem ofWord?_lowerAscii (word : List Char) :
    Mnemonic.ofWord? (lowerAscii word) = Mnemonic.ofWord? word := by
  rw [Mnemonic.ofWord?, upperAscii_lowerAscii, Mnemonic.ofWord?]

theorem alike_ofText (text : List Char) :
    Alike (fun _ _ => True) (fun statement statement' => statement' = statement.lower)
      (Statement.ofText text) (Statement.ofText (lowerAscii text)) := by
  simp only [Statement.ofText, afterDirective?_lowerAscii]
  cases afterDirective? ".org" text with
  | some operand => exact .ok rfl
  | none =>
  cases afterDirective? ".db" text with
  | some operands => exact .ok (congrArg _ (commaFields_lowerAscii operands))
  | none =>
  cases afterDirective? ".dw" text with
  | some operands => exact .ok (congrArg _ (commaFields_lowerAscii operands))
  | none =>
    simp only [Option.map_none, Statement.ofInstructionText, splitWord_lowerAscii,
      ofWord?_lowerAscii]
    cases Mnemonic.ofWord? (splitWord text).1 with
    | some m => exact .ok (congrArg _ (commaFields_lowerAscii _))
    | none => exact .error trivial

theorem statementsAlike_lower (statement : Statement) :
    StatementsAlike (fun _ _ => True) (· = #[]) statement statement.lower where
  isOrigin := by cases statement <;> rfl
  size address := by
    cases statement with
    | origin operand =>
      refine (alike_immediate operand).bind fun target _ same => ?_
      subst same
      split
      · exact .error trivial
      · exact .ok rfl
    | bytes operands => exact .ok (List.length_map _).symm
    | words operands => exact .ok (congrArg (· * 2) (List.length_map _).symm)
    | instruction m operands => exact .ok rfl
  encode := by
    rintro _ rfl
    cases statement with
    | origin operand => exact .ok rfl
    | bytes operands =>
      refine alike_mapM (fun a => .of_eq_ok_iff fun b => ?_) operands
      rw [byte_eq_ok, byte_eq_ok, byteOperand_lowerAscii]
    | words operands =>
      refine (alike_mapM (fun a => .of_eq_ok_iff fun w => ?_) operands).map
        fun _ _ => congrArg _
      rw [word_eq_ok, word_eq_ok, wordOperand_lowerAscii]
    | instruction m operands =>
      exact (alike_instruction m operands).map fun i i' same => by rw [same]

/-! ### Sources -/

/-- Whether no line of the source defines a label, though one may try to with a name that no label
may have. -/
def HasNoLabels (source : List Char) : Prop :=
  ∀ name, Defines source name → isLabelName name = false

theorem HasNoLabels.of_same_letters {source source' : List Char} (unlabelled : HasNoLabels source)
    (same : lowerAscii source' = lowerAscii source) : HasNoLabels source' := by
  rintro name ⟨line, mem, named⟩
  have lowered : line.lower ∈ sourceLines (lowerAscii source) := by
    rw [← same, sourceLines_lowerAscii]
    exact List.mem_map_of_mem mem
  rw [sourceLines_lowerAscii, List.mem_map] at lowered
  obtain ⟨other, inside, equal⟩ := lowered
  have text : lowerAscii other.text = lowerAscii line.text := congrArg SourceLine.text equal
  have named' : (labelName? other.text).map lowerAscii = some (lowerAscii name) := by
    rw [← labelName?_lowerAscii, text, labelName?_lowerAscii, named, Option.map_some]
  obtain ⟨name', found, letters⟩ := Option.map_eq_some_iff.mp named'
  rw [← isLabelName_lowerAscii, ← letters, isLabelName_lowerAscii]
  exact unlabelled name' ⟨other, inside, found⟩

theorem addLabel_of_invalid {layout : Layout} {name : List Char} (empty : layout.labels = #[])
    (invalid : isLabelName name = false) : layout.addLabel name = .error (.invalidLabel name) := by
  rw [Layout.addLabel, empty, invalid]
  rfl

theorem linesAlike_lower {line : SourceLine}
    (invalid : ∀ name, labelName? line.text = some name → isLabelName name = false) :
    LinesAlike id (fun _ _ => True) (· = #[]) line line.lower := by
  have named' : labelName? line.lower.text = (labelName? line.text).map lowerAscii :=
    labelName?_lowerAscii line.text
  cases named : labelName? line.text with
  | none =>
    rw [named] at named'
    refine linesAlike_of_statements rfl named named' ((alike_ofText line.text).mono ?_)
    rintro statement _ rfl
    exact statementsAlike_lower statement
  | some name =>
    intro layout layout' before
    have wrong := invalid name named
    have wrong' : isLabelName (lowerAscii name) = false := by rw [isLabelName_lowerAscii, wrong]
    rw [named] at named'
    simp only [Layout.addLine, named, named', Option.map_some,
      addLabel_of_invalid before.names wrong,
      addLabel_of_invalid (before.labels.trans before.names) wrong']
    exact .error (.line trivial)

theorem alike_assemble_lowerAscii [Heap] {source : List Char} (unlabelled : HasNoLabels source)
    (base : Int) :
    Alike (ErrorsAlike id fun _ _ => True) (fun program program' => program'.image = program.image)
      (assemble source base) (assemble (lowerAscii source) base) := by
  have lines : List.Forall₂ (LinesAlike id (fun _ _ => True) (· = #[])) (sourceLines source)
      (sourceLines (lowerAscii source)) := by
    rw [sourceLines_lowerAscii, List.forall₂_map_right_iff, List.forall₂_same]
    exact fun line mem => linesAlike_lower fun name named => unlabelled name ⟨line, mem, named⟩
  refine alike_assemble (fun _ => trivial) ?_ lines base
  rfl

theorem errorsAlike_of_shared (e e' shared : Error)
    (blame : ErrorsAlike id (fun _ _ => True) e shared)
    (blame' : ErrorsAlike id (fun _ _ => True) e' shared) :
    ErrorsAlike id (fun _ _ => True) e e' := by
  cases blame with
  | line =>
    cases blame' with
    | line => exact .line trivial
  | padding =>
    cases blame' with
    | padding => exact .padding
  | sizeMismatch =>
    cases blame' with
    | sizeMismatch => exact .sizeMismatch
  | emptyProgram =>
    cases blame' with
    | emptyProgram => exact .emptyProgram

theorem alike_assemble_of_same_letters [Heap] {source source' : List Char}
    (unlabelled : HasNoLabels source) (same : lowerAscii source' = lowerAscii source) (base : Int) :
    Alike (ErrorsAlike id fun _ _ => True) (fun program program' => program'.image = program.image)
      (assemble source base) (assemble source' base) := by
  -- Both are compared with the source in small letters.
  have alike := alike_assemble_lowerAscii unlabelled base
  have alike' := alike_assemble_lowerAscii (unlabelled.of_same_letters same) base
  rw [same] at alike'
  exact alike.of_shared alike' errorsAlike_of_shared fun _ _ _ image image' =>
    image'.symm.trans image

/-- A source that defines no labels assembles to the same image in capitals and in small letters, or
is rejected at the same line. A gap for which the host has no memory ends all three before a line is
blamed. -/
theorem assemble_in_either_case [Heap] {source : List Char} {base : Int} (low : base ≤ memoryEnd)
    (unlabelled : HasNoLabels source) :
    ∀ version ∈ [upperAscii source, lowerAscii source],
      (∃ program program', assemble source base = .ok program ∧
        assemble version base = .ok program' ∧ program'.image = program.image) ∨
      (∃ n cause cause', assemble source base = .error (.line n cause) ∧
        assemble version base = .error (.line n cause')) ∨
      (Overreaches source base ∧ ∃ e, assemble source base = .error (.padding e) ∧
        assemble version base = .error (.padding e)) := by
  intro version mem
  have same : lowerAscii version = lowerAscii source := by
    rcases List.mem_cons.mp mem with rfl | mem
    · exact lowerAscii_upperAscii source
    · rw [List.mem_singleton.mp mem, lowerAscii_lowerAscii]
  rcases outcomes_of_alike low (alike_assemble_of_same_letters unlabelled same base) with
    assembled | ⟨n, cause, cause', blamed, blamed', -⟩ | far
  · exact .inl assembled
  · exact .inr (.inl ⟨n, cause, cause', blamed, blamed'⟩)
  · exact .inr (.inr far)

/-- A few instructions in letters of both cases. -/
def mixedLoads : List Char :=
  "; Draw\n Ld I, 0X2Aa\njP v0, 0b11 ; Loop\n.dW 0xfF\nDrw Va, vB, 0O17".toList

theorem hasNoLabels_of_forall {source : List Char}
    (none : ∀ line ∈ sourceLines source, labelName? line.text = none) : HasNoLabels source := by
  rintro name ⟨line, mem, named⟩
  cases (none line mem).symm.trans named

theorem assemble_in_either_case_of_mixed_loads :
    0x200 ≤ memoryEnd ∧ HasNoLabels mixedLoads ∧
    upperAscii mixedLoads =
      "; DRAW\n LD I, 0X2AA\nJP V0, 0B11 ; LOOP\n.DW 0XFF\nDRW VA, VB, 0O17".toList ∧
    ∃ program, @assemble .unlimited (upperAscii mixedLoads) 0x200 = .ok program ∧
      program.image = #[0xa2, 0xaa, 0xb0, 0x03, 0x00, 0xff, 0xda, 0xbf] := by
  let _ : Heap := .unlimited
  have low : 0x200 ≤ memoryEnd := by decide
  have unlabelled : HasNoLabels mixedLoads := hasNoLabels_of_forall (by decide)
  refine ⟨low, unlabelled, by decide, ?_⟩
  rcases assemble_in_either_case low unlabelled _ List.mem_cons_self with
    ⟨program, program', assembled, assembled', same⟩ | ⟨n, cause, cause', blamed, -⟩ |
    ⟨-, e, padded, -⟩
  · cases assembled
    exact ⟨program', assembled', same⟩
  · cases blamed
  · cases padded

theorem far_origin_in_capitals_blames_no_line :
    0x200 ≤ memoryEnd ∧ HasNoLabels farOrigin ∧
    @assemble .unlimited (upperAscii farOrigin) 0x200 = .error (.padding .tooLarge) ∧
    ¬((∃ program program', @assemble .unlimited farOrigin 0x200 = .ok program ∧
        @assemble .unlimited (upperAscii farOrigin) 0x200 = .ok program' ∧
        program'.image = program.image) ∨
      ∃ n cause cause', @assemble .unlimited farOrigin 0x200 = .error (.line n cause) ∧
        @assemble .unlimited (upperAscii farOrigin) 0x200 = .error (.line n cause')) := by
  let _ : Heap := .unlimited
  have fails : assemble (upperAscii farOrigin) 0x200 = .error (.padding .tooLarge) := rfl
  refine ⟨by decide, hasNoLabels_of_forall (by decide), fails, ?_⟩
  rintro (⟨program, program', -, assembled, -⟩ | ⟨n, cause, cause', -, blamed⟩)
  · cases fails.symm.trans assembled
  · cases fails.symm.trans blamed

end ChipEight.Assembly
