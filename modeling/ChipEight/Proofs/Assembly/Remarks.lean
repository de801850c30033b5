import ChipEight.Proofs.Assembly.Concatenation
import ChipEight.Proofs.Assembly.LabelAddresses
import ChipEight.Proofs.Assembly.Lockstep

/-!
# Remarks

Lines that say nothing, and blanks and comments around the other lines, are put into a source in any
number. The lines that say something keep their texts and get other numbers
(`sourceLines_annotate`), so the source assembles as before, but for the line that an error names.
-/

namespace ChipEight

open Text

namespace Text

/-- Blanks around any text are trimmed away. -/
theorem trim_padded {lead tail : List Char} (cs : List Char)
    (before : ∀ c ∈ lead, isBlank c = true) (after : ∀ c ∈ tail, isBlank c = true) :
    trim (lead ++ (cs ++ tail)) = trim cs := by
  rw [trim, trim, List.dropWhile_append_of_pos before, List.dropWhile_append]
  cases kept : cs.dropWhile isBlank with
  | nil =>
    rw [List.isEmpty_nil, if_pos rfl, List.dropWhile_eq_nil_iff.mpr after]
  | cons c rest => exact dropEnd_append _ after

end Text

namespace Assembly

/-! ### Remarks around lines -/

/-- Blanks, and after them perhaps a comment, on one line. -/
structure IsRemark (text : List Char) : Prop where
  blank : ∀ c ∈ text.takeWhile (· ≠ ';'), isBlank c = true
  single : '\n' ∉ text

instance (text : List Char) : Decidable (IsRemark text) :=
  decidable_of_iff ((text.takeWhile (· ≠ ';')).all isBlank = true ∧ '\n' ∉ text)
    ⟨fun ⟨blank, single⟩ => ⟨List.all_eq_true.mp blank, single⟩,
      fun ⟨blank, single⟩ => ⟨List.all_eq_true.mpr blank, single⟩⟩

/-- What is put around a line: lines above it, blanks before it, and blanks and a comment behind
it. -/
structure Remarks where
  above : List (List Char)
  before : List Char
  behind : List Char
  above_silent : ∀ line ∈ above, IsRemark line
  before_blank : ∀ c ∈ before, isBlank c = true ∧ c ≠ '\n'
  behind_silent : IsRemark behind

/-- The remarks for the lines of a source, by the place of a line from zero, and the lines that are
put below the last one. -/
structure Annotation where
  remarks : Nat → Remarks
  below : List (List Char)
  below_silent : ∀ line ∈ below, IsRemark line

namespace Annotation

/-- The lines with their remarks, the first of them at place `k`. -/
def linesFrom (notes : Annotation) : Nat → List (List Char) → List (List Char)
  | _, [] => notes.below
  | k, line :: lines =>
    (notes.remarks k).above ++
      ((notes.remarks k).before ++ (line ++ (notes.remarks k).behind)) ::
        notes.linesFrom (k + 1) lines

/-- The source with all remarks. -/
def annotate (notes : Annotation) (source : List Char) : List Char :=
  ['\n'].intercalate (notes.linesFrom 0 (source.splitOn '\n'))

/-- The number of lines that are put in above line `n`, counted from one. -/
def inserted (notes : Annotation) : Nat → Nat
  | 0 => 0
  | k + 1 => notes.inserted k + (notes.remarks k).above.length

/-- The number that line `n` has among the remarks. -/
def place (notes : Annotation) (n : Nat) : Nat := n + notes.inserted n

end Annotation

/-! ### What a line says -/

theorem content_of_isRemark {text : List Char} (silent : IsRemark text) : content text = [] := by
  rw [content, trim, List.dropWhile_eq_nil_iff.mpr silent.blank]
  rfl

/-- Remarks around a line do not change what it says. -/
theorem content_around (remarks : Remarks) (line : List Char) :
    content (remarks.before ++ (line ++ remarks.behind)) = content line := by
  have blank := fun c mem => (remarks.before_blank c mem).1
  have solid : ∀ c ∈ remarks.before, decide (c ≠ ';') = true := fun c mem =>
    decide_eq_true (ne_semicolon_of_isBlank (blank c mem))
  rw [content, content, List.takeWhile_append_of_pos solid]
  by_cases comment : ∀ c ∈ line, decide (c ≠ ';') = true
  · rw [List.takeWhile_append_of_pos comment, List.takeWhile_eq_self_iff.mpr comment,
      trim_padded line blank remarks.behind_silent.blank]
  · -- What is behind the line belongs to its comment.
    have cut : (line ++ remarks.behind).takeWhile (· ≠ ';') = line.takeWhile (· ≠ ';') ++ [] := by
      rw [List.takeWhile_append, if_neg, List.append_nil]
      rw [← List.takeWhile_eq_self_iff] at comment
      exact fun whole => comment ((List.takeWhile_prefix _).eq_of_length whole)
    rw [cut, trim_padded _ blank (List.forall_mem_nil _)]

theorem numberedLines_silent (first : Nat) {lines : List (List Char)}
    (silent : ∀ line ∈ lines, IsRemark line) : numberedLines first lines = [] := by
  induction lines generalizing first with
  | nil => rfl
  | cons line lines ih =>
    obtain ⟨own, others⟩ := List.forall_mem_cons.mp silent
    rw [numberedLines_cons, numberedLines_singleton, content_of_isRemark own, ih _ others]
    rfl

/-- The line with the number that it has elsewhere. -/
def SourceLine.movedTo (place : Nat → Nat) (line : SourceLine) : SourceLine :=
  { line with number := place line.number }

namespace Annotation

variable (notes : Annotation)

theorem numberedLines_linesFrom (k : Nat) (lines : List (List Char)) :
    numberedLines (k + 1 + notes.inserted k) (notes.linesFrom k lines) =
      (numberedLines (k + 1) lines).map (SourceLine.movedTo notes.place) := by
  -- Above the line at place `k` all lines stand that were put in so far, and those for it besides.
  induction lines generalizing k with
  | nil => exact numberedLines_silent _ notes.below_silent
  | cons line lines ih =>
    have own : k + 1 + notes.inserted k + (notes.remarks k).above.length = notes.place (k + 1) := by
      rw [place, inserted, Nat.add_assoc]
    have next : notes.place (k + 1) + 1 = k + 1 + 1 + notes.inserted (k + 1) := by
      rw [place, Nat.add_right_comm]
    rw [linesFrom, numberedLines_append, numberedLines_silent _ (notes.remarks k).above_silent, own,
      List.nil_append, numberedLines_cons, numberedLines_cons (k + 1), next, ih, List.map_append,
      numberedLines_singleton, numberedLines_singleton, content_around]
    split <;> rfl

theorem single_linesFrom (k : Nat) {lines : List (List Char)}
    (single : ∀ line ∈ lines, '\n' ∉ line) : ∀ line ∈ notes.linesFrom k lines, '\n' ∉ line := by
  induction lines generalizing k with
  | nil => exact fun line mem => (notes.below_silent line mem).single
  | cons line lines ih =>
    obtain ⟨own, others⟩ := List.forall_mem_cons.mp single
    rw [linesFrom, List.forall_mem_append, List.forall_mem_cons]
    refine ⟨fun line mem => ((notes.remarks k).above_silent line mem).single, ?_, ih _ others⟩
    rw [List.mem_append, List.mem_append, not_or, not_or]
    exact ⟨fun mem => ((notes.remarks k).before_blank _ mem).2 rfl, own,
      (notes.remarks k).behind_silent.single⟩

/-- Remarks change the numbers of the lines that say something, and nothing else about them. -/
theorem sourceLines_annotate (source : List Char) :
    sourceLines (notes.annotate source) =
      (sourceLines source).map (SourceLine.movedTo notes.place) := by
  have nonempty : notes.linesFrom 0 (source.splitOn '\n') ≠ [] := by
    obtain ⟨line, lines, cut⟩ := List.exists_cons_of_ne_nil (List.splitOn_ne_nil '\n' source)
    rw [cut, linesFrom]
    simp
  rw [annotate, sourceLines_intercalate nonempty
    (notes.single_linesFrom 0 fun _ => notMem_of_mem_splitOn)]
  exact notes.numberedLines_linesFrom 0 _

end Annotation

/-! ### Assembling with remarks -/

theorem linesAlike_movedTo (place : Nat → Nat) (line : SourceLine) :
    LinesAlike place Eq (fun _ => True) line (line.movedTo place) := by
  cases named : labelName? line.text with
  | none =>
    refine linesAlike_of_statements rfl named named ((Alike.refl _).mono ?_)
    rintro statement _ rfl
    exact ⟨rfl, fun _ => .refl _, fun _ _ => .refl _⟩
  | some name =>
    intro layout layout' before
    have added : Alike Eq (LayoutsAlike place Eq fun _ => True)
        (layout.addLabel name) (layout'.addLabel name) := by
      unfold Layout.addLabel
      rw [before.labels, before.next]
      split
      · exact .error rfl
      split
      · exact .error rfl
      · exact .ok ⟨trivial, rfl, rfl, before.rows⟩
    have named' : labelName? (line.movedTo place).text = some name := named
    simp only [Layout.addLine, named, named']
    exact added.mapError fun _ _ => .line

/-- A source with remarks assembles to the same image, or fails with the same text behind the number
of a line, which is as many lines further down as were put in above it. A gap for which the host has
no memory ends both before a line is blamed. -/
theorem assemble_annotate [Heap] {source : List Char} {base : Int} (low : base ≤ memoryEnd)
    (notes : Annotation) :
    (∃ program program', assemble source base = .ok program ∧
      assemble (notes.annotate source) base = .ok program' ∧ program'.image = program.image) ∨
    (∃ n cause, ∃ text : String, assemble source base = .error (.line n cause) ∧
      assemble (notes.annotate source) base = .error (.line (n + notes.inserted n) cause) ∧
      (Error.line n cause).message = s!"Line {n}: {text}" ∧
      (Error.line (n + notes.inserted n) cause).message =
        s!"Line {n + notes.inserted n}: {text}") ∨
    (Overreaches source base ∧ ∃ e, assemble source base = .error (.padding e) ∧
      assemble (notes.annotate source) base = .error (.padding e)) := by
  have lines : List.Forall₂ (LinesAlike notes.place Eq fun _ => True) (sourceLines source)
      (sourceLines (notes.annotate source)) := by
    rw [notes.sourceLines_annotate, List.forall₂_map_right_iff, List.forall₂_same]
    exact fun line _ => linesAlike_movedTo notes.place line
  rcases outcomes_of_alike low (alike_assemble (fun _ => rfl) trivial lines base) with
    assembled | ⟨n, cause, _, blamed, moved, rfl⟩ | far
  · exact .inl assembled
  · exact .inr (.inl ⟨n, cause, _, blamed, moved, rfl, rfl⟩)
  · exact .inr (.inr far)

/-- A jump to a label that is nowhere. -/
def lostJump : List Char := "up: ; here\njp nowhere".toList

/-- A comment and an empty line above each line, a blank before it and a comment behind it. -/
def lostJumpNotes : Annotation where
  remarks _ :=
    { above := ["; next".toList, []]
      before := [' ']
      behind := "\t; why".toList
      above_silent := by decide
      before_blank := List.forall_mem_singleton.mpr (by decide)
      behind_silent := by decide }
  below := [[]]
  below_silent := by decide

theorem assemble_annotate_of_lost_jump :
    0x200 ≤ memoryEnd ∧
    @assemble .unlimited lostJump 0x200 = .error (.line 2 (.unresolved "nowhere".toList)) ∧
    lostJumpNotes.annotate lostJump =
      "; next\n\n up: ; here\t; why\n; next\n\n jp nowhere\t; why\n".toList ∧
    lostJumpNotes.inserted 2 = 4 ∧
    @assemble .unlimited (lostJumpNotes.annotate lostJump) 0x200 =
      .error (.line 6 (.unresolved "nowhere".toList)) := by
  let _ : Heap := .unlimited
  have low : 0x200 ≤ memoryEnd := by decide
  have fails : assemble lostJump 0x200 = .error (.line 2 (.unresolved "nowhere".toList)) := rfl
  refine ⟨low, fails, rfl, rfl, ?_⟩
  rcases assemble_annotate low lostJumpNotes with
    ⟨program, -, assembled, -⟩ | ⟨n, cause, text, blamed, moved, -⟩ | ⟨-, e, padded, -⟩
  · cases fails.symm.trans assembled
  · cases fails.symm.trans blamed
    exact moved
  · cases fails.symm.trans padded

theorem annotated_far_origin_blames_no_line :
    0x200 ≤ memoryEnd ∧
    @assemble .unlimited (lostJumpNotes.annotate farOrigin) 0x200 = .error (.padding .tooLarge) ∧
    ¬((∃ program program', @assemble .unlimited farOrigin 0x200 = .ok program ∧
        @assemble .unlimited (lostJumpNotes.annotate farOrigin) 0x200 = .ok program' ∧
        program'.image = program.image) ∨
      ∃ n cause, @assemble .unlimited farOrigin 0x200 = .error (.line n cause) ∧
        @assemble .unlimited (lostJumpNotes.annotate farOrigin) 0x200 =
          .error (.line (n + lostJumpNotes.inserted n) cause)) := by
  let _ : Heap := .unlimited
  have fails : assemble (lostJumpNotes.annotate farOrigin) 0x200 = .error (.padding .tooLarge) :=
    rfl
  refine ⟨by decide, fails, ?_⟩
  rintro (⟨program, program', -, assembled, -⟩ | ⟨n, cause, -, blamed⟩)
  · cases fails.symm.trans assembled
  · cases fails.symm.trans blamed

end Assembly

end ChipEight
