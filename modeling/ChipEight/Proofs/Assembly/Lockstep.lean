import ChipEight.Proofs.Alike
import ChipEight.Proofs.Assembly.Failures

/-!
# Two sources in lockstep

Where each line of one source does to a layout what the line beside it in another source does, the
sources assemble to the same bytes, or fail at lines that stand beside each other
(`alike_assemble`). What counts as the same cause, and which numbers the lines have in the other
source, is left open.
-/

namespace ChipEight.Assembly

variable (place : Nat → Nat) (causes : Cause → Cause → Prop) (known : Labels → Prop)

/-- Errors that blame line `n` on one side and line `place n` on the other, or none on both. -/
inductive ErrorsAlike : Error → Error → Prop
  | line {n : Nat} {cause cause' : Cause} (same : causes cause cause') :
    ErrorsAlike (.line n cause) (.line (place n) cause')
  | padding {e : SizeError} : ErrorsAlike (.padding e) (.padding e)
  | sizeMismatch {n counted emitted : Nat} :
    ErrorsAlike (.sizeMismatch n counted emitted) (.sizeMismatch (place n) counted emitted)
  | emptyProgram : ErrorsAlike .emptyProgram .emptyProgram

/-- Statements that take the same room and yield the same bytes, whatever labels are known. -/
structure StatementsAlike (statement statement' : Statement) : Prop where
  isOrigin : statement'.isOrigin = statement.isOrigin
  size : ∀ address, Alike causes Eq (statement.size address) (statement'.size address)
  encode : ∀ labels, known labels →
    Alike causes Eq (statement.encode labels) (statement'.encode labels)

structure RowsAlike (row row' : Row) : Prop where
  number : row'.line.number = place row.line.number
  address : row'.address = row.address
  size : row'.size = row.size
  statement : StatementsAlike causes known row.statement row'.statement

structure LayoutsAlike (layout layout' : Layout) : Prop where
  names : known layout.labels
  labels : layout'.labels = layout.labels
  next : layout'.next = layout.next
  rows : List.Forall₂ (RowsAlike place causes known) layout.rows.toList layout'.rows.toList

/-- Lines that do the same to layouts that are alike. -/
def LinesAlike (line line' : SourceLine) : Prop :=
  ∀ layout layout', LayoutsAlike place causes known layout layout' →
    Alike (ErrorsAlike place causes) (LayoutsAlike place causes known)
      (layout.addLine line) (layout'.addLine line')

variable {place causes known}

/-! ### The first pass -/

theorem alike_addStatement {layout layout' : Layout} {line line' : SourceLine}
    (before : LayoutsAlike place causes known layout layout')
    (number : line'.number = place line.number)
    (made : Alike causes (StatementsAlike causes known)
      (Statement.ofText line.text) (Statement.ofText line'.text)) :
    Alike causes (LayoutsAlike place causes known)
      (layout.addStatement line) (layout'.addStatement line') := by
  refine made.bind fun statement statement' same => ?_
  rw [before.next]
  refine (same.size _).bind fun size size' equal => ?_
  subst equal
  have last : RowsAlike place causes known ⟨line, layout.next, statement, size⟩
      ⟨line', layout.next, statement', size⟩ := ⟨number, rfl, rfl, same⟩
  refine .ok ⟨before.names, before.labels, rfl, ?_⟩
  simpa using List.rel_append before.rows (.cons last .nil)

/-- Lines that are no labels are alike if their statements are. -/
theorem linesAlike_of_statements {line line' : SourceLine}
    (number : line'.number = place line.number)
    (unnamed : labelName? line.text = none) (unnamed' : labelName? line'.text = none)
    (made : Alike causes (StatementsAlike causes known)
      (Statement.ofText line.text) (Statement.ofText line'.text)) :
    LinesAlike place causes known line line' := by
  intro layout layout' before
  simp only [Layout.addLine, unnamed, unnamed', number]
  exact (alike_addStatement before number made).mapError fun _ _ => .line

/-! ### The second pass -/

section

variable [Heap] {base : Int} {row row' : Row} (same : RowsAlike place causes known row row')

include same

theorem alike_emit {labels : Labels} (names : known labels) :
    Alike (ErrorsAlike place causes) Eq (row.emit base labels) (row'.emit base labels) := by
  unfold Row.emit Row.offset
  rw [same.statement.isOrigin, same.address, same.size, same.number]
  split
  · exact ((Alike.refl _).map fun _ _ => congrArg _).mapError fun _ _ equal => equal ▸ .padding
  · exact ((same.statement.encode _ names).map fun _ _ => congrArg _).mapError fun _ _ => .line

theorem alike_accept (content : Content) :
    Alike (ErrorsAlike place causes) Eq (row.accept base content) (row'.accept base content) := by
  unfold Row.accept Row.offset
  rw [same.address, same.size, same.number]
  split
  · exact .error .sizeMismatch
  · cases content with
    | padding n => exact (Alike.refl _).mapError fun _ _ equal => equal ▸ .padding
    | bytes bs => exact .ok rfl

theorem alike_content {labels : Labels} (names : known labels) :
    Alike (ErrorsAlike place causes) Eq (row.content base labels) (row'.content base labels) := by
  refine (alike_emit same names).bind fun content content' equal => ?_
  subst equal
  exact (alike_accept same content).bind fun _ _ _ => .ok rfl

theorem alike_piece {labels : Labels} (names : known labels) :
    Alike (ErrorsAlike place causes) (fun piece piece' => piece'.content = piece.content)
      (row.piece base labels) (row'.piece base labels) :=
  (alike_content same names).map fun _ _ equal => equal.symm

end

theorem contents_of_forall₂ {pieces pieces' : List Piece}
    (same : List.Forall₂ (fun piece piece' => piece'.content = piece.content) pieces pieces') :
    contents pieces' = contents pieces := by
  induction same with
  | nil => rfl
  | cons first _ ih => rw [contents_cons, contents_cons, first, ih]

/-- The last rows of layouts that are alike stand beside each other. -/
theorem errorsAlike_pastMemory {layout layout' : Layout} (reflexive : ∀ cause, causes cause cause)
    (same : LayoutsAlike place causes known layout layout') :
    ErrorsAlike place causes (pastMemory layout.rows layout.next)
      (pastMemory layout'.rows layout'.next) := by
  have rows := List.rel_reverse same.rows
  rw [same.next, pastMemory, pastMemory, ← Array.getLast?_toList, ← Array.getLast?_toList,
    ← List.head?_reverse, ← List.head?_reverse]
  generalize layout.rows.toList.reverse = backwards at rows ⊢
  generalize layout'.rows.toList.reverse = backwards' at rows ⊢
  cases rows with
  | nil => exact .emptyProgram
  | cons last _ =>
    rw [List.head?_cons, List.head?_cons]
    dsimp only
    rw [last.number]
    exact .line (reflexive _)

/-! ### Both passes -/

variable [Heap]

/-- Sources whose lines are alike assemble to the same image or fail alike. -/
theorem alike_assemble {source source' : List Char} (reflexive : ∀ cause, causes cause cause)
    (start : known #[])
    (lines : List.Forall₂ (LinesAlike place causes known) (sourceLines source)
      (sourceLines source')) (base : Int) :
    Alike (ErrorsAlike place causes) (fun program program' => program'.image = program.image)
      (assemble source base) (assemble source' base) := by
  have laid : Alike (ErrorsAlike place causes) (LayoutsAlike place causes known)
      (Layout.ofLines base (sourceLines source)) (Layout.ofLines base (sourceLines source')) :=
    .foldlM lines (fun _ _ _ _ before same => same _ _ before) ⟨start, rfl, rfl, .nil⟩
  refine laid.bind fun layout layout' same => ?_
  rw [same.labels]
  refine (Alike.mapM same.rows fun _ _ row => alike_piece row same.names).bind
    fun pieces pieces' bytes => ?_
  have past := errorsAlike_pastMemory reflexive same
  rw [same.next] at past ⊢
  split
  · exact .error past
  · exact .ok (congrArg List.toArray (contents_of_forall₂ bytes))

/-- Sources that are alike both assemble, or both blame a line, or both end at a gap for which there
is no memory. -/
theorem outcomes_of_alike {source source' : List Char} {base : Int}
    {programs : Program → Program → Prop} (low : base ≤ memoryEnd)
    (alike : Alike (ErrorsAlike place causes) programs (assemble source base)
      (assemble source' base)) :
    (∃ program program', assemble source base = .ok program ∧
      assemble source' base = .ok program' ∧ programs program program') ∨
    (∃ n cause cause', assemble source base = .error (.line n cause) ∧
      assemble source' base = .error (.line (place n) cause') ∧ causes cause cause') ∨
    (Overreaches source base ∧ ∃ e, assemble source base = .error (.padding e) ∧
      assemble source' base = .error (.padding e)) := by
  generalize assembled : assemble source base = outcome at alike ⊢
  generalize assemble source' base = outcome' at alike ⊢
  cases alike with
  | ok same => exact .inl ⟨_, _, rfl, rfl, same⟩
  | error same =>
    rcases assemble_eq_error assembled with ⟨line, -, cause, rfl⟩ | far | ⟨high, -⟩
    · cases same with
      | line equal => exact .inr (.inl ⟨_, _, _, rfl, rfl, equal⟩)
    · obtain ⟨e, padded⟩ := assemble_of_overreaches far
      obtain rfl := Except.error.inj (assembled.symm.trans padded)
      cases same with
      | padding => exact .inr (.inr ⟨far, e, rfl, rfl⟩)
    · exact absurd low (Int.not_le.mpr high)

end ChipEight.Assembly
