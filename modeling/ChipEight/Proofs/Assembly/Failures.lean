import ChipEight.Proofs.Assembly.Emission
import Mathlib.Data.List.TakeWhile

/-!
# How assembly fails

Both passes blame a line of the source that says something, with one exception: the second pass
takes its padding as it comes to an origin, and a gap for which the host has no memory ends it
there, without a line (`content_eq_error`). The check against the end of memory comes only after
that.
-/

namespace ChipEight.Assembly

open Text

/-! ### Lines that say something -/

/-- Whether line `n`, counted from one, holds more than blanks before its comment. -/
def SaysSomething (source : List Char) (n : Nat) : Prop :=
  ∃ line, 1 ≤ n ∧ (source.splitOn '\n')[n - 1]? = some line ∧
    ∃ c ∈ line.takeWhile (· ≠ ';'), isBlank c = false

theorem exists_of_trim_ne_nil {cs : List Char} (some_left : trim cs ≠ []) :
    ∃ c ∈ cs, isBlank c = false := by
  apply Classical.byContradiction
  intro none_left
  have blank : ∀ c ∈ cs, isBlank c = true := by
    intro c mem
    cases class_of_c : isBlank c with
    | true => rfl
    | false => exact absurd ⟨c, mem, class_of_c⟩ none_left
  apply some_left
  rw [trim, List.dropWhile_eq_nil_iff.mpr blank]
  rfl

theorem saysSomething_of_mem {source : List Char} {line : SourceLine}
    (mem : line ∈ sourceLines source) : SaysSomething source line.number := by
  obtain ⟨numbered, nonblank⟩ := List.mem_filter.mp mem
  obtain ⟨⟨text, n⟩, place, rfl⟩ := List.mem_map.mp numbered
  obtain ⟨first, found⟩ := List.mk_mem_zipIdx_iff_le_and_getElem?_sub.mp place
  exact ⟨text, first, found, exists_of_trim_ne_nil (by simpa [content] using nonblank)⟩

theorem message_line (n : Nat) (cause : Cause) :
    ∃ rest, (Error.line n cause).message = s!"Line {n}:" ++ rest := by
  have spelled : (Error.line n cause).message = s!"Line {n}: {cause.message}" := rfl
  refine ⟨" " ++ cause.message, ?_⟩
  rw [spelled]
  simp only [String.append_assoc]
  rfl

/-! ### The first pass -/

theorem addLine_eq_error {layout : Layout} {line : SourceLine} {e : Error}
    (fails : layout.addLine line = .error e) : ∃ cause, e = .line line.number cause := by
  obtain ⟨cause, -, blames⟩ := mapError_eq_error.mp fails
  exact ⟨cause, blames.symm⟩

theorem foldlM_addLine_eq_error {lines : List SourceLine} {layout : Layout} {e : Error}
    (fails : lines.foldlM Layout.addLine layout = .error e) :
    ∃ line ∈ lines, ∃ cause, e = .line line.number cause := by
  induction lines generalizing layout with
  | nil => cases fails
  | cons line lines ih =>
    rw [List.foldlM_cons, bind_eq_error] at fails
    rcases fails with fails | ⟨next, -, fails⟩
    · exact ⟨line, List.mem_cons_self, addLine_eq_error fails⟩
    · obtain ⟨later, mem, blamed⟩ := ih fails
      exact ⟨later, List.mem_cons_of_mem _ mem, blamed⟩

/-! ### The second pass -/

theorem rows_ne_nil {labels after : Labels} {address stop : Int} {lines : List SourceLine}
    {rows : List Row} (laid : Laid labels address lines rows after stop) (moved : stop ≠ address) :
    rows ≠ [] := by
  induction laid with
  | nil => exact absurd rfl moved
  | label _ _ _ _ ih => exact ih moved
  | statement _ _ _ _ _ => exact List.cons_ne_nil _ _

section

variable [Heap]

theorem content_of_not_hasRoom {base : Int} {labels : Labels} {row : Row}
    (origin : row.statement.isOrigin = true) (lacks : ¬row.HasRoom base) :
    ∃ e, row.content base labels = .error (.padding e) := by
  by_cases fits : (row.size : Int) < wordBound
  · exact ⟨.exhausted, content_of_exhausted origin fits lacks⟩
  · refine ⟨.tooLarge, ?_⟩
    rw [Row.content, Row.emit, if_pos origin, reserve_natCast, if_neg fits]
    rfl

/-- A row whose size was counted has no content for want of memory, or its line is to blame. The two
passes never differ on its size. -/
theorem content_eq_error {base : Int} {labels : Labels} {row : Row} {e : Error}
    (sized : row.statement.size row.address = .ok row.size)
    (fails : row.content base labels = .error e) :
    (row.statement.isOrigin = true ∧ ¬row.HasRoom base) ∨
      ∃ cause, e = .line row.line.number cause := by
  cases origin : row.statement.isOrigin with
  | true =>
    refine .inl ⟨rfl, fun room => ?_⟩
    have made : row.content base labels = .ok (.padding row.size) :=
      content_eq_ok.mpr (.inl ⟨origin, room, rfl⟩)
    cases fails.symm.trans made
  | false =>
    refine .inr ?_
    cases encoded : row.statement.encode labels with
    | error cause =>
      rw [Row.content, Row.emit, origin, encoded] at fails
      exact ⟨cause, (Except.error.inj fails).symm⟩
    | ok bytes =>
      have same := length_encode origin sized encoded
      have made : row.content base labels = .ok (.bytes bytes) :=
        content_eq_ok.mpr (.inr ⟨origin, bytes, encoded, same, rfl⟩)
      cases fails.symm.trans made

/-- The second pass comes to an origin for whose padding the host has no memory. -/
def Overreaches (source : List Char) (base : Int) : Prop :=
  ∃ layout front row back pieces, Layout.ofLines base (sourceLines source) = .ok layout ∧
    layout.rows.toList = front ++ row :: back ∧
    front.mapM (Row.piece base layout.labels) = .ok pieces ∧
    row.statement.isOrigin = true ∧ ¬row.HasRoom base

variable {source : List Char} {base : Int}

theorem assemble_of_overreaches (far : Overreaches source base) :
    ∃ e, assemble source base = .error (.padding e) := by
  obtain ⟨layout, front, row, back, pieces, laid, cut, before, origin, lacks⟩ := far
  obtain ⟨e, fails⟩ := @content_of_not_hasRoom _ _ layout.labels _ origin lacks
  have first := mapM_eq_error.mpr ⟨front, row, back, pieces, cut, before, map_eq_error.mpr fails⟩
  exact ⟨e, bind_eq_error.mpr (.inr ⟨layout, laid, bind_eq_error.mpr (.inl first)⟩)⟩

/-- A failure blames a line, but for a gap for which there is no memory, and for a program without a
row whose base lies past memory. -/
theorem assemble_eq_error {e : Error} (fails : assemble source base = .error e) :
    (∃ line ∈ sourceLines source, ∃ cause, e = .line line.number cause) ∨
      Overreaches source base ∨ (memoryEnd < base ∧ e = .emptyProgram) := by
  unfold assemble at fails
  rcases bind_eq_error.mp fails with fails | ⟨layout, made, fails⟩
  · exact .inl (foldlM_addLine_eq_error fails)
  have laid := ofLines_eq_ok.mp made
  rcases bind_eq_error.mp fails with fails | ⟨pieces, -, fails⟩
  · obtain ⟨front, row, back, pieces, cut, before, fails⟩ := mapM_eq_error.mp fails
    have mem : row ∈ layout.rows.toList := cut ▸ List.mem_append_right _ List.mem_cons_self
    rcases content_eq_error (laid.size_of_mem row mem) (map_eq_error.mp fails) with
      ⟨origin, lacks⟩ | ⟨cause, rfl⟩
    · exact .inr (.inl ⟨layout, front, row, back, pieces, made, cut, before, origin, lacks⟩)
    · exact .inl ⟨row.line, laid.line_mem row mem, cause, rfl⟩
  · split at fails
    · rename_i past
      have blamed : e = pastMemory layout.rows layout.next := by
        simpa [bind, Except.bind, throw, throwThe, MonadExceptOf.throw] using fails.symm
      rw [pastMemory] at blamed
      cases last : layout.rows.back? with
      | none =>
        rw [last] at blamed
        -- Without a row the address has not moved on from the base.
        have stays : layout.next = base := by
          apply Classical.byContradiction
          intro moved
          exact rows_ne_nil laid moved (by simpa using last)
        exact .inr (.inr ⟨stays ▸ past, blamed⟩)
      | some row =>
        rw [last] at blamed
        have mem : row ∈ layout.rows.toList := by
          simpa using Array.mem_of_back? last
        exact .inl ⟨row.line, laid.line_mem row mem, _, blamed⟩
    · cases fails

/-- The two passes never differ on the size of a line. -/
theorem assemble_ne_sizeMismatch {n counted emitted : Nat} :
    assemble source base ≠ .error (.sizeMismatch n counted emitted) := by
  intro fails
  rcases assemble_eq_error fails with ⟨line, -, cause, other⟩ | far | ⟨-, other⟩
  · cases other
  · obtain ⟨e, padded⟩ := assemble_of_overreaches far
    cases fails.symm.trans padded
  · cases other

/-- A source either assembles to an image inside memory or fails with an error that names a line
that says something, unless the host has no memory for a gap, and then it fails without a line. -/
theorem assemble_blames_line (low : base ≤ memoryEnd) :
    (¬Overreaches source base →
      (∃ program, assemble source base = .ok program ∧ base + program.image.size ≤ memoryEnd) ∨
      ∃ n cause rest, assemble source base = .error (.line n cause) ∧ SaysSomething source n ∧
        (Error.line n cause).message = s!"Line {n}:" ++ rest) ∧
    (Overreaches source base → ∃ e, assemble source base = .error (.padding e)) := by
  refine ⟨fun within => ?_, assemble_of_overreaches⟩
  cases assembled : assemble source base with
  | ok program =>
    obtain ⟨stop, inside, yields⟩ := assemble_eq_ok.mp assembled
    have ends : stop = base + program.image.size := yields.stop_eq
    exact .inl ⟨program, rfl, ends ▸ inside⟩
  | error e =>
    rcases assemble_eq_error assembled with ⟨line, mem, cause, rfl⟩ | far | ⟨high, -⟩
    · obtain ⟨rest, begins⟩ := message_line line.number cause
      exact .inr ⟨line.number, cause, rest, rfl, saysSomething_of_mem mem, begins⟩
    · exact absurd far within
    · exact absurd low (Int.not_le.mpr high)

end

/-- An origin past the end of memory, below a comment. -/
def nearOrigin : List Char := "; far ahead\n\n .ORG 0x1001 ; here".toList

theorem assemble_blames_line_of_near_origin :
    0x200 ≤ memoryEnd ∧ ¬@Overreaches .unlimited nearOrigin 0x200 ∧
    @assemble .unlimited nearOrigin 0x200 = .error (.line 3 (.endsPastMemory 0x1001)) ∧
    SaysSomething nearOrigin 3 := by
  let _ : Heap := .unlimited
  have low : 0x200 ≤ memoryEnd := by decide
  have fails : assemble nearOrigin 0x200 = .error (.line 3 (.endsPastMemory 0x1001)) := rfl
  obtain ⟨blames, pads⟩ := @assemble_blames_line _ nearOrigin _ low
  have within : ¬Overreaches nearOrigin 0x200 := by
    intro far
    obtain ⟨e, padded⟩ := pads far
    rw [fails] at padded
    cases padded
  refine ⟨low, within, fails, ?_⟩
  rcases blames within with ⟨program, assembled, -⟩ | ⟨n, cause, rest, blamed, nonblank, -⟩
  · rw [fails] at assembled
    cases assembled
  · rw [fails] at blamed
    cases blamed
    exact nonblank

/-- An origin that lies further ahead than any machine word reaches. -/
def farOrigin : List Char := ".org 0xffffffffffffffffffff".toList

/-- Not even a host that never runs out of memory has a block of that size. -/
theorem assemble_blames_no_line_of_far_origin :
    0x200 ≤ memoryEnd ∧ @assemble .unlimited farOrigin 0x200 = .error (.padding .tooLarge) ∧
    ¬((∃ program, @assemble .unlimited farOrigin 0x200 = .ok program ∧
        0x200 + program.image.size ≤ memoryEnd) ∨
      ∃ n cause rest, @assemble .unlimited farOrigin 0x200 = .error (.line n cause) ∧
        SaysSomething farOrigin n ∧ (Error.line n cause).message = s!"Line {n}:" ++ rest) := by
  let _ : Heap := .unlimited
  have fails : assemble farOrigin 0x200 = .error (.padding .tooLarge) := rfl
  refine ⟨by decide, fails, ?_⟩
  rintro (⟨program, assembled, -⟩ | ⟨n, cause, rest, blames, -⟩)
  · rw [fails] at assembled
    cases assembled
  · rw [fails] at blames
    cases blames

end ChipEight.Assembly
