import ChipEight.Machine.Basic
import ChipEight.Proofs.Assembly.Failures
import ChipEight.Proofs.Assembly.Substitution
import ChipEight.Proofs.Memory

/-!
# Labels are addresses

The value of a label is the address at which the bytes after its line begin: in the image, counted
from the base address, and in memory once the image is loaded. It does not matter to the image
whether an operand is the label or that number.
-/

namespace ChipEight

/-! ### A loaded image -/

theorem Memory.readBytes_load (memory : Memory) {image : Array UInt8} {front back : List UInt8}
    (split : image.toList = front ++ back) (fits : image.size ≤ programSpace) :
    (memory.load image).readBytes (0x200 + front.length) back.length = back := by
  have size : image.size = front.length + back.length := by
    rw [← Array.length_toList, split, List.length_append]
  have room : programSpace = 0xE00 := rfl
  apply List.ext_getElem
  · simp [readBytes]
  · intro k inside inside'
    have place : (0x200 : Int) + front.length + k = ((0x200 + front.length + k : Nat) : Int) := by
      omega
    have offset : 0x200 + front.length + k - 0x200 = front.length + k := by omega
    simp only [readBytes, List.getElem_map, List.getElem_range, place]
    rw [read_load memory image (by omega) (by omega), offset, Array.getD_eq_getD_getElem?,
      ← Array.getElem?_toList, split, List.getElem?_append_right (Nat.le_add_right _ _),
      Nat.add_sub_cancel_left, List.getElem?_eq_getElem inside', Option.getD_some]

namespace Assembly

open Text

/-! ### Another line in place of one -/

section

variable [Heap] {base : Int}

theorem content_setOperand {labels : Labels} {old new : List Char}
    (same : StandsFor labels old new) {line line' : SourceLine} {address : Int}
    {statement : Statement} {size k : Nat} {content : Content}
    (takes : statement.takesLabel k = true) (there : statement.operands[k]? = some old)
    (made : Row.content base labels ⟨line, address, statement, size⟩ = .ok content) :
    Row.content base labels ⟨line', address, statement.setOperand k new, size⟩ = .ok content := by
  rcases content_eq_ok.mp made with ⟨origin, room, padded⟩ | ⟨emits, bytes, encoded, counted, held⟩
  · refine content_eq_ok.mpr (.inl ⟨?_, ⟨room.fits, room.given, room.grown⟩, padded⟩)
    exact (isOrigin_setOperand _ _ _).trans origin
  · refine content_eq_ok.mpr (.inr ⟨?_, bytes, ?_, counted, held⟩)
    · exact (isOrigin_setOperand _ _ _).trans emits
    · exact encode_setOperand same takes there encoded

theorem Yields.setOperand {known labels after : Labels} {address stop : Int}
    {front back : List SourceLine} {pieces : List Piece} {line : SourceLine}
    {old new : List Char} {statement : Statement} {k : Nat}
    (yields : Yields base known labels address (front ++ line :: back) pieces after stop)
    (same : StandsFor known old new) (unnamed : labelName? line.text = none)
    (made : Statement.ofText line.text = .ok statement) (takes : statement.takesLabel k = true)
    (there : statement.operands[k]? = some old) (line' : SourceLine)
    (unnamed' : labelName? line'.text = none)
    (made' : Statement.ofText line'.text = .ok (statement.setOperand k new)) :
    ∃ pieces', Yields base known labels address (front ++ line' :: back) pieces' after stop ∧
      contents pieces' = contents pieces := by
  obtain ⟨pieces₁, _, between, middle, yields₁, yields₂, rfl⟩ := append_iff.mp yields
  obtain ⟨_, size, content, pieces₂, made₂, sized, own, others, rfl⟩ :=
    (statement_iff unnamed).mp yields₂
  obtain rfl := Except.ok.inj (made.symm.trans made₂)
  refine ⟨_, append_iff.mpr ⟨pieces₁, _, between, middle, yields₁,
    (statement_iff unnamed').mpr ⟨_, size, content, pieces₂, made', ?_, ?_, others, rfl⟩, rfl⟩, ?_⟩
  · rw [size_setOperand, sized]
  · exact content_setOperand same takes there own
  · simp

end

/-! ### Lines of a source -/

theorem numberedLines_cut (first : Nat) (above below : List (List Char)) {raw : List Char}
    (nonempty : content raw ≠ []) : numberedLines first (above ++ raw :: below) =
      numberedLines first above ++ ⟨first + above.length, content raw⟩ ::
        numberedLines (first + above.length + 1) below := by
  simp [numberedLines, List.zipIdx_append, List.zipIdx_cons, nonempty]

theorem sourceLines_intercalate {lines : List (List Char)} (nonempty : lines ≠ [])
    (single : ∀ l ∈ lines, '\n' ∉ l) :
    sourceLines (['\n'].intercalate lines) = numberedLines 1 lines := by
  rw [sourceLines, List.splitOn_intercalate _ single nonempty]

/-! ### Labels and numbers -/

/-- The address at which the bytes of a line begin, or would begin. -/
def Program.addressOf (program : Program) (base : Int) (line : SourceLine) : Int :=
  base + (program.emitted (· < line.number)).length

/-- Wherever an operand of a line is the label `name`, `number` can be written in its place: the
line makes the same statement but for that operand, and the source the same image. -/
def CanBeWritten [Heap] (source : List Char) (base : Int) (name number : List Char) : Prop :=
  ∀ above raw below statement k,
    source.splitOn '\n' = above ++ raw :: below → labelName? (content raw) = none →
    Statement.ofText (content raw) = .ok statement → statement.takesLabel k = true →
    statement.operands[k]? = some name →
    ∃ before after, raw = before ++ (name ++ after) ∧
      Statement.ofText (content (before ++ (number ++ after))) =
        .ok (statement.setOperand k number) ∧
      (assemble (['\n'].intercalate (above ++ (before ++ (number ++ after)) :: below)) base).map
        Program.image = (assemble source base).map Program.image

theorem canBeWritten_decimal [Heap] {source : List Char} {base : Int} {program : Program}
    {name : List Char} {value : Int} (assembled : assemble source base = .ok program)
    (known : program.labels.value? name = some value) :
    CanBeWritten source base name (decimal value) := by
  intro above raw below statement k cut unnamed made takes there
  have same : StandsFor program.labels name (decimal value) := by
    refine standsFor_decimal (fun other v found => ?_) known
    obtain ⟨_, -, -, valid⟩ := exists_line_of_value? assembled found
    exact valid
  have operand := isOperandText_decimal value
  obtain ⟨before, after, split, overwrite⟩ := exists_overwrite_operand unnamed made there
  obtain ⟨unnamed', made'⟩ := overwrite (decimal value) operand
  refine ⟨before, after, split, made', ?_⟩
  obtain ⟨stop, inside, yields⟩ := assemble_eq_ok.mp assembled
  rw [sourceLines, cut, numberedLines_cut _ _ _ (ne_nil_of_ofText made)] at yields
  obtain ⟨pieces, yields', bytes⟩ := yields.setOperand same unnamed made takes there
    ⟨1 + above.length, content (before ++ (decimal value ++ after))⟩ unnamed' made'
  have single : ∀ l ∈ above ++ (before ++ (decimal value ++ after)) :: below, '\n' ∉ l := by
    have old : ∀ l ∈ above ++ raw :: below, '\n' ∉ l := fun l mem =>
      notMem_of_mem_splitOn (cut ▸ mem)
    have new : '\n' ∉ decimal value := fun mem =>
      absurd (operand.solid _ mem).1 (by decide)
    simp only [List.forall_mem_append, List.forall_mem_cons] at old ⊢
    refine ⟨old.1, ?_, old.2.2⟩
    have kept := old.2.1
    rw [split] at kept
    simp only [List.mem_append, not_or] at kept ⊢
    exact ⟨kept.1, new, kept.2.2⟩
  have again : assemble (['\n'].intercalate
      (above ++ (before ++ (decimal value ++ after)) :: below)) base =
      .ok ⟨program.labels, pieces⟩ := by
    refine assemble_eq_ok.mpr ⟨stop, inside, ?_⟩
    rwa [sourceLines_intercalate (by simp) single,
      numberedLines_cut _ _ _ (ne_nil_of_ofText made')]
  rw [again, assembled, map_ok, map_ok]
  exact congrArg (Except.ok ∘ List.toArray) bytes

/-- The second pass emits as many bytes for every row as the first one counted, so that no assembly
ends over a size on which the two differ. The value of a label is the address of its line: the base,
and the bytes that the lines before contribute to the image. That number in decimal can be written
for the label everywhere. A program for the beginning of the program space is loaded whole, and the
bytes of the lines after a label are in memory from its value on. -/
theorem labels_are_addresses [Heap] (source : List Char) (base : Int) :
    (∀ layout, Layout.ofLines base (sourceLines source) = .ok layout →
      ∀ row ∈ layout.rows, ∀ content, row.emit base layout.labels = .ok content →
        content.toList.length = row.size) ∧
    (∀ n counted emitted, assemble source base ≠ .error (.sizeMismatch n counted emitted)) ∧
    ∀ program, assemble source base = .ok program →
      (∀ label ∈ sourceLines source, ∀ name, labelName? label.text = some name →
        program.bytes = program.emitted (· < label.number) ++ program.emitted (label.number < ·) ∧
        resolve program.labels name = .ok (program.addressOf base label) ∧
        CanBeWritten source base name (decimal (program.addressOf base label))) ∧
      (base = 0x200 → ∀ m : Machine,
        (m.load program.image).result = .ok program.image.size ∧
        (m.load program.image).machine.memory.readBytes 0x200 program.bytes.length =
          program.bytes ∧
        ∀ label ∈ sourceLines source, ∀ name, labelName? label.text = some name →
          (m.load program.image).machine.memory.readBytes (program.addressOf base label)
            (program.emitted (label.number < ·)).length = program.emitted (label.number < ·)) := by
  refine ⟨?_, fun _ _ _ => assemble_ne_sizeMismatch, fun program assembled => ⟨?_, ?_⟩⟩
  · intro layout made row mem content emitted
    have sized := (ofLines_eq_ok.mp made).size_of_mem row (by simpa using mem)
    rw [Content.length_toList, size_emit sized emitted]
  · intro label mem name named
    obtain ⟨known, split⟩ := emitted_around_label assembled mem named
    refine ⟨split, ?_, canBeWritten_decimal assembled known⟩
    rw [resolve, known]
    rfl
  · rintro rfl m
    have whole : program.image.toList = program.bytes := rfl
    have fits : program.image.size ≤ programSpace := by
      obtain ⟨stop, inside, yields⟩ := assemble_eq_ok.mp assembled
      have size : stop = 0x200 + program.image.size := yields.stop_eq
      have last : memoryEnd = 0x1000 := rfl
      have room : programSpace = 0xE00 := rfl
      omega
    refine ⟨congrArg Except.ok (Nat.min_eq_left fits), ?_, fun label mem name named => ?_⟩
    · have alone : program.image.toList = [] ++ program.bytes := rfl
      have stored := Memory.readBytes_load m.memory alone fits
      rwa [List.length_nil, Int.natCast_zero, Int.add_zero] at stored
    · obtain ⟨-, split⟩ := emitted_around_label assembled mem named
      exact Memory.readBytes_load m.memory (whole.trans split) fits

/-- A jump over a byte to a label after it. -/
def jumpAhead : List Char := "jp b\n.db 9\nb: ; here\n.db 7".toList

def jumpAheadProgram : Program where
  labels := #[(['b'], 0x203)]
  pieces := [⟨⟨⟨1, "jp b".toList⟩, 0x200, .instruction .jp [['b']], 2⟩, .bytes [0x12, 0x03]⟩,
    ⟨⟨⟨2, ".db 9".toList⟩, 0x202, .bytes [['9']], 1⟩, .bytes [9]⟩,
    ⟨⟨⟨4, ".db 7".toList⟩, 0x203, .bytes [['7']], 1⟩, .bytes [7]⟩]

theorem labels_are_addresses_ahead :
    @assemble .unlimited jumpAhead 0x200 = .ok jumpAheadProgram ∧
    resolve jumpAheadProgram.labels ['b'] = .ok 0x203 ∧
    (∃ before after, "jp b".toList = before ++ (['b'] ++ after) ∧
      Statement.ofText (content (before ++ ("515".toList ++ after))) =
        .ok (.instruction .jp ["515".toList]) ∧
      (@assemble .unlimited (['\n'].intercalate ([] ++ (before ++ ("515".toList ++ after)) ::
        [".db 9".toList, "b: ; here".toList, ".db 7".toList])) 0x200).map Program.image =
          .ok #[0x12, 0x03, 9, 7]) ∧
    ∀ m : Machine,
      (m.load jumpAheadProgram.image).machine.memory.readBytes 0x203 1 = [7] := by
  let _ : Heap := .unlimited
  have assembled : assemble jumpAhead 0x200 = .ok jumpAheadProgram := rfl
  have mem : ⟨3, ['b', ':']⟩ ∈ sourceLines jumpAhead := by decide
  obtain ⟨-, -, all⟩ := labels_are_addresses jumpAhead 0x200
  obtain ⟨values, memory⟩ := all jumpAheadProgram assembled
  obtain ⟨-, value, written⟩ := values _ mem ['b'] rfl
  have address : jumpAheadProgram.addressOf 0x200 ⟨3, ['b', ':']⟩ = 0x203 := rfl
  have digits : decimal 0x203 = "515".toList := by decide
  have last : jumpAheadProgram.emitted (3 < ·) = [7] := rfl
  rw [address, digits, CanBeWritten, assembled, map_ok] at written
  have cut : jumpAhead.splitOn '\n' =
      [] ++ "jp b".toList :: [".db 9".toList, "b: ; here".toList, ".db 7".toList] := rfl
  refine ⟨assembled, value, written _ _ _ _ 0 cut rfl rfl rfl rfl, fun m => ?_⟩
  have stored := (memory rfl m).2.2 _ mem ['b'] rfl
  rwa [address, last] at stored

end Assembly

end ChipEight
