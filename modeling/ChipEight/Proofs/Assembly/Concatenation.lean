import ChipEight.Proofs.Assembly.Encoding
import ChipEight.Proofs.Text.Identifier

/-!
# One source below another

A name that labels may have is not a number, so an operand that has a meaning keeps it when more
labels are known (`Extends.resolve`). So the lines of a source yield the same bytes below another
source, if no name is defined in both (`Yields.under`), and the two together what they yield one
after the other.
-/

namespace ChipEight.Assembly

open Text

/-! ### More labels -/

/-- The labels `known'` give the names of `known` the same values, and no names that are none. -/
structure Extends (known known' : Labels) : Prop where
  value : ∀ name value, known.value? name = some value → known'.value? name = some value
  names : ∀ name value, known'.value? name = some value → isLabelName name = true

theorem radixOf_of_head {cs : List Char} {c : Char} (head : cs.head? = some c) (unprefixed : c ≠ '0')
    (unsigned : c ≠ '-') : radixOf cs = .byPrefix := by
  unfold radixOf
  split
  · exact absurd (Option.some.inj head).symm unprefixed
  · exact absurd (Option.some.inj head).symm unprefixed
  · exact absurd (Option.some.inj head).symm unsigned
  · rfl

theorem immediate_identifier {name : List Char} (identifier : isIdentifier name = true)
    (value : Int) : immediate name ≠ .ok value := by
  cases name with
  | nil => cases identifier
  | cons c cs =>
    rw [isIdentifier, Bool.and_eq_true] at identifier
    have start := identifier.1
    obtain ⟨rest, trimmed⟩ := exists_trim_cons cs (isBlank_of_identifierStart start)
    have zero : identifierStarts.contains '0' = false := by decide
    have minus : identifierStarts.contains '-' = false := by decide
    have radix : radixOf (c :: rest) = .byPrefix := by
      refine radixOf_of_head rfl ?_ ?_
      · rintro rfl
        exact Bool.false_ne_true (zero.symm.trans start)
      · rintro rfl
        exact Bool.false_ne_true (minus.symm.trans start)
    have malformed : Numeral.parse .byPrefix (c :: rest) = .error (.malformed .byPrefix (c :: rest)) :=
      Numeral.parse_of_begins rfl (Numeral.beginsNoNumeral_of_identifierStart start)
    rw [immediate, trimmed, radix, malformed]
    intro same
    cases same

namespace Extends

variable {known known' : Labels}

theorem resolve (more : Extends known known') {operand : List Char} {value : Int}
    (stands : resolve known operand = .ok value) : Assembly.resolve known' operand = .ok value := by
  unfold Assembly.resolve at stands ⊢
  cases own : known.value? operand with
  | some own_value =>
    rw [own] at stands
    rw [more.value _ _ own]
    exact stands
  | none =>
    rw [own] at stands
    cases spelled : immediate operand with
    | error cause =>
      rw [spelled] at stands
      cases stands
    | ok number =>
      -- A number is no name, so the labels that come in do not hide it.
      have free : known'.value? operand = none := by
        rw [Option.eq_none_iff_forall_ne_some]
        intro other found
        have valid := more.names _ _ found
        rw [isLabelName, Bool.and_eq_true] at valid
        exact immediate_identifier valid.1 number spelled
      rw [free]
      exact spelled ▸ stands

theorem address (more : Extends known known') {operand : List Char} {target : Address}
    (h : AddressOperand known operand target) : AddressOperand known' operand target :=
  more.resolve h

theorem byte (more : Extends known known') {operand : List Char} {b : UInt8}
    (h : ByteOperand known operand b) : ByteOperand known' operand b := by
  obtain ⟨value, stands, range⟩ := h
  exact ⟨value, more.resolve stands, range⟩

theorem word (more : Extends known known') {operand : List Char} {w : UInt16}
    (h : WordOperand known operand w) : WordOperand known' operand w :=
  more.resolve h

theorem writtenAs (more : Extends known known') {operands : List (List Char)} {i : Instruction}
    (written : WrittenAs known operands i) : WrittenAs known' operands i := by
  cases i with
  | sys target | jump target | call target =>
    obtain ⟨a, rfl, stands⟩ := written
    exact ⟨a, rfl, more.address stands⟩
  | jumpOffset target | loadIndex target =>
    obtain ⟨a, b, rfl, ha, stands⟩ := written
    exact ⟨a, b, rfl, ha, more.address stands⟩
  | skipEqByte x value | skipNeByte x value | loadByte x value | addByte x value =>
    obtain ⟨a, b, rfl, ha, none, stands⟩ := written
    exact ⟨a, b, rfl, ha, none, more.byte stands⟩
  | random x mask =>
    obtain ⟨a, b, rfl, ha, stands⟩ := written
    exact ⟨a, b, rfl, ha, more.byte stands⟩
  | unknown w =>
    obtain ⟨a, rfl, stands⟩ := written
    exact ⟨a, rfl, more.word stands⟩
  | _ => exact written

theorem encode (more : Extends known known') {statement : Statement} {bytes : List UInt8}
    (encoded : statement.encode known = .ok bytes) : statement.encode known' = .ok bytes := by
  cases statement with
  | origin operand => exact encoded
  | bytes operands =>
    exact mapM_of_forall (fun _ _ read => byte_eq_ok.mpr (more.byte (byte_eq_ok.mp read))) encoded
  | words operands =>
    obtain ⟨ws, read, made⟩ := map_eq_ok.mp encoded
    refine map_eq_ok.mpr ⟨ws, mapM_of_forall (fun _ _ read => ?_) read, made⟩
    exact word_eq_ok.mpr (more.word (word_eq_ok.mp read))
  | instruction m operands =>
    obtain ⟨i, read, made⟩ := map_eq_ok.mp encoded
    obtain ⟨rfl, written⟩ := writtenAs_of_instruction read
    exact map_eq_ok.mpr ⟨i, instruction_of_writtenAs (more.writtenAs written), made⟩

end Extends

/-! ### Lines under other ones -/

def SourceLine.under (above : Nat) (line : SourceLine) : SourceLine :=
  { line with number := line.number + above }

def Row.under (above : Nat) (row : Row) : Row := { row with line := row.line.under above }

def Piece.under (above : Nat) (piece : Piece) : Piece := { piece with row := piece.row.under above }

theorem contents_under (above : Nat) (pieces : List Piece) :
    contents (pieces.map (Piece.under above)) = contents pieces :=
  List.flatMap_map _ _ _

theorem numberedLines_append (first : Nat) (front back : List (List Char)) :
    numberedLines first (front ++ back) =
      numberedLines first front ++ numberedLines (first + front.length) back := by
  simp [numberedLines, List.zipIdx_append]

theorem numberedLines_cons (first : Nat) (line : List Char) (lines : List (List Char)) :
    numberedLines first (line :: lines) =
      numberedLines first [line] ++ numberedLines (first + 1) lines :=
  numberedLines_append first [line] lines

theorem numberedLines_singleton (first : Nat) (line : List Char) :
    numberedLines first [line] =
      if (content line).isEmpty then [] else [⟨first, content line⟩] := by
  cases empty : (content line).isEmpty <;> simp [numberedLines, empty]

theorem numberedLines_under (first above : Nat) (lines : List (List Char)) :
    numberedLines (first + above) lines =
      (numberedLines first lines).map (SourceLine.under above) := by
  have moved : lines.zipIdx (first + above) =
      (lines.zipIdx first).map (Prod.map id (· + above)) := by
    rw [List.map_snd_add_zipIdx_eq_zipIdx, Nat.add_comm]
  simp [numberedLines, moved, List.filter_map, Function.comp_def, SourceLine.under]

theorem sourceLines_append (above below : List Char) :
    sourceLines (above ++ '\n' :: below) =
      sourceLines above ++
        (sourceLines below).map (SourceLine.under (above.splitOn '\n').length) := by
  rw [sourceLines, List.splitOn_append_cons_self, numberedLines_append, numberedLines_under]
  rfl

/-- A row that has a content has it also where more labels are known, whatever its line is, and in a
program for another address, where there is memory for it. -/
theorem Extends.content [Heap] {known known' : Labels} (more : Extends known known')
    {base base' : Int} {row : Row} {content : Content}
    (made : row.content base known = .ok content) (line : SourceLine)
    (room : row.statement.isOrigin = true → row.HasRoom base') :
    Row.content base' known' { row with line := line } = .ok content := by
  rcases content_eq_ok.mp made with ⟨origin, -, padded⟩ | ⟨emits, bytes, encoded, same, held⟩
  · obtain ⟨fits, given, grown⟩ := room origin
    exact content_eq_ok.mpr (.inl ⟨origin, ⟨fits, given, grown⟩, padded⟩)
  · exact content_eq_ok.mpr (.inr ⟨emits, bytes, more.encode encoded, same, held⟩)

theorem value?_append (front labels : Labels) (name : List Char) :
    Labels.value? (front ++ labels) name = (front.value? name).or (labels.value? name) := by
  unfold Labels.value?
  rw [Array.find?_append]
  cases front.find? fun label => label.1 == name <;> rfl

theorem Laid.under {labels after : Labels} {address stop : Int} {lines : List SourceLine}
    {rows : List Row} (laid : Laid labels address lines rows after stop) {front : Labels}
    (free : ∀ line ∈ lines, ∀ name, labelName? line.text = some name → front.value? name = none)
    (above : Nat) : Laid (front ++ labels) address (lines.map (SourceLine.under above))
      (rows.map (Row.under above)) (front ++ after) stop := by
  induction laid with
  | nil => exact .nil
  | label named fresh valid _ ih =>
    obtain ⟨own, others⟩ := List.forall_mem_cons.mp free
    refine .label named ?_ valid ?_
    · rw [value?_append, own _ named, fresh]
      rfl
    · rw [← Array.append_push]
      exact ih others
  | statement unnamed made sized _ ih =>
    exact .statement unnamed made sized (ih (List.forall_mem_cons.mp free).2)

namespace Yields

variable [Heap] {known known' labels after : Labels} {base base' address stop : Int}
  {lines : List SourceLine} {pieces : List Piece}

theorem extend (yields : Yields base known labels address lines pieces after stop)
    (more : Extends known known') : Yields base known' labels address lines pieces after stop := by
  obtain ⟨rows, laid, encoded⟩ := yields
  refine ⟨rows, laid, mapM_of_forall (fun row piece made => ?_) encoded⟩
  obtain ⟨rfl, made⟩ := piece_eq_ok.mp made
  exact piece_eq_ok.mpr
    ⟨rfl, more.content made piece.row.line fun origin => hasRoom_of_content origin made⟩

/-- Behind other lines and labels, and with those labels known as well, lines yield the same bytes,
unless the host does not hold them together with those before. -/
theorem under (yields : Yields base' known labels address lines pieces after stop)
    (more : Extends known known') {front : Labels}
    (free : ∀ line ∈ lines, ∀ name, labelName? line.text = some name → front.value? name = none)
    (above : Nat) {size : Nat} (low : base ≤ address) (ends : stop = base + size) :
    Yields base known' (front ++ labels) address (lines.map (SourceLine.under above))
      (pieces.map (Piece.under above)) (front ++ after) stop ∨
    ¬Heap.Holds size ∧ ∃ rows, Laid (front ++ labels) address
      (lines.map (SourceLine.under above)) rows (front ++ after) stop ∧
      rows.mapM (Row.piece base known') = .error (.padding .exhausted) := by
  obtain ⟨rows, laid, encoded⟩ := yields
  have moved := laid.under free above
  have each : ∀ row ∈ rows, ∀ piece, row.piece base' known = .ok piece →
      (row.under above).piece base known' = .ok (piece.under above) ∨
      ¬Heap.Holds size ∧
        (row.under above).piece base known' = .error (.padding .exhausted) := by
    intro row mem piece made
    obtain ⟨rfl, made⟩ := piece_eq_ok.mp made
    by_cases room : piece.row.statement.isOrigin = true → piece.row.HasRoom base
    · exact .inl (piece_eq_ok.mpr ⟨rfl, more.content made (piece.row.line.under above) room⟩)
    · obtain ⟨origin, lacks⟩ := Classical.not_imp.mp room
      have fits := (hasRoom_of_content origin made).fits
      have bounds := laid.bounds_of_mem piece.row mem
      have within : piece.row.offset base + piece.row.size ≤ size := by
        unfold Row.offset
        omega
      exact .inr ⟨fun holds => lacks (.of_holds holds fits within),
        map_eq_error.mpr (content_of_exhausted origin fits
          fun room => lacks ⟨room.fits, room.given, room.grown⟩)⟩
  rcases mapM_map_or_error each encoded with made | ⟨lacks, fails⟩
  · exact .inl ⟨_, moved, made⟩
  · exact .inr ⟨lacks, _, moved, fails⟩

end Yields

/-! ### Two sources -/

/-- Whether a line of the source is a label of that name. -/
def Defines (source name : List Char) : Prop :=
  ∃ line ∈ sourceLines source, labelName? line.text = some name

section

variable [Heap] {above below : List Char} {base base' : Int} {p q : Program}
  (first : assemble above base = .ok p) (second : assemble below base' = .ok q)
  (disjoint : ∀ name, Defines above name → ¬Defines below name)

include first disjoint

theorem free_of_defines {name : List Char} (defined : Defines below name) :
    p.labels.value? name = none := by
  rw [Option.eq_none_iff_forall_ne_some]
  intro value known
  obtain ⟨line, mem, named, -⟩ := exists_line_of_value? first known
  exact disjoint name ⟨line, mem, named⟩ defined

include second

omit disjoint in
theorem isLabelName_of_value? {name : List Char} {value : Int}
    (known : Labels.value? (p.labels ++ q.labels) name = some value) : isLabelName name = true := by
  rw [value?_append, Option.or_eq_some_iff] at known
  obtain known | ⟨-, known⟩ := known
  · obtain ⟨_, -, -, valid⟩ := exists_line_of_value? first known
    exact valid
  · obtain ⟨_, -, -, valid⟩ := exists_line_of_value? second known
    exact valid

omit disjoint in
theorem extends_above : Extends p.labels (p.labels ++ q.labels) where
  value name value known := by rw [value?_append, known, Option.some_or]
  names _ _ := isLabelName_of_value? first second

theorem extends_below : Extends q.labels (p.labels ++ q.labels) where
  value name value known := by
    obtain ⟨line, mem, named, -⟩ := exists_line_of_value? second known
    rw [value?_append, free_of_defines first disjoint ⟨line, mem, named⟩, Option.none_or, known]
  names _ _ := isLabelName_of_value? first second

end

/-- Two sources with no label name in common, the second assembled for where the first one ends,
assemble as one source to both images in turn, unless the host, which has memory for each of them,
has none for both. -/
theorem assemble_append [Heap] {above below : List Char} {base : Int} {p q : Program}
    (first : assemble above base = .ok p)
    (second : assemble below (base + p.image.size) = .ok q)
    (disjoint : ∀ name, Defines above name → ¬Defines below name) :
    (∃ r, assemble (above ++ '\n' :: below) base = .ok r ∧ r.labels = p.labels ++ q.labels ∧
      r.image = p.image ++ q.image) ∨
    (¬Heap.Holds (p.image.size + q.image.size) ∧
      assemble (above ++ '\n' :: below) base = .error (.padding .exhausted)) := by
  obtain ⟨middle, -, yields₁⟩ := assemble_eq_ok.mp first
  obtain ⟨stop, inside, yields₂⟩ := assemble_eq_ok.mp second
  have meet : middle = base + p.image.size := yields₁.stop_eq
  have low : base ≤ base + p.image.size := by omega
  have last : stop = base + p.image.size + q.image.size := yields₂.stop_eq
  have ends : stop = base + (p.image.size + q.image.size : Nat) := by omega
  have free : ∀ line ∈ sourceLines below, ∀ name, labelName? line.text = some name →
      p.labels.value? name = none := fun line mem name named =>
    free_of_defines first disjoint ⟨line, mem, named⟩
  have front := yields₁.extend (extends_above first second)
  have bytes := contents_under (above.splitOn '\n').length q.pieces
  have back := yields₂.under (extends_below first second disjoint) free
    (above.splitOn '\n').length low ends
  rw [Array.append_empty, ← meet] at back
  generalize q.pieces.map (Piece.under (above.splitOn '\n').length) = moved at bytes back
  rcases back with back | ⟨lacks, rows₂, laid₂, fails⟩
  · refine .inl ⟨⟨p.labels ++ q.labels, p.pieces ++ moved⟩,
      assemble_eq_ok.mpr ⟨stop, inside, ?_⟩, rfl, ?_⟩
    · rw [sourceLines_append]
      exact Yields.append_iff.mpr ⟨_, _, _, _, front, back, rfl⟩
    · have joined : Program.bytes ⟨p.labels ++ q.labels, p.pieces ++ moved⟩ = p.bytes ++ q.bytes :=
        (contents_append _ _).trans (congrArg (p.bytes ++ ·) bytes)
      rw [Program.image, joined, ← List.append_toArray]
      rfl
  · obtain ⟨rows₁, laid₁, encoded₁⟩ := front
    have laid := Laid.append_iff.mpr ⟨rows₁, rows₂, p.labels, middle, laid₁, laid₂, rfl⟩
    rw [← sourceLines_append] at laid
    have stops : (rows₁ ++ rows₂).mapM (Row.piece base (p.labels ++ q.labels)) =
        .error (.padding .exhausted) := by
      rw [List.mapM_append, encoded₁, ok_bind, fails]
      rfl
    exact .inr ⟨lacks, bind_eq_error.mpr (.inr
      ⟨⟨p.labels ++ q.labels, (rows₁ ++ rows₂).toArray, stop⟩, ofLines_eq_ok.mpr laid,
        bind_eq_error.mpr (.inl stops)⟩)⟩

/-- A jump to itself, and another two bytes further. -/
def loopAbove : List Char := "up:\njp up ; here".toList

def loopBelow : List Char := ".org 0x204\ndown:\njp down".toList

def loopAboveProgram : Program where
  labels := #[("up".toList, 0x200)]
  pieces := [⟨⟨⟨2, "jp up".toList⟩, 0x200, .instruction .jp ["up".toList], 2⟩, .bytes [0x12, 0x00]⟩]

def loopBelowProgram : Program where
  labels := #[("down".toList, 0x204)]
  pieces := [⟨⟨⟨1, ".org 0x204".toList⟩, 0x202, .origin " 0x204".toList, 2⟩, .padding 2⟩,
    ⟨⟨⟨3, "jp down".toList⟩, 0x204, .instruction .jp ["down".toList], 2⟩, .bytes [0x12, 0x04]⟩]

theorem assemble_append_loops :
    @assemble .unlimited loopAbove 0x200 = .ok loopAboveProgram ∧
    @assemble .unlimited loopBelow (0x200 + loopAboveProgram.image.size) = .ok loopBelowProgram ∧
    (∀ name, Defines loopAbove name → ¬Defines loopBelow name) ∧
    ∃ r, @assemble .unlimited (loopAbove ++ '\n' :: loopBelow) 0x200 = .ok r ∧
      r.labels = #[("up".toList, 0x200), ("down".toList, 0x204)] ∧
      r.image = #[0x12, 0x00, 0x00, 0x00, 0x12, 0x04] := by
  let _ : Heap := .unlimited
  have first : assemble loopAbove 0x200 = .ok loopAboveProgram := rfl
  have second : assemble loopBelow (0x200 + loopAboveProgram.image.size) = .ok loopBelowProgram :=
    rfl
  have disjoint : ∀ name, Defines loopAbove name → ¬Defines loopBelow name := by
    have lines : ∀ line ∈ sourceLines loopAbove, ∀ line' ∈ sourceLines loopBelow,
        labelName? line.text ≠ none → labelName? line.text ≠ labelName? line'.text := by decide
    rintro name ⟨line, mem, named⟩ ⟨line', mem', named'⟩
    exact lines line mem line' mem' (by simp [named]) (named.trans named'.symm)
  rcases assemble_append first second disjoint with joined | ⟨lacks, -⟩
  · exact ⟨first, second, disjoint, joined⟩
  · exact absurd (fun _ _ _ => ⟨rfl, rfl⟩) lacks

end ChipEight.Assembly
