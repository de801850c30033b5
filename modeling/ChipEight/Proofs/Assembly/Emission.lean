import ChipEight.Assembly.Program
import ChipEight.Proofs.Assembly.Layout

/-!
# What the lines of a program contribute

Both passes together: the lines of a source yield pieces, each as long as the size with which the
first pass counted. Cut at a line, a program falls into what stands before it and what follows.
-/

namespace ChipEight.Assembly

/-! ### Sizes -/

theorem length_wordBytes (w : UInt16) : (wordBytes w).length = 2 := rfl

theorem length_encode {labels : Labels} {statement : Statement} {address : Int} {size : Nat}
    {bytes : List UInt8} (emits : statement.isOrigin = false)
    (sized : statement.size address = .ok size) (encoded : statement.encode labels = .ok bytes) :
    bytes.length = size := by
  cases statement with
  | origin operand => cases emits
  | bytes operands =>
    obtain rfl := Except.ok.inj sized
    exact length_of_mapM encoded
  | words operands =>
    obtain rfl := Except.ok.inj sized
    obtain ⟨ws, read, rfl⟩ := map_eq_ok.mp encoded
    rw [← length_of_mapM read]
    simp [length_wordBytes, List.map_const']
  | instruction m operands =>
    obtain rfl := Except.ok.inj sized
    obtain ⟨i, -, rfl⟩ := map_eq_ok.mp encoded
    exact length_wordBytes _

theorem Content.length_toList (content : Content) : content.toList.length = content.size := by
  cases content with
  | padding n => exact List.length_replicate
  | bytes bs => rfl

/-! ### Bytes of pieces -/

def contents (pieces : List Piece) : List UInt8 := pieces.flatMap fun piece => piece.content.toList

@[simp] theorem contents_nil : contents [] = [] := rfl

@[simp] theorem contents_cons (piece : Piece) (pieces : List Piece) :
    contents (piece :: pieces) = piece.content.toList ++ contents pieces := rfl

@[simp] theorem contents_append (front back : List Piece) :
    contents (front ++ back) = contents front ++ contents back := List.flatMap_append

theorem contents_filter_of_forall {pieces : List Piece} {chosen : Piece → Bool}
    (all : ∀ piece ∈ pieces, chosen piece = true) :
    contents (pieces.filter chosen) = contents pieces := by
  rw [List.filter_eq_self.mpr all]

theorem contents_filter_of_not {pieces : List Piece} {chosen : Piece → Bool}
    (none : ∀ piece ∈ pieces, chosen piece = false) : contents (pieces.filter chosen) = [] := by
  rw [List.filter_eq_nil_iff.mpr (by simpa using none), contents_nil]

/-! ### Numbers of lines -/

theorem pairwise_numberedLines (first : Nat) (lines : List (List Char)) :
    (numberedLines first lines).Pairwise fun l l' => l.number < l'.number := by
  refine List.Pairwise.filter _ (List.pairwise_map.mpr ?_)
  have numbers : ((lines.zipIdx first).map Prod.snd).Pairwise (· < ·) := by
    rw [List.zipIdx_map_snd]
    exact List.pairwise_lt_range'
  exact List.pairwise_map.mp numbers

theorem pairwise_sourceLines (source : List Char) :
    (sourceLines source).Pairwise fun l l' => l.number < l'.number :=
  pairwise_numberedLines 1 _

theorem numbers_around {source : List Char} {front back : List SourceLine} {line : SourceLine}
    (cut : sourceLines source = front ++ line :: back) :
    (∀ l ∈ front, l.number < line.number) ∧ ∀ l ∈ back, line.number < l.number := by
  have sorted := pairwise_sourceLines source
  rw [cut] at sorted
  obtain ⟨-, tail, across⟩ := List.pairwise_append.mp sorted
  exact ⟨fun l mem => across l mem line List.mem_cons_self, (List.pairwise_cons.mp tail).1⟩

variable [Heap] {base : Int}

/-! ### Memory for padding -/

/-- The host has memory for the padding of the row, once as it is made and once as it is put behind
the bytes before it. -/
structure Row.HasRoom (base : Int) (row : Row) : Prop where
  fits : (row.size : Int) < wordBound
  given : Heap.gives (row.offset base) row.size = true
  grown : Heap.grows (row.offset base) row.size = true

theorem Row.HasRoom.of_holds {size : Nat} {row : Row} (holds : Heap.Holds size)
    (fits : (row.size : Int) < wordBound) (within : row.offset base + row.size ≤ size) :
    row.HasRoom base :=
  ⟨fits, (holds _ _ within).1, (holds _ _ within).2⟩

theorem reserve_natCast (held n : Nat) : reserve held n =
    if (n : Int) < wordBound then
      if Heap.gives held n then .ok n else .error .exhausted
    else .error .tooLarge := by
  have above : -wordBound ≤ (n : Int) := by unfold wordBound; omega
  have not_negative : ¬(n : Int) < 0 := by omega
  unfold reserve fitsWord
  by_cases fits : (n : Int) < wordBound
  · rw [if_pos fits, if_neg (by simp [above, fits]), if_neg not_negative, Int.toNat_natCast]
  · rw [if_neg fits, if_pos (by simp [fits])]

theorem reserve_natCast_eq_ok {held n m : Nat} : reserve held n = .ok m ↔
    (n : Int) < wordBound ∧ Heap.gives held n = true ∧ n = m := by
  rw [reserve_natCast]
  by_cases fits : (n : Int) < wordBound
  · cases given : Heap.gives held n <;> simp [fits]
  · simp [fits]

theorem grow_eq_ok {held n : Nat} : grow held n = .ok () ↔ Heap.grows held n = true := by
  unfold grow
  cases grown : Heap.grows held n <;> simp

/-! ### The second pass at one row -/

variable {labels : Labels} {row : Row} {content : Content}

theorem emit_eq_ok : row.emit base labels = .ok content ↔
    (row.statement.isOrigin = true ∧ (row.size : Int) < wordBound ∧
      Heap.gives (row.offset base) row.size = true ∧ .padding row.size = content) ∨
    (row.statement.isOrigin = false ∧
      ∃ bytes, row.statement.encode labels = .ok bytes ∧ .bytes bytes = content) := by
  unfold Row.emit
  cases row.statement.isOrigin with
  | true =>
    simp only [if_true, mapError_eq_ok, map_eq_ok, reserve_natCast_eq_ok, and_assoc,
      exists_and_left, exists_eq_left', true_and, Bool.true_eq_false, false_and, or_false]
  | false =>
    simp only [Bool.false_eq_true, if_false, mapError_eq_ok, map_eq_ok, false_and, false_or,
      true_and]

/-- The second pass emits as many bytes for a row as the first one counted. -/
theorem size_emit (sized : row.statement.size row.address = .ok row.size)
    (emitted : row.emit base labels = .ok content) : content.size = row.size := by
  rcases emit_eq_ok.mp emitted with ⟨-, -, -, rfl⟩ | ⟨emits, bytes, encoded, rfl⟩
  · rfl
  · exact length_encode emits sized encoded

theorem accept_padding {n : Nat} (same : n = row.size) :
    row.accept base (.padding n) = (grow (row.offset base) n).mapError .padding :=
  if_neg (not_not_intro same)

theorem accept_bytes {bytes : List UInt8} (same : bytes.length = row.size) :
    row.accept base (.bytes bytes) = .ok () :=
  if_neg (not_not_intro same)

theorem size_of_accept (accepted : row.accept base content = .ok ()) :
    content.size = row.size := by
  apply Classical.byContradiction
  intro other
  rw [Row.accept.eq_def, if_pos other] at accepted
  cases accepted

/-- A row has a content iff its statement makes one of the size that was counted, and there is
memory for it. -/
theorem content_eq_ok : row.content base labels = .ok content ↔
    (row.statement.isOrigin = true ∧ row.HasRoom base ∧ .padding row.size = content) ∨
    (row.statement.isOrigin = false ∧ ∃ bytes, row.statement.encode labels = .ok bytes ∧
      bytes.length = row.size ∧ .bytes bytes = content) := by
  simp only [Row.content, bind_eq_ok, pure_eq_ok, Except.ok.injEq]
  constructor
  · rintro ⟨_, emitted, ⟨⟩, accepted, rfl⟩
    rcases emit_eq_ok.mp emitted with ⟨origin, fits, given, rfl⟩ | ⟨emits, bytes, encoded, rfl⟩
    · rw [accept_padding rfl, mapError_eq_ok, grow_eq_ok] at accepted
      exact .inl ⟨origin, ⟨fits, given, accepted⟩, rfl⟩
    · exact .inr ⟨emits, bytes, encoded, size_of_accept accepted, rfl⟩
  · rintro (⟨origin, room, rfl⟩ | ⟨emits, bytes, encoded, same, rfl⟩)
    · refine ⟨_, emit_eq_ok.mpr (.inl ⟨origin, room.fits, room.given, rfl⟩), (), ?_, rfl⟩
      rw [accept_padding rfl, mapError_eq_ok, grow_eq_ok]
      exact room.grown
    · exact ⟨_, emit_eq_ok.mpr (.inr ⟨emits, bytes, encoded, rfl⟩), (), accept_bytes same, rfl⟩

theorem hasRoom_of_content (origin : row.statement.isOrigin = true)
    (made : row.content base labels = .ok content) : row.HasRoom base := by
  rcases content_eq_ok.mp made with ⟨-, room, -⟩ | ⟨emits, -⟩
  · exact room
  · exact absurd origin (by simp [emits])

/-- A gap that fits a machine word can only be too large for the memory of the host. -/
theorem content_of_exhausted (origin : row.statement.isOrigin = true)
    (fits : (row.size : Int) < wordBound) (lacks : ¬row.HasRoom base) :
    row.content base labels = .error (.padding .exhausted) := by
  unfold Row.content Row.emit
  rw [if_pos origin, reserve_natCast, if_pos fits]
  cases given : Heap.gives (row.offset base) row.size with
  | false => rfl
  | true =>
    rw [if_pos rfl, map_ok, mapError_ok, ok_bind, accept_padding rfl, grow]
    cases grown : Heap.grows (row.offset base) row.size with
    | false => rfl
    | true => exact absurd ⟨fits, given, grown⟩ lacks

theorem length_content (made : row.content base labels = .ok content) :
    content.toList.length = row.size := by
  rcases content_eq_ok.mp made with ⟨-, -, rfl⟩ | ⟨-, bytes, -, same, rfl⟩
  · exact Content.length_toList _
  · exact same

/-! ### Pieces -/

/-- The pieces that lines yield from labels and an address on, with the labels and the address after
them, where the second pass knows the labels `known`. -/
def Yields (base : Int) (known labels : Labels) (address : Int) (lines : List SourceLine)
    (pieces : List Piece) (after : Labels) (stop : Int) : Prop :=
  ∃ rows, Laid labels address lines rows after stop ∧ rows.mapM (Row.piece base known) = .ok pieces

theorem piece_eq_ok {piece : Piece} :
    row.piece base labels = .ok piece ↔
      piece.row = row ∧ row.content base labels = .ok piece.content := by
  rw [Row.piece, map_eq_ok]
  constructor
  · rintro ⟨content, made, rfl⟩
    exact ⟨rfl, made⟩
  · rintro ⟨rfl, made⟩
    exact ⟨_, made, rfl⟩

theorem row_mem_of_mapM {rows : List Row} {pieces : List Piece}
    (encoded : rows.mapM (Row.piece base labels) = .ok pieces) :
    ∀ piece ∈ pieces, piece.row ∈ rows := by
  induction rows generalizing pieces with
  | nil =>
    cases encoded
    simp
  | cons row rows ih =>
    obtain ⟨first, rest, made, others, rfl⟩ := mapM_cons_eq_ok.mp encoded
    intro piece mem
    rcases List.mem_cons.mp mem with rfl | mem
    · rw [(piece_eq_ok.mp made).1]
      exact List.mem_cons_self
    · exact List.mem_cons_of_mem _ (ih others piece mem)

theorem Laid.stop_eq {known labels after : Labels} {address stop : Int} {lines : List SourceLine}
    {rows : List Row} {pieces : List Piece} (laid : Laid labels address lines rows after stop)
    (encoded : rows.mapM (Row.piece base known) = .ok pieces) :
    stop = address + (contents pieces).length := by
  induction laid generalizing pieces with
  | nil =>
    cases encoded
    simp
  | label _ _ _ _ ih => exact ih encoded
  | statement _ _ _ _ ih =>
    obtain ⟨piece, rest, made, others, rfl⟩ := mapM_cons_eq_ok.mp encoded
    have own := length_content (piece_eq_ok.mp made).2
    have more := ih others
    dsimp only at own
    rw [contents_cons, List.length_append, own]
    omega

/-- A program is what the lines of its source yield below the end of memory. -/
theorem assemble_eq_ok {source : List Char} {program : Program} :
    assemble source base = .ok program ↔ ∃ stop ≤ memoryEnd, Yields base program.labels #[] base
      (sourceLines source) program.pieces program.labels stop := by
  unfold assemble
  rw [bind_eq_ok]
  constructor
  · rintro ⟨layout, laid, rest⟩
    obtain ⟨pieces, encoded, rest⟩ := bind_eq_ok.mp rest
    split at rest
    · cases rest
    rename_i inside
    cases rest
    exact ⟨layout.next, Int.not_lt.mp inside, layout.rows.toList, ofLines_eq_ok.mp laid, encoded⟩
  · rintro ⟨stop, inside, rows, laid, encoded⟩
    refine ⟨⟨program.labels, rows.toArray, stop⟩, ofLines_eq_ok.mpr laid, ?_⟩
    simp only [encoded, ok_bind]
    rw [if_neg (Int.not_lt.mpr inside)]
    rfl

namespace Yields

variable {known labels after : Labels} {address stop : Int} {lines : List SourceLine}
  {pieces : List Piece}

theorem line_mem (yields : Yields base known labels address lines pieces after stop) :
    ∀ piece ∈ pieces, piece.row.line ∈ lines := by
  obtain ⟨rows, laid, encoded⟩ := yields
  exact fun piece mem => laid.line_mem _ (row_mem_of_mapM encoded piece mem)

theorem stop_eq (yields : Yields base known labels address lines pieces after stop) :
    stop = address + (contents pieces).length := by
  obtain ⟨rows, laid, encoded⟩ := yields
  exact laid.stop_eq encoded

theorem append_iff {front back : List SourceLine} :
    Yields base known labels address (front ++ back) pieces after stop ↔
      ∃ pieces₁ pieces₂ between middle,
        Yields base known labels address front pieces₁ between middle ∧
        Yields base known between middle back pieces₂ after stop ∧ pieces₁ ++ pieces₂ = pieces := by
  simp only [Yields, Laid.append_iff]
  constructor
  · rintro ⟨_, ⟨rows₁, rows₂, between, middle, laid₁, laid₂, rfl⟩, encoded⟩
    obtain ⟨pieces₁, pieces₂, encoded₁, encoded₂, same⟩ := mapM_append_eq_ok.mp encoded
    exact ⟨pieces₁, pieces₂, between, middle, ⟨rows₁, laid₁, encoded₁⟩, ⟨rows₂, laid₂, encoded₂⟩,
      same⟩
  · rintro ⟨pieces₁, pieces₂, between, middle, ⟨rows₁, laid₁, encoded₁⟩, ⟨rows₂, laid₂, encoded₂⟩,
      same⟩
    exact ⟨_, ⟨rows₁, rows₂, between, middle, laid₁, laid₂, rfl⟩,
      mapM_append_eq_ok.mpr ⟨pieces₁, pieces₂, encoded₁, encoded₂, same⟩⟩

theorem label_iff {line : SourceLine} {name : List Char}
    (named : labelName? line.text = some name) :
    Yields base known labels address (line :: lines) pieces after stop ↔
      labels.value? name = none ∧ isLabelName name = true ∧
        Yields base known (labels.push (name, address)) address lines pieces after stop := by
  constructor
  · rintro ⟨rows, laid, encoded⟩
    cases laid with
    | label named' fresh valid rest =>
      obtain rfl := Option.some.inj (named.symm.trans named')
      exact ⟨fresh, valid, rows, rest, encoded⟩
    | statement unnamed => exact absurd (named.symm.trans unnamed) (by simp)
  · rintro ⟨fresh, valid, rows, laid, encoded⟩
    exact ⟨rows, .label named fresh valid laid, encoded⟩

theorem statement_iff {line : SourceLine} (unnamed : labelName? line.text = none) :
    Yields base known labels address (line :: lines) pieces after stop ↔
      ∃ statement size content rest, Statement.ofText line.text = .ok statement ∧
        statement.size address = .ok size ∧
        Row.content base known ⟨line, address, statement, size⟩ = .ok content ∧
        Yields base known labels (address + size) lines rest after stop ∧
        ⟨⟨line, address, statement, size⟩, content⟩ :: rest = pieces := by
  constructor
  · rintro ⟨rows, laid, encoded⟩
    cases laid with
    | label named => exact absurd (unnamed.symm.trans named) (by simp)
    | statement _ made sized laid =>
      obtain ⟨⟨row, content⟩, rest, first, others, rfl⟩ := mapM_cons_eq_ok.mp encoded
      obtain ⟨rfl, first⟩ := piece_eq_ok.mp first
      exact ⟨_, _, content, rest, made, sized, first, ⟨_, laid, others⟩, rfl⟩
  · rintro ⟨statement, size, content, rest, made, sized, first, ⟨rows, laid, encoded⟩, rfl⟩
    exact ⟨_, .statement unnamed made sized laid,
      mapM_cons_eq_ok.mpr ⟨_, rest, piece_eq_ok.mpr ⟨rfl, first⟩, encoded, rfl⟩⟩

end Yields

/-! ### The contribution of some lines -/

/-- The bytes that the lines contribute whose numbers are chosen. -/
def Program.emitted (program : Program) (chosen : Nat → Bool) : List UInt8 :=
  contents (program.pieces.filter fun piece => chosen piece.row.line.number)

section

variable {source : List Char} {program : Program} {line : SourceLine}
  (assembled : assemble source base = .ok program) (mem : line ∈ sourceLines source)

include assembled mem

/-- The pieces fall into those of the lines before a line and those from it on. -/
theorem exists_cut : ∃ back pieces₁ pieces₂ front between middle stop,
    program.pieces = pieces₁ ++ pieces₂ ∧
    Yields base program.labels #[] base front pieces₁ between middle ∧
    Yields base program.labels between middle (line :: back) pieces₂ program.labels stop ∧
    (∀ piece ∈ pieces₁, piece.row.line.number < line.number) ∧
    ∀ l ∈ back, line.number < l.number := by
  obtain ⟨stop, -, yields⟩ := assemble_eq_ok.mp assembled
  obtain ⟨front, back, cut⟩ := List.append_of_mem mem
  obtain ⟨before, after⟩ := numbers_around cut
  rw [cut] at yields
  obtain ⟨pieces₁, pieces₂, between, middle, yields₁, yields₂, same⟩ := Yields.append_iff.mp yields
  exact ⟨back, pieces₁, pieces₂, front, between, middle, stop, same.symm, yields₁, yields₂,
    fun piece mem => before _ (yields₁.line_mem piece mem), after⟩

/-- A label has the address of the bytes after its line. -/
theorem emitted_around_label {name : List Char} (named : labelName? line.text = some name) :
    program.labels.value? name = some (base + (program.emitted (· < line.number)).length) ∧
    program.bytes = program.emitted (· < line.number) ++ program.emitted (line.number < ·) := by
  obtain ⟨back, pieces₁, pieces₂, front, between, middle, stop, same, yields₁, yields₂, less,
    after⟩ := exists_cut assembled mem
  obtain ⟨fresh, -, yields₂⟩ := (Yields.label_iff named).mp yields₂
  have more := fun piece mem => after _ (yields₂.line_mem piece mem)
  -- The numbers of the lines tell the pieces before the label from those behind it.
  have front_bytes : program.emitted (· < line.number) = contents pieces₁ := by
    rw [Program.emitted, same, List.filter_append, contents_append,
      contents_filter_of_forall fun piece mem => decide_eq_true (less piece mem),
      contents_filter_of_not fun piece mem => decide_eq_false (Nat.lt_asymm (more piece mem)),
      List.append_nil]
  have back_bytes : program.emitted (line.number < ·) = contents pieces₂ := by
    rw [Program.emitted, same, List.filter_append, contents_append,
      contents_filter_of_not fun piece mem => decide_eq_false (Nat.lt_asymm (less piece mem)),
      contents_filter_of_forall fun piece mem => decide_eq_true (more piece mem), List.nil_append]
  rw [front_bytes, back_bytes, ← contents_append, ← same, ← yields₁.stop_eq]
  obtain ⟨rows, laid, -⟩ := yields₂
  exact ⟨laid.value?_mono (by rw [value?_push, fresh, Option.none_or, if_pos rfl]), rfl⟩

/-- A line that is no label contributes the content of its statement. -/
theorem emitted_of_statement (unnamed : labelName? line.text = none) :
    ∃ statement address size content, Statement.ofText line.text = .ok statement ∧
      Row.content base program.labels ⟨line, address, statement, size⟩ = .ok content ∧
      program.emitted (· = line.number) = content.toList := by
  obtain ⟨back, pieces₁, _, front, between, middle, stop, same, yields₁, yields₂, less, after⟩ :=
    exists_cut assembled mem
  obtain ⟨statement, size, content, pieces₂, made, -, own, others, rfl⟩ :=
    (Yields.statement_iff unnamed).mp yields₂
  have more := fun piece mem => after _ (others.line_mem piece mem)
  refine ⟨statement, middle, size, content, made, own, ?_⟩
  rw [Program.emitted, same, List.filter_append, List.filter_cons_of_pos (by simp),
    contents_append, contents_cons,
    contents_filter_of_not fun piece mem => decide_eq_false (Nat.ne_of_lt (less piece mem)),
    contents_filter_of_not fun piece mem => decide_eq_false (Nat.ne_of_gt (more piece mem)),
    List.nil_append, List.append_nil]

omit mem in
theorem exists_line_of_value? {name : List Char} {value : Int}
    (known : program.labels.value? name = some value) :
    ∃ line ∈ sourceLines source, labelName? line.text = some name ∧ isLabelName name = true := by
  obtain ⟨stop, -, rows, laid, -⟩ := assemble_eq_ok.mp assembled
  exact (laid.exists_line known).resolve_left (by simp [Labels.value?])

end

end ChipEight.Assembly
