import ChipEight.Assembly.Program
import ChipEight.Proofs.Assembly.LabelAddresses
import Mathlib.Data.List.Basic

/-!
# What a listing shows

A listing has a line for each instruction and directive of the source, in order, and a line for each
label, above the first of them that begins at the label's address. Only labels at the end of the
program have no such line; they come last (`listing_eq_fullListing`, `listing_perm`).
-/

namespace ChipEight.Assembly

open Text

/-! ### Pieces and labels in the order of their lines -/

/-- The lines of a source that take room: instructions and directives. -/
def sizedLines (source : List Char) : List SourceLine :=
  (sourceLines source).filter fun line => (labelName? line.text).isNone

/-- The labels of a source, each with its line. -/
def labelLines (source : List Char) : List (List Char × SourceLine) :=
  (sourceLines source).filterMap fun line => (labelName? line.text).map (·, line)

section

variable [Heap] {base : Int} {known : Labels} {rows : List Row} {pieces : List Piece}
  (encoded : rows.mapM (Row.piece base known) = .ok pieces)

include encoded

theorem map_row_of_mapM : pieces.map Piece.row = rows := by
  induction rows generalizing pieces with
  | nil =>
    cases encoded
    rfl
  | cons row rows ih =>
    obtain ⟨piece, rest, made, others, rfl⟩ := mapM_cons_eq_ok.mp encoded
    rw [List.map_cons, ih others, (piece_eq_ok.mp made).1]

theorem content_of_mapM :
    ∀ piece ∈ pieces, piece.row.content base known = .ok piece.content := by
  induction rows generalizing pieces with
  | nil =>
    cases encoded
    exact List.forall_mem_nil _
  | cons row rows ih =>
    obtain ⟨piece, rest, made, others, rfl⟩ := mapM_cons_eq_ok.mp encoded
    obtain ⟨own, made⟩ := piece_eq_ok.mp made
    exact List.forall_mem_cons.mpr ⟨own ▸ made, ih others⟩

end

namespace Laid

variable {labels after : Labels} {address stop : Int} {lines : List SourceLine} {rows : List Row}

theorem map_line (laid : Laid labels address lines rows after stop) :
    rows.map Row.line = lines.filter fun line => (labelName? line.text).isNone := by
  induction laid with
  | nil => rfl
  | label named _ _ _ ih => rw [List.filter_cons_of_neg (by simp [named]), ih]
  | statement unnamed _ _ _ ih =>
    rw [List.filter_cons_of_pos (by simp [unnamed]), List.map_cons, ih]

theorem ofText_of_mem (laid : Laid labels address lines rows after stop) :
    ∀ row ∈ rows, Statement.ofText row.line.text = .ok row.statement := by
  induction laid with
  | nil => exact List.forall_mem_nil _
  | label _ _ _ _ ih => exact ih
  | statement _ made _ _ ih => exact List.forall_mem_cons.mpr ⟨made, ih⟩

/-- A row begins where the contents of those before it end. -/
theorem address_of_cut [Heap] {base : Int} (laid : Laid labels address lines rows after stop)
    {known : Labels} {front back : List Piece} {piece : Piece}
    (encoded : rows.mapM (Row.piece base known) = .ok (front ++ piece :: back)) :
    piece.row.address = address + (contents front).length := by
  induction laid generalizing front with
  | nil =>
    have nothing := map_row_of_mapM encoded
    simp at nothing
  | label _ _ _ _ ih => exact ih encoded
  | statement _ _ _ _ ih =>
    obtain ⟨first, rest, made, others, cut⟩ := mapM_cons_eq_ok.mp encoded
    obtain ⟨own, made⟩ := piece_eq_ok.mp made
    cases front with
    | nil =>
      obtain ⟨rfl, -⟩ := List.cons.inj cut
      simp [own]
    | cons first front =>
      obtain ⟨rfl, rfl⟩ := List.cons.inj cut
      have size := length_content made
      have next := ih others
      dsimp only at size
      rw [contents_cons, List.length_append, size]
      omega

/-- The labels that come in have the names of the label lines, in order. -/
theorem exists_labels (laid : Laid labels address lines rows after stop) :
    ∃ own, after.toList = labels.toList ++ own ∧
      own.map Prod.fst = lines.filterMap fun line => labelName? line.text := by
  induction laid with
  | nil => exact ⟨[], by simp, rfl⟩
  | @label labels _ address _ line _ _ name named _ _ _ ih =>
    obtain ⟨own, split, names⟩ := ih
    exact ⟨(name, address) :: own, by simp [split], by simp [named, names]⟩
  | statement unnamed _ _ _ ih =>
    obtain ⟨own, split, names⟩ := ih
    exact ⟨own, split, by simp [unnamed, names]⟩

/-- Where labels are known by their names before the lines, they are after them. -/
theorem value?_of_mem (laid : Laid labels address lines rows after stop)
    (before : ∀ label ∈ labels.toList, labels.value? label.1 = some label.2) :
    ∀ label ∈ after.toList, after.value? label.1 = some label.2 := by
  induction laid with
  | nil => exact before
  | @label labels _ address _ _ _ _ name _ fresh _ _ ih =>
    refine ih fun label mem => ?_
    rw [Array.toList_push, List.mem_append, List.mem_singleton] at mem
    obtain mem | rfl := mem
    · rw [value?_push, before label mem, Option.some_or]
    · rw [value?_push, fresh, Option.none_or, if_pos rfl]
  | statement _ _ _ _ ih => exact ih before

theorem first_address (laid : Laid labels address lines rows after stop) :
    (∃ row ∈ rows, row.address = address) ∨ stop = address := by
  induction laid with
  | nil => exact .inr rfl
  | label _ _ _ _ ih => exact ih
  | statement _ _ _ _ _ => exact .inl ⟨_, List.mem_cons_self, rfl⟩

/-- A label that comes in has the address of a row or that behind all rows. -/
theorem row_of_label (laid : Laid labels address lines rows after stop) :
    ∀ label ∈ after.toList, label ∈ labels.toList ∨ (∃ row ∈ rows, row.address = label.2) ∨
      stop = label.2 := by
  induction laid with
  | nil => exact fun label mem => .inl mem
  | @label labels _ address _ _ _ _ name _ _ _ rest ih =>
    intro label mem
    rcases ih label mem with known | placed
    · rw [Array.toList_push, List.mem_append, List.mem_singleton] at known
      obtain known | rfl := known
      · exact .inl known
      · exact .inr rest.first_address
    · exact .inr placed
  | statement _ _ _ _ ih =>
    intro label mem
    rcases ih label mem with known | ⟨row, inside, own⟩ | last
    · exact .inl known
    · exact .inr (.inl ⟨row, List.mem_cons_of_mem _ inside, own⟩)
    · exact .inr (.inr last)

end Laid

/-! ### The program that a source makes -/

section

variable [Heap] {source : List Char} {base : Int} {program : Program}
  (assembled : assemble source base = .ok program)

include assembled

theorem map_line_pieces : (program.pieces.map fun piece => piece.row.line) = sizedLines source := by
  obtain ⟨stop, -, rows, laid, encoded⟩ := assemble_eq_ok.mp assembled
  rw [sizedLines, ← laid.map_line, ← map_row_of_mapM encoded, List.map_map]
  rfl

theorem pairwise_pieces :
    program.pieces.Pairwise fun piece piece' => piece.row.line.number < piece'.row.line.number := by
  have sorted := (pairwise_sourceLines source).filter fun line => (labelName? line.text).isNone
  rw [← sizedLines, ← map_line_pieces assembled, List.pairwise_map] at sorted
  exact sorted

/-- The lines before a piece have contributed what stands before it. -/
theorem emitted_of_cut {front back : List Piece} {piece : Piece}
    (cut : program.pieces = front ++ piece :: back) :
    program.emitted (· < piece.row.line.number) = contents front ∧
      program.emitted (· = piece.row.line.number) = piece.content.toList := by
  have sorted := pairwise_pieces assembled
  rw [cut, List.pairwise_append] at sorted
  obtain ⟨-, behind, across⟩ := sorted
  have less := fun p mem => across p mem piece List.mem_cons_self
  have more := (List.pairwise_cons.mp behind).1
  constructor
  · rw [Program.emitted, cut, List.filter_append, contents_append,
      contents_filter_of_forall fun p mem => decide_eq_true (less p mem),
      List.filter_cons_of_neg (by simp),
      contents_filter_of_not fun p mem => decide_eq_false (Nat.lt_asymm (more p mem)),
      List.append_nil]
  · rw [Program.emitted, cut, List.filter_append, contents_append,
      contents_filter_of_not fun p mem => decide_eq_false (Nat.ne_of_lt (less p mem)),
      List.filter_cons_of_pos (by simp), contents_cons,
      contents_filter_of_not fun p mem => decide_eq_false (Nat.ne_of_gt (more p mem)),
      List.nil_append, List.append_nil]

theorem address_of_mem {piece : Piece} (mem : piece ∈ program.pieces) :
    piece.row.address = program.addressOf base piece.row.line := by
  obtain ⟨stop, -, rows, laid, encoded⟩ := assemble_eq_ok.mp assembled
  obtain ⟨front, back, cut⟩ := List.append_of_mem mem
  rw [Program.addressOf, (emitted_of_cut assembled cut).1]
  exact laid.address_of_cut (cut ▸ encoded)

theorem value_of_label {label : List Char × SourceLine} (mem : label ∈ labelLines source) :
    program.labels.value? label.1 = some (program.addressOf base label.2) := by
  obtain ⟨line, inside, found⟩ := List.mem_filterMap.mp mem
  obtain ⟨name, named, rfl⟩ := Option.map_eq_some_iff.mp found
  exact (emitted_around_label assembled inside named).1

/-- The labels of the program are those of the source, with the addresses of their lines. -/
theorem toList_labels : program.labels.toList =
    (labelLines source).map fun (name, line) => (name, program.addressOf base line) := by
  obtain ⟨stop, -, rows, laid, -⟩ := assemble_eq_ok.mp assembled
  obtain ⟨own, split, names⟩ := laid.exists_labels
  have values := laid.value?_of_mem (List.forall_mem_nil _)
  have valued : ∀ label ∈ program.labels.toList,
      (label.1, (program.labels.value? label.1).getD 0) = label := by
    intro label mem
    rw [values label mem]
    rfl
  have fst : (labelLines source).map Prod.fst = program.labels.toList.map Prod.fst := by
    rw [split, List.nil_append, names, labelLines, List.map_filterMap]
    simp [Function.comp_def]
  calc program.labels.toList
      = (program.labels.toList.map Prod.fst).map fun name =>
          (name, (program.labels.value? name).getD 0) := by
        rw [List.map_map]
        exact ((List.map_congr_left valued).trans (List.map_id' _)).symm
    _ = (labelLines source).map fun pair => (pair.1, (program.labels.value? pair.1).getD 0) := by
        rw [← fst, List.map_map]
        rfl
    _ = _ := by
        refine List.map_congr_left fun pair mem => ?_
        rw [value_of_label assembled mem]
        rfl

end

/-! ### The lines of a listing -/

/-- The first bytes in hexadecimal, and a mark if there are more than eight. -/
def firstBytes (bytes : List UInt8) : String :=
  " ".intercalate ((bytes.take 8).map capitalByteHex) ++ if 8 < bytes.length then " ..." else ""

/-- What is shown for a sized line: its address, the first of its bytes, and its text. -/
def Program.rowText (program : Program) (base : Int) (line : SourceLine) : String :=
  let shown := if (afterDirective? ".org" line.text).isSome then ""
    else firstBytes (program.emitted (· = line.number))
  s!"  {capitalHex 3 (program.addressOf base line)}  {inByteColumns shown}  " ++
    String.ofList line.text

/-- The first of some lines that has an address. -/
def firstAt (addressOf : SourceLine → Int) (lines : List SourceLine) (a : Int) :
    Option SourceLine :=
  lines.find? fun line => addressOf line == a

/-- The first sized line at the address of a label's line. -/
def Program.firstBehind (program : Program) (base : Int) (source : List Char)
    (label : SourceLine) : Option SourceLine :=
  firstAt (program.addressOf base) (sizedLines source) (program.addressOf base label)

/-- Each sized line, and above it the labels of which it is the first line behind; then the labels
behind all lines. -/
def Program.fullListing (program : Program) (base : Int) (source : List Char) : List String :=
  (sizedLines source).flatMap (fun line =>
    ((labelLines source).filter fun label =>
      program.firstBehind base source label.2 == some line).map (fun label => labelLine label.1) ++
    [program.rowText base line]) ++
  ((labelLines source).filter fun label =>
    (program.firstBehind base source label.2).isNone).map fun label => labelLine label.1

theorem isOrigin_of_ofText {text : List Char} {statement : Statement}
    (made : Statement.ofText text = .ok statement) :
    statement.isOrigin = (afterDirective? ".org" text).isSome := by
  unfold Statement.ofText at made
  split at made
  · rename_i found
    cases made
    rw [found]
    rfl
  · rename_i found _
    cases made
    rw [found]
    rfl
  · rename_i found _ _
    cases made
    rw [found]
    rfl
  · rename_i found _ _
    obtain ⟨m, -, rfl⟩ := ofInstructionText_eq_ok made
    rw [found]
    rfl

theorem shown_of_content [Heap] {base : Int} {known : Labels} {row : Row} {content : Content}
    (made : row.content base known = .ok content) :
    content.shown = if row.statement.isOrigin then "" else firstBytes content.toList := by
  rcases content_eq_ok.mp made with ⟨origin, -, rfl⟩ | ⟨emits, bytes, -, -, rfl⟩
  · rw [if_pos origin]
    rfl
  · rw [if_neg (by simp [emits])]
    rfl

theorem line_eq_rowText [Heap] {source : List Char} {base : Int} {program : Program}
    (assembled : assemble source base = .ok program) {piece : Piece}
    (mem : piece ∈ program.pieces) : piece.line = program.rowText base piece.row.line := by
  obtain ⟨stop, -, rows, laid, encoded⟩ := assemble_eq_ok.mp assembled
  obtain ⟨front, back, cut⟩ := List.append_of_mem mem
  have row := row_mem_of_mapM encoded piece mem
  have shown := shown_of_content (content_of_mapM encoded piece mem)
  rw [isOrigin_of_ofText (laid.ofText_of_mem _ row), ← (emitted_of_cut assembled cut).2] at shown
  rw [Piece.line, Program.rowText, shown, address_of_mem assembled mem]

section

variable {addressOf : SourceLine → Int} {line other : SourceLine} {lines : List SourceLine}

theorem firstAt_head {a : Int} (same : a = addressOf line) :
    firstAt addressOf (line :: lines) a = some line :=
  List.find?_cons_of_pos (beq_iff_eq.mpr same.symm)

theorem firstAt_tail {a : Int} (differ : a ≠ addressOf line) :
    firstAt addressOf (line :: lines) a = firstAt addressOf lines a :=
  List.find?_cons_of_neg fun same => differ (beq_iff_eq.mp same).symm

theorem firstAt_eq_head (new : line ∉ lines) (a : Int) :
    (firstAt addressOf (line :: lines) a == some line) = (a == addressOf line) := by
  by_cases same : a = addressOf line
  · rw [firstAt_head same, beq_self_eq_true, beq_iff_eq.mpr same]
  · rw [firstAt_tail same, beq_eq_false_iff_ne.mpr same, beq_eq_false_iff_ne]
    exact fun found => new (List.mem_of_find?_eq_some found)

theorem firstAt_eq_later (new : line ∉ lines) (mem : other ∈ lines) (a : Int) :
    (firstAt addressOf (line :: lines) a == some other) =
      (firstAt addressOf lines a == some other && !(a == addressOf line)) := by
  by_cases same : a = addressOf line
  · rw [firstAt_head same, beq_iff_eq.mpr same, Bool.not_true, Bool.and_false,
      beq_eq_false_iff_ne, ne_eq, Option.some_inj]
    exact fun shared => new (shared ▸ mem)
  · rw [firstAt_tail same, beq_eq_false_iff_ne.mpr same, Bool.not_false, Bool.and_true]

theorem firstAt_isNone (a : Int) : (firstAt addressOf (line :: lines) a).isNone =
    ((firstAt addressOf lines a).isNone && !(a == addressOf line)) := by
  by_cases same : a = addressOf line
  · rw [firstAt_head same, beq_iff_eq.mpr same, Bool.not_true, Bool.and_false, Option.isNone_some]
  · rw [firstAt_tail same, beq_eq_false_iff_ne.mpr same, Bool.not_false, Bool.and_true]

end

/-- Among pieces with lines of their own, each label goes above the first at its address. -/
theorem listingFrom_eq (addressOf : SourceLine → Int) {pieces : List Piece}
    (placed : ∀ piece ∈ pieces, piece.row.address = addressOf piece.row.line)
    (distinct : (pieces.map (·.row.line)).Nodup) (labels : List (List Char × Int)) :
    listingFrom labels pieces =
      pieces.flatMap (fun piece =>
        (labels.filter fun label =>
          firstAt addressOf (pieces.map (·.row.line)) label.2 == some piece.row.line).map
            (fun label => labelLine label.1) ++ [piece.line]) ++
      ((labels.filter fun label =>
        (firstAt addressOf (pieces.map (·.row.line)) label.2).isNone).mergeSort
          fun a b => a.2 ≤ b.2).map fun label => labelLine label.1 := by
  induction pieces generalizing labels with
  | nil => simp [firstAt, listingFrom]
  | cons piece pieces ih =>
    obtain ⟨own, placed⟩ := List.forall_mem_cons.mp placed
    obtain ⟨new, distinct⟩ := List.nodup_cons.mp distinct
    have inside : ∀ p ∈ pieces, p.row.line ∈ pieces.map (·.row.line) :=
      fun p mem => List.mem_map_of_mem mem
    rw [listingFrom, List.partition_eq_filter_filter, own]
    dsimp only [Function.comp_def]
    rw [ih placed distinct, List.flatMap_cons, List.map_cons]
    simp only [firstAt_eq_head new, firstAt_isNone, List.filter_filter, List.append_assoc,
      List.cons_append, List.nil_append]
    congr 3
    refine List.flatMap_congr fun p mem => ?_
    simp only [firstAt_eq_later new (inside p mem)]

theorem listingFrom_perm (labels : List (List Char × Int)) (pieces : List Piece) :
    (listingFrom labels pieces).Perm
      (pieces.map Piece.line ++ labels.map fun label => labelLine label.1) := by
  induction pieces generalizing labels with
  | nil => exact (List.mergeSort_perm labels _).map _
  | cons piece pieces ih =>
    have parted := (List.filter_append_perm (fun label => label.2 == piece.row.address) labels).map
      fun label => labelLine label.1
    rw [List.map_append] at parted
    rw [listingFrom, List.partition_eq_filter_filter]
    refine List.perm_middle.trans (List.Perm.cons _ ?_)
    refine ((ih _).append_left _).trans ((List.perm_append_comm_assoc _ _ _).trans ?_)
    exact parted.append_left _

section

variable [Heap] {source : List Char} {base : Int} {program : Program}
  (assembled : assemble source base = .ok program)

include assembled

/-- A label has the address of a piece or that behind the program. -/
theorem piece_of_label : ∀ label ∈ program.labels.toList,
    (∃ piece ∈ program.pieces, piece.row.address = label.2) ∨
      label.2 = base + program.image.size := by
  obtain ⟨stop, -, rows, laid, encoded⟩ := assemble_eq_ok.mp assembled
  intro label mem
  rcases laid.row_of_label label mem with none | ⟨row, inside, own⟩ | ends
  · exact absurd none List.not_mem_nil
  · obtain ⟨piece, found, rfl⟩ := List.mem_map.mp (map_row_of_mapM encoded ▸ inside)
    exact .inl ⟨piece, found, own⟩
  · exact .inr (ends.symm.trans (laid.stop_eq encoded))

/-- A label at which no sized line stands has the address behind the program. -/
theorem address_behind_all {label : List Char × SourceLine} (mem : label ∈ labelLines source)
    (last : program.firstBehind base source label.2 = none) :
    program.addressOf base label.2 = base + program.image.size := by
  have known : (label.1, program.addressOf base label.2) ∈ program.labels.toList := by
    rw [toList_labels assembled]
    exact List.mem_map_of_mem mem
  refine (piece_of_label assembled _ known).resolve_left ?_
  rintro ⟨piece, found, own⟩
  have sized : piece.row.line ∈ sizedLines source := by
    rw [← map_line_pieces assembled]
    exact List.mem_map_of_mem found
  have differ := List.find?_eq_none.mp last _ sized
  rw [← address_of_mem assembled found, own, beq_self_eq_true] at differ
  exact differ rfl

/-- A listing shows each sized line and each label once, in the order described by `fullListing`. -/
theorem listing_eq_fullListing : program.listing = program.fullListing base source := by
  have distinct : (program.pieces.map (·.row.line)).Nodup := by
    rw [List.Nodup, List.pairwise_map]
    exact (pairwise_pieces assembled).imp fun less same => Nat.ne_of_lt less (congrArg _ same)
  -- The labels behind all lines have one address, so that sorting them changes nothing.
  have sorted : ((labelLines source).filter fun label =>
      (program.firstBehind base source label.2).isNone).Pairwise fun a b =>
        decide (program.addressOf base a.2 ≤ program.addressOf base b.2) = true := by
    refine List.pairwise_of_forall_mem_list fun a mem b mem' => ?_
    obtain ⟨mem, last⟩ := List.mem_filter.mp mem
    obtain ⟨mem', last'⟩ := List.mem_filter.mp mem'
    rw [address_behind_all assembled mem (Option.isNone_iff_eq_none.mp last),
      address_behind_all assembled mem' (Option.isNone_iff_eq_none.mp last')]
    exact decide_eq_true (Int.le_refl _)
  rw [Program.listing, Program.fullListing, ← map_line_pieces assembled, List.flatMap_map,
    listingFrom_eq (program.addressOf base) (fun _ => address_of_mem assembled) distinct,
    toList_labels assembled, map_line_pieces assembled]
  simp only [List.filter_map, List.map_map, Function.comp_def]
  simp only [← Program.firstBehind.eq_1]
  rw [List.mergeSort_of_pairwise (List.pairwise_map.mpr sorted), List.map_map]
  refine congrArg₂ _ (List.flatMap_congr fun piece mem => ?_) rfl
  rw [line_eq_rowText assembled mem]

/-- No line of a listing is lost, and none appears twice. -/
theorem listing_perm : program.listing.Perm
    ((sizedLines source).map (program.rowText base) ++
      (labelLines source).map fun label => labelLine label.1) := by
  have shown : program.pieces.map Piece.line = (sizedLines source).map (program.rowText base) := by
    rw [← map_line_pieces assembled, List.map_map]
    exact List.map_congr_left fun piece mem => line_eq_rowText assembled mem
  have named : (program.labels.toList.map fun label => labelLine label.1) =
      (labelLines source).map fun label => labelLine label.1 := by
    rw [toList_labels assembled, List.map_map]
    rfl
  rw [← shown, ← named]
  exact listingFrom_perm _ _

end

end ChipEight.Assembly
