import ChipEight.HexDump
import ChipEight.Proofs.Storage
import ChipEight.Proofs.Text.Numeral
import Mathlib.Data.List.Basic

/-!
# Hex dumps are read back

A reader of dumps takes the label from between the margin and the colon, the bytes from the words
behind it and the characters from a fixed column. What it reads is what was dumped: `rows_eq` says
which bytes stand on which line, `digitFields_line` and `characters_line` how a line shows them.
-/

namespace ChipEight.HexDump

open Text

/-! ### Reading a line -/

/-- The words of a text with blanks between them. -/
def words (cs : List Char) : List (List Char) := (cs.splitOn ' ').filter (· ≠ [])

/-- The label of a line, which ends at the colon. -/
def label (line : List Char) : List Char := (line.drop 2).takeWhile (· ≠ ':')

def behindLabel (line : List Char) : List Char := (line.drop 2).dropWhile (· ≠ ':')

/-- The words between the colon and the column of characters. -/
def digitFields (line : List Char) : List (List Char) := words (((behindLabel line).drop 2).take 48)

/-- The column of characters. -/
def characters (line : List Char) : List Char := ((behindLabel line).drop 53).take 16

/-! ### Words -/

theorem words_append (cs ds : List Char) : words (cs ++ ' ' :: ds) = words cs ++ words ds := by
  unfold words
  rw [List.splitOn_append_cons_self, List.filter_append]

theorem words_intercalate (fields : List (List Char)) :
    words ([' '].intercalate fields) = fields.flatMap words := by
  induction fields with
  | nil => rfl
  | cons field fields ih =>
    cases fields with
    | nil => simp
    | cons next fields =>
      rw [List.intercalate_cons_cons, List.append_assoc, List.singleton_append, words_append, ih,
        List.flatMap_cons (x := field)]

theorem words_of_notMem {cs : List Char} (solid : ' ' ∉ cs) (nonempty : cs ≠ []) :
    words cs = [cs] := by
  rw [words, List.splitOn_eq_singleton solid, List.filter_singleton, decide_eq_true nonempty]
  rfl

theorem length_intercalate {fields : List (List Char)} (two : ∀ field ∈ fields, field.length = 2) :
    ([' '].intercalate fields).length = 3 * fields.length - 1 := by
  induction fields with
  | nil => rfl
  | cons field fields ih =>
    rw [List.forall_mem_cons] at two
    have rest := ih two.2
    cases fields with
    | nil => simpa using two.1
    | cons next fields =>
      rw [List.intercalate_cons_cons, List.length_append, List.length_append, rest, two.1]
      simp only [List.length_cons, List.length_nil]
      omega

/-! ### Bytes as digits -/

theorem toList_byteHex (b : UInt8) :
    (byteHex b).toList = (Nat.toDigits 16 b.toNat).leftpad 2 '0' := by
  have positive : ¬(b.toNat : Int) < 0 := by omega
  simp only [byteHex, hex, if_neg positive, String.empty_append, String.toList_ofList,
    Int.natAbs_natCast]
  rfl

theorem areDigits_byteHex (b : UInt8) : Numeral.AreDigits 16 (byteHex b).toList := by
  rw [toList_byteHex]
  exact Numeral.areDigits_leftpad 2 (by decide) (Numeral.areDigits_toDigits _ (by decide))

theorem length_byteHex (b : UInt8) : (byteHex b).toList.length = 2 := by
  have short : (Nat.toDigits 16 b.toNat).length ≤ 2 :=
    (Nat.length_toDigits_le_iff (by decide) (by decide)).mpr b.toNat_lt
  rw [toList_byteHex, List.length_leftpad, Nat.max_eq_left short]

theorem value_byteHex (b : UInt8) : Numeral.value 16 (byteHex b).toList = b.toNat := by
  rw [toList_byteHex, Numeral.value_leftpad, Numeral.value_toDigits _ (by decide) (by decide)]

theorem words_cellHex (cell : Option UInt8) :
    words (cellHex cell).toList = (cell.map fun b => (byteHex b).toList).toList := by
  cases cell with
  | none => decide
  | some b =>
    have digits := areDigits_byteHex b
    have solid : ' ' ∉ (byteHex b).toList :=
      Numeral.notMem_of_areDigits (by decide) (Nat.le_refl 16) digits
    have nonempty : (byteHex b).toList ≠ [] := by
      rw [← List.length_pos_iff, length_byteHex]
      decide
    exact words_of_notMem solid nonempty

theorem length_cellHex (cell : Option UInt8) : (cellHex cell).toList.length = 2 := by
  cases cell with
  | none => rfl
  | some b => exact length_byteHex b

/-! ### Lines -/

def digitColumns (cells : List (Option UInt8)) : List Char :=
  let hexes := cells.map fun cell => (cellHex cell).toList
  [' '].intercalate (hexes.take 8) ++ ' ' :: ' ' :: [' '].intercalate (hexes.drop 8)

def body (cells : List (Option UInt8)) : List Char :=
  ':' :: ' ' :: (digitColumns cells ++ ' ' :: ' ' :: '|' :: (cells.map cellChar ++ ['|']))

theorem toList_line (row : Row) :
    row.line.toList = ' ' :: ' ' :: ((addressHex row.address).toList ++ body row.cells) := by
  simp only [Row.line, body, digitColumns, String.toList_append, String.toList_intercalate,
    List.map_take, List.map_drop, List.map_map, String.toList_ofList, List.append_assoc]
  rfl

theorem length_digitColumns {cells : List (Option UInt8)} (full : cells.length = 16) :
    (digitColumns cells).length = 48 := by
  have two : ∀ field ∈ cells.map (fun cell => (cellHex cell).toList), field.length = 2 := by
    intro field mem
    obtain ⟨cell, -, rfl⟩ := List.mem_map.mp mem
    exact length_cellHex cell
  unfold digitColumns
  dsimp only
  rw [List.length_append, List.length_cons, List.length_cons,
    length_intercalate fun field mem => two field (List.mem_of_mem_take mem),
    length_intercalate fun field mem => two field (List.mem_of_mem_drop mem), List.length_take,
    List.length_drop, List.length_map, full]
  rfl

theorem words_digitColumns (cells : List (Option UInt8)) :
    words (digitColumns cells) = cells.filterMap (·.map fun b => (byteHex b).toList) := by
  have gap (cs : List Char) : words (' ' :: cs) = words cs := words_append [] cs
  unfold digitColumns
  dsimp only
  rw [words_append, gap, words_intercalate, words_intercalate, ← List.flatMap_append,
    List.take_append_drop, List.flatMap_map, List.filterMap_eq_flatMap_toList]
  simp only [words_cellHex]

theorem length_body {cells : List (Option UInt8)} (full : cells.length = 16) :
    (body cells).length = 70 := by
  simp only [body, List.length_cons, List.length_append, List.length_map, length_digitColumns full,
    full, List.length_nil]

theorem words_take_body {cells : List (Option UInt8)} (full : cells.length = 16) :
    words (((body cells).drop 2).take 48) =
      cells.filterMap (·.map fun b => (byteHex b).toList) := by
  have columns : ((body cells).drop 2).take 48 = digitColumns cells := by
    rw [body, List.drop_succ_cons, List.drop_succ_cons, List.drop_zero]
    exact List.take_left' (length_digitColumns full)
  rw [columns, words_digitColumns]

theorem drop_body {cells : List (Option UInt8)} (full : cells.length = 16) :
    (body cells).drop 52 = '|' :: (cells.map cellChar ++ ['|']) := by
  have columns := length_digitColumns full
  rw [body, List.drop_succ_cons, List.drop_succ_cons, List.drop_append,
    List.drop_eq_nil_of_le (by omega), columns]
  rfl

theorem bars_body {cells : List (Option UInt8)} (full : cells.length = 16) :
    (body cells)[52]? = some '|' ∧ (body cells)[69]? = some '|' := by
  have behind (k : Nat) : (body cells)[52 + k]? = ('|' :: (cells.map cellChar ++ ['|']))[k]? := by
    rw [← List.getElem?_drop, drop_body full]
  have last : (cells.map cellChar).length = 16 := by rw [List.length_map, full]
  refine ⟨behind 0, (behind 17).trans ?_⟩
  rw [List.getElem?_cons_succ, List.getElem?_append_right (Nat.le_of_eq last), last]
  rfl

/-! ### The lines of a dump -/

variable {bytes : Array UInt8} {stop : Int}

/-- The byte at a place of the dump, if the place lies before its end. -/
def cellOf (bytes : Array UInt8) (stop : Int) (i : Nat) : Option UInt8 :=
  if (i : Int) < stop then bytes[i]? else none

/-- The line that begins at a place of the dump. -/
def rowOf (bytes : Array UInt8) (stop : Int) (a : Nat) : Row :=
  ⟨a, (List.range rowSize).map fun k => cellOf bytes stop (a + k)⟩

/-- The bytes that are dumped, none if `stop` does not lie behind `a`. -/
def dumped (bytes : Array UInt8) (a : Nat) (stop : Int) : List UInt8 :=
  bytes.toList.extract a stop.toNat

theorem cellAt_eq (fits : fitsWord bytes.size = true) (within : stop ≤ bytes.size) (i : Nat) :
    cellAt bytes stop i = .ok (cellOf bytes stop i) := by
  unfold cellAt cellOf
  by_cases before : (i : Int) < stop
  · have inside : i < bytes.size := by omega
    have word : (i : Int) < wordBound := by
      simp only [fitsWord, Bool.and_eq_true, decide_eq_true_eq] at fits
      omega
    rw [if_pos before, if_pos before, Disassembly.byteAt_natCast inside word,
      Array.getElem?_eq_getElem inside, map_ok]
  · rw [if_neg before, if_neg before]

theorem rowAt_eq (fits : fitsWord bytes.size = true) (within : stop ≤ bytes.size) (a : Nat) :
    rowAt bytes stop a = .ok (rowOf bytes stop a) := by
  have cells : (fun k : Nat => cellAt bytes stop (a + k)) =
      fun k => pure (cellOf bytes stop (a + k)) :=
    funext fun k => cellAt_eq fits within (a + k)
  rw [rowAt, cells, List.mapM_pure]
  rfl

theorem rowsFrom_eq (fits : fitsWord bytes.size = true) (within : stop ≤ bytes.size) (n a : Nat) :
    rowsFrom bytes stop n a =
      .ok ((List.range n).map fun j => rowOf bytes stop (a + j * rowSize)) := by
  induction n generalizing a with
  | zero => rfl
  | succ n ih =>
    have next : ((a : Int) + rowSize) = ((a + rowSize : Nat) : Int) := rfl
    have moved (j : Nat) : a + rowSize + j * rowSize = a + (j + 1) * rowSize := by
      rw [Nat.succ_mul]
      omega
    rw [rowsFrom, rowAt_eq fits within, next, ih]
    simp only [ok_bind, pure_eq_ok, moved, List.range_succ_eq_map, List.map_cons, List.map_map,
      Nat.zero_mul, Nat.add_zero]
    rfl

theorem lines_eq (fits : fitsWord bytes.size = true) (a : Nat) (count : Int) :
    let stop := min (a + count) bytes.size
    lines bytes a count = .ok ((List.range (((stop - a).toNat + 15) / 16)).map fun j =>
      (rowOf bytes stop (a + j * rowSize)).line) := by
  have number (z : Int) : ((z + 15) / 16).toNat = (z.toNat + 15) / 16 := by omega
  have within : min ((a : Int) + count) bytes.size ≤ bytes.size := Int.min_le_right _ _
  rw [lines, rows, rowsFrom_eq fits within, number, map_ok, List.map_map]
  rfl

/-! ### Bytes on lines -/

theorem cellOf_eq (a i : Nat) : cellOf bytes stop (a + i) = (dumped bytes a stop)[i]? := by
  unfold cellOf dumped
  rw [List.extract_eq_take_drop, List.getElem?_take, List.getElem?_drop, Array.getElem?_toList]
  by_cases before : ((a + i : Nat) : Int) < stop
  · rw [if_pos before, if_pos (by omega)]
  · rw [if_neg before, if_neg (by omega)]

theorem filterMap_range {α : Type} (l : List α) (i n : Nat) :
    ((List.range n).filterMap fun k => l[i + k]?) = l.extract i (i + n) := by
  rw [List.extract_eq_take_drop, Nat.add_sub_cancel_left]
  induction n with
  | zero => rfl
  | succ n ih =>
    rw [List.range_succ, List.filterMap_append, ih, List.take_add_one, List.getElem?_drop,
      List.filterMap_eq_flatMap_toList, List.flatMap_singleton]

/-- Line after line, the places that hold a byte hold the bytes that are dumped. -/
theorem flatMap_rowOf (bytes : Array UInt8) (a : Nat) (stop : Int) {n : Nat}
    (enough : (dumped bytes a stop).length ≤ n * rowSize) :
    ((List.range n).flatMap fun j => (rowOf bytes stop (a + j * rowSize)).cells.filterMap id) =
      dumped bytes a stop := by
  have row (j : Nat) : (rowOf bytes stop (a + j * rowSize)).cells.filterMap id =
      (dumped bytes a stop).extract (j * rowSize) ((j + 1) * rowSize) := by
    rw [Nat.succ_mul, ← filterMap_range, rowOf, List.filterMap_map]
    apply List.filterMap_congr
    intro k _
    rw [Function.comp_apply, id, Nat.add_assoc, cellOf_eq]
  simp only [row]
  rw [flatMap_extract, List.take_of_length_le enough]

theorem length_cells (bytes : Array UInt8) (stop : Int) (a : Nat) :
    (rowOf bytes stop a).cells.length = 16 := by
  rw [rowOf, List.length_map, List.length_range]
  rfl

theorem getElem?_cells (a j : Nat) {k : Nat} (inside : k < 16) :
    (rowOf bytes stop (a + j * rowSize)).cells[k]? = some (dumped bytes a stop)[16 * j + k]? := by
  have place : a + j * rowSize + k = a + (16 * j + k) := by
    rw [rowSize]
    omega
  have column : (List.range rowSize)[k]? = some k := List.getElem?_range inside
  rw [rowOf, List.getElem?_map, column, Option.map_some, place, cellOf_eq]

/-! ### Lines read back -/

theorem ne_colon_of_mem_addressHex (a : Nat) :
    ∀ c ∈ (addressHex a).toList, decide (c ≠ ':') = true := by
  have digits := Numeral.areDigits_leftpad (5 - 2) (by decide)
    (Numeral.areDigits_toDigits a (show 1 < 16 by decide))
  have no_digit := Numeral.notMem_of_areDigits (c := ':') (by decide) (Nat.le_refl 16) digits
  have colon : ':' ∉ (addressHex a).toList := by
    rw [addressHex, Numeral.toList_prefixedHex]
    simpa using no_digit
  intro c mem
  exact decide_eq_true fun same => colon (same ▸ mem)

theorem drop_line (a : Nat) : (rowOf bytes stop a).line.toList.drop 2 =
    (addressHex a).toList ++ body (rowOf bytes stop a).cells := by
  rw [toList_line]
  rfl

theorem label_line (a : Nat) : label (rowOf bytes stop a).line.toList = (addressHex a).toList := by
  rw [label, drop_line, List.takeWhile_append_of_pos (ne_colon_of_mem_addressHex a)]
  exact List.append_nil _

theorem behindLabel_line (a : Nat) :
    behindLabel (rowOf bytes stop a).line.toList = body (rowOf bytes stop a).cells := by
  rw [behindLabel, drop_line, List.dropWhile_append_of_pos (ne_colon_of_mem_addressHex a)]
  rfl

theorem digitFields_line (a : Nat) : digitFields (rowOf bytes stop a).line.toList =
    (rowOf bytes stop a).cells.filterMap (·.map fun b => (byteHex b).toList) := by
  rw [digitFields, behindLabel_line, words_take_body (length_cells bytes stop a)]

theorem areDigits_of_mem_digitFields {a : Nat} {field : List Char}
    (mem : field ∈ digitFields (rowOf bytes stop a).line.toList) :
    field.length = 2 ∧ Numeral.AreDigits 16 field := by
  rw [digitFields_line] at mem
  obtain ⟨cell, -, shown⟩ := List.mem_filterMap.mp mem
  obtain ⟨b, -, rfl⟩ := Option.map_eq_some_iff.mp shown
  exact ⟨length_byteHex b, areDigits_byteHex b⟩

theorem map_value_digitFields (a : Nat) :
    (digitFields (rowOf bytes stop a).line.toList).map (Numeral.value 16) =
      ((rowOf bytes stop a).cells.filterMap id).map UInt8.toNat := by
  rw [digitFields_line, List.map_filterMap, List.map_filterMap]
  apply List.filterMap_congr
  intro cell _
  cases cell with
  | none => rfl
  | some b => exact congrArg some (value_byteHex b)

theorem characters_line (a : Nat) : characters (rowOf bytes stop a).line.toList =
    (rowOf bytes stop a).cells.map cellChar := by
  have full := length_cells bytes stop a
  have column : (body (rowOf bytes stop a).cells).drop 53 =
      (rowOf bytes stop a).cells.map cellChar ++ ['|'] := by
    rw [← List.drop_drop (i := 1) (j := 52), drop_body full]
    rfl
  rw [characters, behindLabel_line, column]
  exact List.take_left' (by rw [List.length_map, full])

theorem cellChar_eq (cell : Option UInt8) : cellChar cell = match cell with
    | some b => if 0x20 ≤ b.toNat ∧ b.toNat ≤ 0x7E then Char.ofNat b.toNat else '.'
    | none => ' ' := by
  cases cell <;> simp only [cellChar, Nat.lt_succ_iff]

/-- A dump of `count` bytes from position `a` on, cut off at the end of the bytes, goes through and
can be read back: it has a line for each sixteen bytes begun, labelled with the position of its
first byte; the two-digit fields of all lines are the bytes dumped; all lines are of one width
behind the label, and sixteen characters in a fixed column between two bars show the bytes that are
printable ASCII, a dot for another byte and a blank where there is none. The number of bytes held
always fits a machine word. -/
theorem dump_reads_back (bytes : Array UInt8) (fits : fitsWord bytes.size = true) (a : Nat)
    (count : Int) :
    let stop := min (a + count) bytes.size
    ∃ dump, lines bytes a count = .ok dump ∧
      dump.length = ((stop - a).toNat + 15) / 16 ∧
      (∀ j (inside : j < dump.length),
        let line := dump[j].toList
        label line = (addressHex (a + 16 * j)).toList ∧
        Numeral.parse .sixteen (label line) = .ok (a + 16 * j) ∧
        (behindLabel line).length = 70 ∧
        (behindLabel line)[52]? = some '|' ∧ (behindLabel line)[69]? = some '|' ∧
        (∀ field ∈ digitFields line, field.length = 2 ∧ Numeral.AreDigits 16 field) ∧
        ∀ k < 16, (characters line)[k]? = some (match (dumped bytes a stop)[16 * j + k]? with
          | some b => if 0x20 ≤ b.toNat ∧ b.toNat ≤ 0x7E then Char.ofNat b.toNat else '.'
          | none => ' ')) ∧
      (dump.flatMap fun line => (digitFields line.toList).map (Numeral.value 16)) =
        (dumped bytes a stop).map UInt8.toNat := by
  intro stop
  have enough : (dumped bytes a stop).length ≤ ((stop - a).toNat + 15) / 16 * rowSize := by
    have size : (dumped bytes a stop).length = min (stop.toNat - a) (bytes.size - a) := by
      simp only [dumped, List.extract_eq_take_drop, List.length_take, List.length_drop,
        Array.length_toList]
    rw [rowSize]
    omega
  refine ⟨_, lines_eq fits a count, by rw [List.length_map, List.length_range], ?_, ?_⟩
  · intro j _ line
    have shown : line = (rowOf bytes stop (a + j * rowSize)).line.toList := by
      simp only [line, List.getElem_map, List.getElem_range, stop]
    have labelled : label line = (addressHex (a + 16 * j : Nat)).toList := by
      rw [shown, label_line, rowSize, Nat.mul_comm]
    have full := length_cells bytes stop (a + j * rowSize)
    have behind : behindLabel line = body (rowOf bytes stop (a + j * rowSize)).cells := by
      rw [shown, behindLabel_line]
    obtain ⟨left, right⟩ := bars_body full
    refine ⟨labelled, ?_, ?_, ?_, ?_, ?_, ?_⟩
    · rw [labelled]
      exact Numeral.parse_prefixedHex 5 _
    · rw [behind, length_body full]
    · rw [behind, left]
    · rw [behind, right]
    · intro field mem
      exact areDigits_of_mem_digitFields (shown ▸ mem)
    · intro k inside
      rw [shown, characters_line, List.getElem?_map, getElem?_cells a j inside, Option.map_some]
      exact congrArg some (cellChar_eq _)
  · rw [List.flatMap_map]
    simp only [map_value_digitFields]
    rw [← List.map_flatMap, flatMap_rowOf bytes a stop enough]

/-- The last line of a dump shows two bytes and fourteen blanks. -/
theorem dump_reads_back_of_partial_line :
    let bytes : Array UInt8 :=
      #[0, 0x41, 0x7E, 0x7F, 1, 2, 3, 4, 5, 6, 7, 8, 9, 10, 11, 12, 13, 0x20, 0x1F]
    fitsWord bytes.size = true ∧
    ∃ dump, lines bytes 1 100 = .ok dump ∧ dump.length = 2 ∧
      (∃ line, dump[1]? = some line ∧ Numeral.parse .sixteen (label line.toList) = .ok 17 ∧
        (characters line.toList)[0]? = some ' ' ∧ (characters line.toList)[1]? = some '.' ∧
        (characters line.toList)[2]? = some ' ') ∧
      (dump.flatMap fun line => (digitFields line.toList).map (Numeral.value 16)) =
        [0x41, 0x7E, 0x7F, 1, 2, 3, 4, 5, 6, 7, 8, 9, 10, 11, 12, 13, 0x20, 0x1F] := by
  intro bytes
  have fits : fitsWord bytes.size = true := by decide
  have stop : min ((1 : Nat) + 100 : Int) bytes.size = 19 := by decide
  obtain ⟨dump, goes, number, shown, back⟩ := dump_reads_back bytes fits 1 100
  rw [stop] at number shown back
  have two : dump.length = 2 := by
    rw [number]
    rfl
  have inside : 1 < dump.length := by omega
  obtain ⟨-, position, -, -, -, -, chars⟩ := shown 1 inside
  refine ⟨fits, dump, goes, two, ⟨dump[1], List.getElem?_eq_getElem inside, position, ?_⟩, back⟩
  exact ⟨chars 0 (by decide), chars 1 (by decide), chars 2 (by decide)⟩

end ChipEight.HexDump
