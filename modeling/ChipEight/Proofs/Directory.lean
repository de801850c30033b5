import ChipEight.Directory
import ChipEight.Proofs.Except

/-!
# Files that are written and read again

A file that is written is read as it was written (`read_insert_self`), and every path that leads
somewhere else reads what it read before (`readText_insert`).
-/

namespace ChipEight

open Text

/-! ### Plain names -/

/-- A name without parts, by which a file of the working directory can be had. -/
structure IsPlainName (name : List Char) : Prop where
  nonempty : name ≠ []
  single : '/' ∉ name
  no_null : '\x00' ∉ name
  not_same : name ≠ samePart
  not_upper : name ≠ upperPart
  short : byteCount name ≤ nameLimit

namespace IsPlainName

variable {name : List Char} (plain : IsPlainName name)

include plain

theorem pathParts_eq : pathParts name = [name] := by
  rw [pathParts, List.splitOn_eq_singleton plain.single]
  simp [plain.nonempty]

theorem asksForFolder_eq : asksForFolder name = false := by
  rw [asksForFolder, beq_eq_false_iff_ne]
  exact fun last => plain.single (List.mem_of_getLast? last)

theorem pathFault?_eq : pathFault? name = none := by
  have short := plain.short
  simp only [pathFault?, List.contains_iff_mem]
  rw [if_neg plain.no_null, if_neg plain.nonempty, if_neg]
  unfold nameLimit at short
  unfold pathLimit
  omega

theorem startOf_eq : Place.startOf name = .here := by
  rw [Place.startOf, Place.here, Place.mk.injEq, beq_eq_false_iff_ne]
  exact ⟨fun first => plain.single (List.mem_of_head? first), rfl⟩

theorem go_here : Place.here.go name = Place.here.child name := by
  rw [Place.go, if_neg plain.not_same, if_neg plain.not_upper]

theorem follow_eq (d : Directory) : d.follow name [name] = .ok (Place.here.child name) := by
  have base : d.item .here = .folder := rfl
  rw [Directory.follow, plain.startOf_eq, List.foldlM_cons, Directory.advance, base]
  dsimp only
  rw [if_neg (Nat.not_lt.mpr plain.short), plain.go_here]
  rfl

end IsPlainName

/-! ### Reading what was written -/

namespace Directory

variable {d : Directory} {p q : Place} {bytes : Array UInt8}

/-- Whether a path leads to a place that is there. -/
def LeadsTo (d : Directory) (path : List Char) (p : Place) : Prop :=
  d.follow path (pathParts path ++ if asksForFolder path then [samePart] else []) = .ok p

theorem leadsTo_iff_of_isPlainName {name : List Char} (plain : IsPlainName name) :
    d.LeadsTo name p ↔ Place.here.child name = p := by
  rw [LeadsTo, plain.pathParts_eq, plain.asksForFolder_eq, if_neg Bool.false_ne_true,
    List.append_nil, plain.follow_eq, Except.ok.injEq]

theorem read_eq_ok {path : List Char} :
    d.read path = .ok bytes ↔
      pathFault? path = none ∧ ∃ p, d.LeadsTo path p ∧ d.item p = .file bytes := by
  unfold read
  split
  · rename_i fault wrong
    simp [wrong]
  · rename_i fine
    simp only [fine, true_and, bind_eq_ok, LeadsTo]
    refine exists_congr fun p => and_congr_right fun _ => ?_
    cases d.item p <;> simp

theorem write_of_isPlainName {name : List Char} (plain : IsPlainName name)
    (free : d.item (Place.here.child name) ≠ .folder) :
    d.write name bytes = .ok (d.insert (Place.here.child name) bytes) := by
  rw [write, plain.pathFault?_eq]
  dsimp only
  rw [plain.asksForFolder_eq, if_neg Bool.false_ne_true, plain.pathParts_eq, plain.follow_eq,
    ok_bind]
  split
  · rename_i folder
    exact absurd folder free
  · rfl
  · rfl

/-! ### Other files -/

theorem find?_insert_self : (d.insert p bytes).find? p = some bytes := by
  have gone : (d.files.filter fun file => decide (file.1 ≠ p)).find? (·.1 == p) = none := by
    rw [List.find?_eq_none]
    intro file mem same
    exact of_decide_eq_true (List.mem_filter.mp mem).2 (beq_iff_eq.mp same)
  rw [find?, insert, List.find?_append, gone, Option.none_or, List.find?_singleton,
    if_pos (beq_self_eq_true p)]
  rfl

theorem find?_insert_other (differ : q ≠ p) : (d.insert p bytes).find? q = d.find? q := by
  have kept : (d.files.filter fun file => decide (file.1 ≠ p)).find? (·.1 == q) =
      d.files.find? (·.1 == q) := by
    rw [List.find?_filter]
    congr 1
    funext file
    by_cases same : file.1 = q
    · simp [same, differ]
    · simp [same]
  rw [find?, insert, List.find?_append, kept, List.find?_cons_of_neg (by simpa using differ.symm),
    List.find?_nil, Option.or_none, find?]

theorem item_eq_folder : d.item p = .folder ↔ (p.isBase || d.folders.contains p) = true := by
  unfold item
  split
  · rename_i folder
    exact iff_of_true rfl folder
  · rename_i other
    refine iff_of_false ?_ other
    split <;> exact nofun

theorem item_insert_of_folder (folder : d.item q = .folder) :
    (d.insert p bytes).item q = .folder := item_eq_folder.mpr (item_eq_folder.mp folder :)

theorem item_insert_self (free : d.item p ≠ .folder) : (d.insert p bytes).item p = .file bytes := by
  rw [ne_eq, item_eq_folder] at free
  have free' : ¬(p.isBase || (d.insert p bytes).folders.contains p) = true := free
  rw [item, if_neg free', find?_insert_self]

theorem item_insert_other (differ : q ≠ p) : (d.insert p bytes).item q = d.item q := by
  rw [item, find?_insert_other differ]
  rfl

/-- A file that is put down bars no way that was open. -/
theorem LeadsTo.insert {path : List Char} (leads : d.LeadsTo path q) :
    (d.insert p bytes).LeadsTo path q := by
  unfold LeadsTo follow at leads ⊢
  generalize pathParts path ++ _ = parts at leads ⊢
  generalize Place.startOf path = start at leads ⊢
  induction parts generalizing start with
  | nil => exact leads
  | cons part parts ih =>
    rw [List.foldlM_cons, bind_eq_ok] at leads ⊢
    obtain ⟨next, advanced, leads⟩ := leads
    refine ⟨next, ?_, ih _ leads⟩
    unfold advance at advanced ⊢
    split at advanced
    · cases advanced
    · cases advanced
    · rename_i folder
      rw [item_insert_of_folder folder]
      exact advanced

theorem read_insert {path : List Char} {content : Array UInt8} (before : d.read path = .ok content)
    (apart : ¬d.LeadsTo path p) : (d.insert p bytes).read path = .ok content := by
  rw [read_eq_ok] at before ⊢
  obtain ⟨fine, q, leads, found⟩ := before
  have differ : q ≠ p := by
    rintro rfl
    exact apart leads
  exact ⟨fine, q, leads.insert, by rw [item_insert_other differ, found]⟩

theorem readText_insert {path text : List Char} (before : d.readText path = .ok text)
    (apart : ¬d.LeadsTo path p) : (d.insert p bytes).readText path = .ok text := by
  rw [readText, bind_eq_ok] at before ⊢
  obtain ⟨content, loaded, decoded⟩ := before
  exact ⟨content, mapError_eq_ok.mpr (read_insert (mapError_eq_ok.mp loaded) apart), decoded⟩

theorem read_insert_self {name : List Char} (plain : IsPlainName name)
    (free : d.item (Place.here.child name) ≠ .folder) :
    (d.insert (Place.here.child name) bytes).read name = .ok bytes :=
  read_eq_ok.mpr ⟨plain.pathFault?_eq, _, (leadsTo_iff_of_isPlainName plain).mpr rfl,
    item_insert_self free⟩

end Directory

end ChipEight
