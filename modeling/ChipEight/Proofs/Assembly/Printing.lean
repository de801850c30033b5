import ChipEight.Proofs.Assembly.Listing

/-!
# Assembly that prints its listing

Here a source is assembled and its listing printed line by line: the labels are collected by
address, and those at the address of a row are taken out when the row comes up. What is printed is
the listing of the program, and an assembly that fails has printed nothing
(`assembly_prints_listing`).
-/

namespace ChipEight.Assembly

/-- The names at each address, in order of definition. -/
abbrev LabelGroups := List (Int × List (List Char))

namespace LabelGroups

/-- The groups with one more label, behind the others at its address. -/
def add (name : List Char) (address : Int) : LabelGroups → LabelGroups
  | [] => [(address, [name])]
  | (a, names) :: groups =>
    if a = address then (a, names ++ [name]) :: groups else (a, names) :: add name address groups

/-- The labels of a program by address. -/
def ofLabels (labels : List (List Char × Int)) : LabelGroups :=
  labels.foldl (fun groups label => add label.1 label.2 groups) []

/-- The names at an address, and the groups that are left without them. -/
def pop (address : Int) : LabelGroups → List (List Char) × LabelGroups
  | [] => ([], [])
  | (a, names) :: groups =>
    if a = address then (names, groups)
    else
      let (found, left) := pop address groups
      (found, (a, names) :: left)

end LabelGroups

/-- Work that prints lines. What has been printed when it fails stays printed. -/
abbrev Printing := EStateM Error (List String)

namespace Printing

def say (line : String) : Printing Unit := modify (· ++ [line])

def orRaise {α : Type} : Except Error α → Printing α
  | .ok a => return a
  | .error error => throw error

def sayLabels (names : List (List Char)) : Printing Unit :=
  names.forM fun name => say (labelLine name)

/-- Prints the pieces, each below the labels at its address that have not been printed yet. The
labels that are left come out. -/
def sayPieces (groups : LabelGroups) : List Piece → Printing LabelGroups
  | [] => return groups
  | piece :: pieces => do
    let (names, left) := groups.pop piece.row.address
    sayLabels names
    say piece.line
    sayPieces left pieces

/-- Prints the labels that are left, by address. -/
def sayRest (groups : LabelGroups) : Printing Unit :=
  (groups.mergeSort fun a b => a.1 ≤ b.1).forM fun group => sayLabels group.2

def sayListing (groups : LabelGroups) (pieces : List Piece) : Printing Unit := do
  let left ← sayPieces groups pieces
  sayRest left

/-- Assembles `source` for the address `base` and prints the listing if there shall be one. -/
def assemble [Heap] (listing : Bool) (source : List Char) (base : Int) :
    Printing (Array UInt8) := do
  let layout ← orRaise (Layout.ofLines base (sourceLines source))
  let pieces ← orRaise (layout.rows.toList.mapM (Row.piece base layout.labels))
  if memoryEnd < layout.next then throw (pastMemory layout.rows layout.next)
  if listing then sayListing (.ofLabels layout.labels.toList) pieces
  return (Program.mk layout.labels pieces).image

end Printing

/-! ### Labels by address -/

namespace LabelGroups

theorem pop_add_same (name : List Char) (address : Int) (groups : LabelGroups) :
    (groups.add name address).pop address =
      ((groups.pop address).1 ++ [name], (groups.pop address).2) := by
  induction groups with
  | nil => simp [add, pop]
  | cons group groups ih =>
    rw [add, pop]
    split
    · rename_i same
      rw [pop, if_pos same]
    · rename_i other
      rw [pop, if_neg other, ih]

theorem pop_add_other (name : List Char) {address other : Int} (differ : other ≠ address)
    (groups : LabelGroups) : (groups.add name other).pop address =
      ((groups.pop address).1, (groups.pop address).2.add name other) := by
  induction groups with
  | nil => simp [add, pop, differ]
  | cons group groups ih =>
    rw [add, pop]
    split
    · rename_i same
      have here : group.1 ≠ address := same ▸ differ
      rw [pop, if_neg here, if_neg here, add, if_pos same]
    · rename_i elsewhere
      rw [pop]
      split
      · rfl
      · rw [ih, add, if_neg elsewhere]

theorem ofLabels_concat (labels : List (List Char × Int)) (label : List Char × Int) :
    ofLabels (labels ++ [label]) = add label.1 label.2 (ofLabels labels) :=
  List.foldl_concat ..

/-- Taking out an address leaves the groups of the other labels. -/
theorem pop_ofLabels (address : Int) (labels : List (List Char × Int)) :
    (ofLabels labels).pop address = ((labels.filter (·.2 == address)).map Prod.fst,
      ofLabels (labels.filter fun label => !(label.2 == address))) := by
  -- From the last label on, as each is added to the groups of those before it.
  induction labels using List.reverseRecOn with
  | nil => rfl
  | append_singleton labels label ih =>
    rw [ofLabels_concat, List.filter_append, List.filter_append]
    by_cases same : label.2 = address
    · rw [same, pop_add_same, ih]
      simp [same]
    · rw [pop_add_other _ same, ih]
      simp [same, ofLabels_concat]

/-- Labels that share an address make one group. -/
theorem ofLabels_of_forall {address : Int} {labels : List (List Char × Int)} (some : labels ≠ [])
    (all : ∀ label ∈ labels, label.2 = address) :
    ofLabels labels = [(address, labels.map Prod.fst)] := by
  induction labels using List.reverseRecOn with
  | nil => exact absurd rfl some
  | append_singleton labels label ih =>
    obtain ⟨front, last⟩ := List.forall_mem_append.mp all
    have own := last label List.mem_cons_self
    rw [ofLabels_concat, own]
    by_cases empty : labels = []
    · rw [empty]
      rfl
    · rw [ih empty front, add, if_pos rfl, List.map_append]
      rfl

end LabelGroups

/-! ### What is printed -/

namespace Printing

variable {α β : Type} {said : List String}

theorem run_orRaise_bind (x : Except Error α) (f : α → Printing β) :
    (orRaise x >>= f).run said = match x with
      | .ok a => (f a).run said
      | .error error => .error error said := by
  cases x <;> rfl

theorem run_say_bind (line : String) (next : Printing β) :
    (do say line; next).run said = next.run (said ++ [line]) := rfl

theorem run_sayLabels_bind (names : List (List Char)) (next : Printing β) :
    (do sayLabels names; next).run said = next.run (said ++ names.map labelLine) := by
  induction names generalizing said with
  | nil =>
    rw [List.map_nil, List.append_nil]
    rfl
  | cons name names ih =>
    rw [List.map_cons, List.append_cons, ← ih]
    rfl

theorem run_sayRest_of_forall {address : Int} {labels : List (List Char × Int)}
    (all : ∀ label ∈ labels, label.2 = address) :
    (sayRest (.ofLabels labels)).run said =
      .ok () (said ++ (labels.map Prod.fst).map labelLine) := by
  by_cases empty : labels = []
  · rw [empty, List.map_nil, List.map_nil, List.append_nil, sayRest, LabelGroups.ofLabels,
      List.foldl_nil, List.mergeSort_nil]
    rfl
  · rw [sayRest, LabelGroups.ofLabels_of_forall empty all, List.mergeSort_singleton]
    exact run_sayLabels_bind _ (pure ())

theorem listingFrom_nil_of_forall {address : Int} {labels : List (List Char × Int)}
    (all : ∀ label ∈ labels, label.2 = address) :
    listingFrom labels [] = (labels.map Prod.fst).map labelLine := by
  have sorted : labels.Pairwise fun a b => decide (a.2 ≤ b.2) = true :=
    List.pairwise_of_forall_mem_list fun a mem b mem' => by simp [all a mem, all b mem']
  rw [listingFrom, List.mergeSort_of_pairwise sorted, List.map_map]
  rfl

/-- Where the labels that stand at no piece share an address, what is printed is the listing. -/
theorem run_sayListing {address : Int} {pieces : List Piece} {labels : List (List Char × Int)}
    (placed : ∀ label ∈ labels,
      (∃ piece ∈ pieces, piece.row.address = label.2) ∨ label.2 = address) :
    (sayListing (.ofLabels labels) pieces).run said =
      .ok () (said ++ listingFrom labels pieces) := by
  induction pieces generalizing labels said with
  | nil =>
    have all : ∀ label ∈ labels, label.2 = address := by simpa using placed
    rw [listingFrom_nil_of_forall all]
    exact run_sayRest_of_forall all
  | cons piece pieces ih =>
    have later : ∀ label ∈ labels.filter fun label => !(label.2 == piece.row.address),
        (∃ piece ∈ pieces, piece.row.address = label.2) ∨ label.2 = address := by
      intro label mem
      obtain ⟨mem, other⟩ := List.mem_filter.mp mem
      rcases placed label mem with ⟨own, inside, same⟩ | last
      · rcases List.mem_cons.mp inside with rfl | inside
        · simp [same] at other
        · exact .inl ⟨own, inside, same⟩
      · exact .inr last
    rw [listingFrom, List.partition_eq_filter_filter, sayListing, sayPieces,
      LabelGroups.pop_ofLabels]
    dsimp only
    rw [bind_assoc, run_sayLabels_bind, bind_assoc, run_say_bind]
    refine (ih later).trans ?_
    simp [Function.comp_def]

theorem orRaise_bind (x : Except Error α) (f : α → Except Error β) :
    orRaise (x >>= f) = orRaise x >>= fun a => orRaise (f a) := by
  cases x <;> rfl

/-- Lines are printed only when the source has been assembled. -/
theorem assemble_eq [Heap] (listing : Bool) (source : List Char) (base : Int) :
    assemble listing source base = do
      let program ← orRaise (Assembly.assemble source base)
      if listing then sayListing (.ofLabels program.labels.toList) program.pieces
      return program.image := by
  rw [assemble, Assembly.assemble, orRaise_bind, bind_assoc]
  refine bind_congr fun layout => ?_
  rw [orRaise_bind, bind_assoc]
  refine bind_congr fun pieces => ?_
  dsimp only
  by_cases past : memoryEnd < layout.next
  · rw [if_pos past, if_pos past]
    rfl
  · rw [if_neg past, if_neg past]
    rfl

/-- To print a listing changes nothing else, and what fails prints nothing. -/
theorem run_assemble [Heap] (listing : Bool) (source : List Char) (base : Int) :
    (assemble listing source base).run said = match Assembly.assemble source base with
      | .ok program => .ok program.image (said ++ if listing then program.listing else [])
      | .error error => .error error said := by
  rw [assemble_eq, run_orRaise_bind]
  cases assembled : Assembly.assemble source base with
  | error error => rfl
  | ok program =>
    dsimp only
    cases listing with
    | false =>
      rw [if_neg Bool.false_ne_true, if_neg Bool.false_ne_true, List.append_nil]
      rfl
    | true =>
      rw [if_pos rfl, if_pos rfl, EStateM.run_bind, run_sayListing (piece_of_label assembled)]
      rfl

end Printing

/-- The listing of a program shows each sized line with its address, bytes and text, and each label
above the first sized line at its value or, at the end of the program, behind all. It shows nothing
else and nothing twice. Printing it leaves the image as it is, and a source that does not assemble
prints nothing. -/
theorem assembly_prints_listing [Heap] (source : List Char) (base : Int) :
    match assemble source base with
    | .ok program =>
      (∀ label ∈ labelLines source,
        program.labels.value? label.1 = some (program.addressOf base label.2) ∧
        (program.firstBehind base source label.2 = none →
          program.addressOf base label.2 = base + program.image.size)) ∧
      program.listing.Perm ((sizedLines source).map (program.rowText base) ++
        (labelLines source).map fun label => labelLine label.1) ∧
      ∀ listing said, (Printing.assemble listing source base).run said =
        .ok program.image (said ++ if listing then program.fullListing base source else [])
    | .error error =>
      ∀ listing said, (Printing.assemble listing source base).run said = .error error said := by
  cases assembled : assemble source base with
  | ok program =>
    refine ⟨fun label mem => ⟨value_of_label assembled mem, address_behind_all assembled mem⟩,
      listing_perm assembled, fun listing said => ?_⟩
    rw [Printing.run_assemble, assembled, ← listing_eq_fullListing assembled]
  | error error =>
    intro listing said
    rw [Printing.run_assemble, assembled]

example : let _ : Heap := .unlimited
    (assemble "a:\n.org 0x204\nb:\nc:\n.db 1, 2 ; two\nd:".toList 0x200).map Program.listing = .ok [
      "                 a:",
      "  200                .org 0x204",
      "                 b:",
      "                 c:",
      "  204  01 02         .db 1, 2",
      "                 d:"] := by decide +kernel

end ChipEight.Assembly
