import ChipEight.Assembly.Layout
import ChipEight.Proofs.Except

/-!
# What the first pass makes of lines

`Laid` says in one place what lines add to a layout: each label takes the address at which it
stands, each statement takes a row and moves the address on by its size. All that is proved about
layouts comes from there.
-/

namespace ChipEight.Assembly

open Text

/-- The labels and the address before some lines, and the rows that the lines make, the labels and
the address after them. -/
inductive Laid : Labels → Int → List SourceLine → List Row → Labels → Int → Prop where
  | nil {labels : Labels} {address : Int} : Laid labels address [] [] labels address
  | label {labels after : Labels} {address stop : Int} {line : SourceLine}
      {lines : List SourceLine} {rows : List Row} {name : List Char}
      (named : labelName? line.text = some name) (fresh : labels.value? name = none)
      (valid : isLabelName name = true)
      (rest : Laid (labels.push (name, address)) address lines rows after stop) :
      Laid labels address (line :: lines) rows after stop
  | statement {labels after : Labels} {address stop : Int} {line : SourceLine}
      {lines : List SourceLine} {rows : List Row} {statement : Statement} {size : Nat}
      (unnamed : labelName? line.text = none) (made : Statement.ofText line.text = .ok statement)
      (sized : statement.size address = .ok size)
      (rest : Laid labels (address + size) lines rows after stop) :
      Laid labels address (line :: lines) (⟨line, address, statement, size⟩ :: rows) after stop

/-! ### The fold -/

theorem addLabel_eq_ok {layout next : Layout} {name : List Char} :
    layout.addLabel name = .ok next ↔
      layout.labels.value? name = none ∧ isLabelName name = true ∧
        { layout with labels := layout.labels.push (name, layout.next) } = next := by
  unfold Layout.addLabel
  split
  · rename_i taken
    simp [Option.isSome_iff_ne_none.mp taken]
  · rename_i fresh
    rw [Option.not_isSome_iff_eq_none] at fresh
    split
    · rename_i invalid
      rw [Bool.not_eq_true'] at invalid
      simp [invalid]
    · rename_i valid
      rw [Bool.not_eq_true', Bool.not_eq_false] at valid
      simp [fresh, valid]

theorem addStatement_eq_ok {layout next : Layout} {line : SourceLine} :
    layout.addStatement line = .ok next ↔
      ∃ statement size, Statement.ofText line.text = .ok statement ∧
        statement.size layout.next = .ok size ∧
        { layout with
          rows := layout.rows.push ⟨line, layout.next, statement, size⟩
          next := layout.next + size } = next := by
  simp only [Layout.addStatement, bind_eq_ok, pure_eq_ok, Except.ok.injEq, exists_and_left]

/-- Folding lines into a layout is laying them behind it. -/
theorem foldlM_addLine_eq_ok {lines : List SourceLine} {before after : Layout} :
    lines.foldlM Layout.addLine before = .ok after ↔
      ∃ rows, Laid before.labels before.next lines rows after.labels after.next ∧
        after.rows = before.rows ++ rows.toArray := by
  -- The layout before the lines is any: each line changes it for those that follow.
  induction lines generalizing before with
  | nil =>
    simp only [List.foldlM_nil, pure_eq_ok, Except.ok.injEq]
    constructor
    · rintro rfl
      exact ⟨[], .nil, by simp⟩
    · rintro ⟨rows, laid, appended⟩
      cases before
      cases after
      cases laid
      simpa using appended.symm
  | cons line lines ih =>
    rw [List.foldlM_cons, bind_eq_ok]
    cases named : labelName? line.text with
    | some name =>
      simp only [Layout.addLine, named, mapError_eq_ok, addLabel_eq_ok, ih]
      constructor
      · rintro ⟨_, ⟨fresh, valid, rfl⟩, rows, laid, appended⟩
        exact ⟨rows, .label named fresh valid laid, appended⟩
      · rintro ⟨rows, laid, appended⟩
        cases laid with
        | label named' fresh valid laid =>
          obtain rfl := Option.some.inj (named.symm.trans named')
          exact ⟨_, ⟨fresh, valid, rfl⟩, rows, laid, appended⟩
        | statement unnamed => exact absurd (named.symm.trans unnamed) (by simp)
    | none =>
      simp only [Layout.addLine, named, mapError_eq_ok, addStatement_eq_ok, ih]
      constructor
      · rintro ⟨_, ⟨statement, size, made, sized, rfl⟩, rows, laid, appended⟩
        exact ⟨_, .statement named made sized laid, by simp [appended]⟩
      · rintro ⟨rows, laid, appended⟩
        cases laid with
        | label named' => exact absurd (named.symm.trans named') (by simp)
        | statement _ made sized laid =>
          exact ⟨_, ⟨_, _, made, sized, rfl⟩, _, laid, by simp [appended]⟩

theorem ofLines_eq_ok {base : Int} {lines : List SourceLine} {layout : Layout} :
    Layout.ofLines base lines = .ok layout ↔
      Laid #[] base lines layout.rows.toList layout.labels layout.next := by
  rw [Layout.ofLines, foldlM_addLine_eq_ok]
  constructor
  · rintro ⟨rows, laid, appended⟩
    simpa [appended] using laid
  · intro laid
    exact ⟨_, laid, by simp⟩

/-! ### Labels -/

theorem value?_push (labels : Labels) (name other : List Char) (value : Int) :
    Labels.value? (labels.push (other, value)) name =
      (labels.value? name).or (if other = name then some value else none) := by
  unfold Labels.value?
  rw [Array.find?_push]
  cases labels.find? fun label => label.1 == name with
  | some label => simp
  | none => by_cases same : other = name <;> simp [same]

namespace Laid

variable {labels after : Labels} {address stop : Int} {lines : List SourceLine} {rows : List Row}

theorem value?_mono (laid : Laid labels address lines rows after stop) {name : List Char}
    {value : Int} (known : labels.value? name = some value) : after.value? name = some value := by
  induction laid with
  | nil => exact known
  | label _ _ _ _ ih => exact ih (by rw [value?_push, known, Option.some_or])
  | statement _ _ _ _ ih => exact ih known

theorem exists_line (laid : Laid labels address lines rows after stop) {name : List Char}
    {value : Int} (known : after.value? name = some value) :
    labels.value? name = some value ∨
      ∃ line ∈ lines, labelName? line.text = some name ∧ isLabelName name = true := by
  induction laid with
  | nil => exact .inl known
  | @label labels _ address _ line _ _ other named _ valid _ ih =>
    rcases ih known with known | ⟨line, mem, found⟩
    · rw [value?_push, Option.or_eq_some_iff] at known
      rcases known with known | ⟨-, own⟩
      · exact .inl known
      · split at own
        · rename_i same
          subst same
          exact .inr ⟨line, List.mem_cons_self, named, valid⟩
        · cases own
    · exact .inr ⟨line, List.mem_cons_of_mem _ mem, found⟩
  | statement _ _ _ _ ih =>
    rcases ih known with known | ⟨line, mem, found⟩
    · exact .inl known
    · exact .inr ⟨line, List.mem_cons_of_mem _ mem, found⟩

/-! ### Rows -/

theorem line_mem (laid : Laid labels address lines rows after stop) :
    ∀ row ∈ rows, row.line ∈ lines := by
  induction laid with
  | nil => simp
  | label _ _ _ _ ih => exact fun row mem => List.mem_cons_of_mem _ (ih row mem)
  | statement _ _ _ _ ih =>
    intro row mem
    rcases List.mem_cons.mp mem with rfl | mem
    · exact List.mem_cons_self
    · exact List.mem_cons_of_mem _ (ih row mem)

theorem size_of_mem (laid : Laid labels address lines rows after stop) :
    ∀ row ∈ rows, row.statement.size row.address = .ok row.size := by
  induction laid with
  | nil => simp
  | label _ _ _ _ ih => exact ih
  | statement _ _ sized _ ih =>
    intro row mem
    rcases List.mem_cons.mp mem with rfl | mem
    · exact sized
    · exact ih row mem

theorem le_stop (laid : Laid labels address lines rows after stop) : address ≤ stop := by
  induction laid with
  | nil => exact Int.le_refl _
  | label _ _ _ _ ih => exact ih
  | statement _ _ _ _ ih => omega

theorem bounds_of_mem (laid : Laid labels address lines rows after stop) :
    ∀ row ∈ rows, address ≤ row.address ∧ row.address + row.size ≤ stop := by
  induction laid with
  | nil => simp
  | label _ _ _ _ ih => exact ih
  | statement _ _ _ rest ih =>
    have behind := rest.le_stop
    refine List.forall_mem_cons.mpr ⟨⟨Int.le_refl _, behind⟩, fun row mem => ?_⟩
    have bounds := ih row mem
    omega

theorem append_iff {front back : List SourceLine} :
    Laid labels address (front ++ back) rows after stop ↔
      ∃ rows₁ rows₂ between middle, Laid labels address front rows₁ between middle ∧
        Laid between middle back rows₂ after stop ∧ rows₁ ++ rows₂ = rows := by
  constructor
  · intro laid
    induction front generalizing labels address rows with
    | nil => exact ⟨[], rows, labels, address, .nil, laid, rfl⟩
    | cons line front ih =>
      cases laid with
      | label named fresh valid rest =>
        obtain ⟨rows₁, rows₂, between, middle, laid₁, laid₂, same⟩ := ih rest
        exact ⟨rows₁, rows₂, between, middle, .label named fresh valid laid₁, laid₂, same⟩
      | statement unnamed made sized rest =>
        obtain ⟨rows₁, rows₂, between, middle, laid₁, laid₂, rfl⟩ := ih rest
        exact ⟨_, rows₂, between, middle, .statement unnamed made sized laid₁, laid₂, rfl⟩
  · rintro ⟨rows₁, rows₂, between, middle, laid₁, laid₂, rfl⟩
    induction laid₁ with
    | nil => exact laid₂
    | label named fresh valid _ ih => exact .label named fresh valid (ih laid₂)
    | statement unnamed made sized _ ih => exact .statement unnamed made sized (ih laid₂)

end Laid

end ChipEight.Assembly
