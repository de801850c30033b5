import ChipEight.Text.Characters
import Mathlib.Data.List.DropRight

/-!
# Words and fields

What a printer puts on a line, a word and operands between commas, is cut into the same word and
operands again. Everything that is printed there is a word of ASCII letters and digits. In any text,
a field can be written over with another one, and the other fields stay.
-/

namespace ChipEight.Text

/-- A text of ASCII letters and digits, with at least one of them. -/
structure IsWord (cs : List Char) : Prop where
  nonempty : cs ≠ []
  alphanumeric : ∀ c ∈ cs, c.isAlphanum = true

theorem isWord_iff {cs : List Char} :
    (!cs.isEmpty && cs.all Char.isAlphanum) = true ↔ IsWord cs := by
  rw [Bool.and_eq_true, Bool.not_eq_true', List.isEmpty_eq_false_iff, List.all_eq_true]
  exact ⟨fun h => ⟨h.1, h.2⟩, fun h => ⟨h.nonempty, h.alphanumeric⟩⟩

instance (cs : List Char) : Decidable (IsWord cs) := decidable_of_iff _ isWord_iff

theorem isAlphanum_bounds {c : Char} (h : c.isAlphanum = true) :
    (48 ≤ c.toNat ∧ c.toNat ≤ 57) ∨ (65 ≤ c.toNat ∧ c.toNat ≤ 90) ∨
      (97 ≤ c.toNat ∧ c.toNat ≤ 122) := by
  rcases (Bool.or_eq_true _ _).mp h with alpha | digit
  · rcases (Bool.or_eq_true _ _).mp alpha with upper | lower
    · exact .inr (.inl (of_decide_eq_true upper))
    · obtain ⟨first, last⟩ := (Bool.and_eq_true _ _).mp lower
      exact .inr (.inr ⟨of_decide_eq_true first, of_decide_eq_true last⟩)
  · obtain ⟨first, last⟩ := (Bool.and_eq_true _ _).mp digit
    exact .inl ⟨of_decide_eq_true first, of_decide_eq_true last⟩

theorem isBlank_of_isAlphanum {c : Char} (h : c.isAlphanum = true) : isBlank c = false := by
  have bounds := isAlphanum_bounds h
  simp only [isBlank, Bool.or_eq_false_iff, Bool.and_eq_false_iff, decide_eq_false_iff_not,
    beq_eq_false_iff_ne]
  omega

theorem IsWord.notMem {cs : List Char} {c : Char} (h : IsWord cs) (hc : c.isAlphanum = false) :
    c ∉ cs := by
  intro mem
  simp [h.alphanumeric c mem] at hc

/-! ### Trimming -/

theorem dropEnd_of_getLast {p : Char → Bool} {cs : List Char} {c : Char}
    (h : cs.getLast? = some c) (hc : p c = false) : dropEnd p cs = cs := by
  obtain ⟨front, rfl⟩ := List.getLast?_eq_some_iff.mp h
  simp [dropEnd, hc]

theorem trim_of_ends {cs : List Char} {a z : Char} (first : cs.head? = some a)
    (last : cs.getLast? = some z) (ha : isBlank a = false) (hz : isBlank z = false) :
    trim cs = cs := by
  obtain ⟨rest, rfl⟩ := List.head?_eq_some_iff.mp first
  rw [trim, List.dropWhile_cons_of_neg (by simp [ha]), dropEnd_of_getLast last hz]

theorem IsWord.trim_eq {cs : List Char} (h : IsWord cs) : trim cs = cs :=
  trim_of_ends (List.head?_eq_some_head h.nonempty) (List.getLast?_eq_some_getLast h.nonempty)
    (isBlank_of_isAlphanum (h.alphanumeric _ (List.head_mem _)))
    (isBlank_of_isAlphanum (h.alphanumeric _ (List.getLast_mem _)))

theorem trim_cons_blank {b : Char} (cs : List Char) (h : isBlank b = true) :
    trim (b :: cs) = trim cs := by
  rw [trim, List.dropWhile_cons_of_pos h, trim]

/-! ### Words and fields -/

theorem splitWord_word {cs : List Char} (h : IsWord cs) : splitWord cs = (cs, []) := by
  have solid : ∀ c ∈ cs, (!isBlank c) = true := fun c hc => by
    simp [isBlank_of_isAlphanum (h.alphanumeric c hc)]
  rw [splitWord, List.takeWhile_eq_self_iff.mpr solid, List.dropWhile_eq_nil_iff.mpr solid]
  rfl

/-- A word, blanks and text without leading blanks are told apart again. -/
theorem splitWord_padded {word gap rest : List Char} (solid : ∀ c ∈ word, isBlank c = false)
    (blank : ∀ c ∈ gap, isBlank c = true) (nonempty : gap ≠ [])
    (begins : ∀ a, rest.head? = some a → isBlank a = false) :
    splitWord (word ++ (gap ++ rest)) = (word, rest) := by
  have solid : ∀ c ∈ word, (!isBlank c) = true := fun c hc => by simp [solid c hc]
  have stripped : rest.dropWhile isBlank = rest := by
    cases rest with
    | nil => rfl
    | cons a more => exact List.dropWhile_cons_of_neg (by simp [begins a rfl])
  have separates : (gap ++ rest).takeWhile (fun c => !isBlank c) = [] ∧
      (gap ++ rest).dropWhile (fun c => !isBlank c) = gap ++ rest := by
    obtain ⟨c, more, rfl⟩ := List.exists_cons_of_ne_nil nonempty
    have first := blank c List.mem_cons_self
    simp [first]
  rw [splitWord, List.takeWhile_append_of_pos solid, List.dropWhile_append_of_pos solid,
    separates.1, separates.2, List.dropWhile_append_of_pos blank, stripped, List.append_nil]

theorem splitWord_blank {cs rest : List Char} {a : Char} (h : IsWord cs)
    (first : rest.head? = some a) (ha : isBlank a = false) :
    splitWord (cs ++ ' ' :: rest) = (cs, rest) := by
  have space : ∀ c ∈ [' '], isBlank c = true := List.forall_mem_singleton.mpr (by decide)
  have solid := fun c hc => isBlank_of_isAlphanum (h.alphanumeric c hc)
  refine splitWord_padded solid space (List.cons_ne_nil _ _) fun b found => ?_
  obtain rfl := Option.some.inj (first.symm.trans found)
  exact ha

theorem head_dropWhile (p : Char → Bool) (cs : List Char) {a : Char}
    (first : (cs.dropWhile p).head? = some a) : p a = false := by
  have stops := List.head?_dropWhile_not p cs
  rw [first] at stops
  exact stops

theorem exists_splitWord (cs : List Char) :
    ∃ gap, cs = (splitWord cs).1 ++ (gap ++ (splitWord cs).2) ∧
      (∀ c ∈ (splitWord cs).1, isBlank c = false) ∧ (∀ c ∈ gap, isBlank c = true) ∧
      ((splitWord cs).2 ≠ [] → gap ≠ []) ∧
      ∀ a, (splitWord cs).2.head? = some a → isBlank a = false := by
  refine ⟨(cs.dropWhile fun c => !isBlank c).takeWhile isBlank, ?_, ?_, ?_, ?_, ?_⟩
  · rw [splitWord, List.takeWhile_append_dropWhile, List.takeWhile_append_dropWhile]
  · intro c mem
    simpa using List.mem_takeWhile_imp mem
  · exact fun c mem => List.mem_takeWhile_imp mem
  · intro more
    rw [splitWord] at more
    cases rest : cs.dropWhile fun c => !isBlank c with
    | nil => simp [rest] at more
    | cons c rest' =>
      have blank := head_dropWhile (fun c => !isBlank c) cs (a := c) (by rw [rest]; rfl)
      rw [Bool.not_eq_false'] at blank
      simp [blank]
  · exact fun a first => head_dropWhile _ _ first

theorem intercalate_comma_space (w : List Char) (ws : List (List Char)) :
    [',', ' '].intercalate (w :: ws) = [','].intercalate (w :: ws.map (' ' :: ·)) := by
  induction ws generalizing w with
  | nil => simp
  | cons v ws ih =>
    rw [List.map_cons, List.intercalate_cons_cons, List.intercalate_cons_cons, ih]
    cases ws <;> simp

theorem commaFields_intercalate {ws : List (List Char)} (h : ∀ w ∈ ws, IsWord w) :
    commaFields ([',', ' '].intercalate ws) = ws := by
  cases ws with
  | nil => rfl
  | cons w ws =>
    have noComma : ∀ l ∈ w :: ws.map (' ' :: ·), ',' ∉ l := by
      intro l hl
      rcases List.mem_cons.mp hl with rfl | hl
      · exact (h l List.mem_cons_self).notMem (by decide)
      · obtain ⟨v, hv, rfl⟩ := List.mem_map.mp hl
        simpa using (h v (List.mem_cons_of_mem _ hv)).notMem (show ','.isAlphanum = false by decide)
    have each : ∀ v ∈ ws, trim (' ' :: v) = v := fun v hv => by
      rw [trim_cons_blank v (by decide), (h v (List.mem_cons_of_mem _ hv)).trim_eq]
    have trimmed : (w :: ws.map (' ' :: ·)).map trim = w :: ws := by
      rw [List.map_cons, List.map_map, (h w List.mem_cons_self).trim_eq]
      exact congrArg (w :: ·) ((List.map_congr_left each).trans (List.map_id' ws))
    rw [commaFields, intercalate_comma_space, List.splitOn_intercalate _ noComma (by simp), trimmed,
      List.filter_eq_self]
    intro v hv
    simpa using (h v hv).nonempty

/-! ### Blanks at the ends -/

theorem exists_dropEnd (p : Char → Bool) (cs : List Char) :
    ∃ tail, cs = dropEnd p cs ++ tail ∧ ∀ c ∈ tail, p c = true :=
  ⟨cs.rtakeWhile p, List.rdropWhile_append_rtakeWhile.symm, fun _ => List.mem_rtakeWhile_imp⟩

theorem exists_trim (cs : List Char) :
    ∃ lead tail, cs = lead ++ (trim cs ++ tail) ∧ (∀ c ∈ lead, isBlank c = true) ∧
      ∀ c ∈ tail, isBlank c = true := by
  obtain ⟨tail, split, blank⟩ := exists_dropEnd isBlank (cs.dropWhile isBlank)
  refine ⟨cs.takeWhile isBlank, tail, ?_, fun c mem => List.mem_takeWhile_imp mem, blank⟩
  rw [trim, ← split, List.takeWhile_append_dropWhile]

theorem exists_trim_cons {c : Char} (cs : List Char) (solid : isBlank c = false) :
    ∃ rest, trim (c :: cs) = c :: rest := by
  obtain ⟨tail, split, blank⟩ := exists_dropEnd isBlank (c :: cs)
  rw [trim, List.dropWhile_cons_of_neg (by simp [solid])]
  cases kept : dropEnd isBlank (c :: cs) with
  | nil =>
    rw [kept, List.nil_append] at split
    have trailing := blank c (split ▸ List.mem_cons_self)
    rw [solid] at trailing
    cases trailing
  | cons a rest =>
    rw [kept, List.cons_append] at split
    exact ⟨rest, by rw [(List.cons.inj split).1]⟩

theorem dropEnd_append {p : Char → Bool} (cs : List Char) {tail : List Char}
    (all : ∀ c ∈ tail, p c = true) : dropEnd p (cs ++ tail) = dropEnd p cs := by
  rw [dropEnd, List.reverse_append,
    List.dropWhile_append_of_pos fun c mem => all c (List.mem_reverse.mp mem), dropEnd]

/-- A text that begins and ends with something else than a blank. -/
structure IsTrimmed (cs : List Char) : Prop where
  first : ∃ a, cs.head? = some a ∧ isBlank a = false
  last : ∃ z, cs.getLast? = some z ∧ isBlank z = false

theorem IsTrimmed.trim_eq {cs : List Char} (trimmed : IsTrimmed cs) : trim cs = cs := by
  obtain ⟨a, first, ha⟩ := trimmed.first
  obtain ⟨z, last, hz⟩ := trimmed.last
  exact trim_of_ends first last ha hz

/-- Blanks around a trimmed text are what trimming takes away. -/
theorem IsTrimmed.trim_padded {lead cs tail : List Char} (trimmed : IsTrimmed cs)
    (before : ∀ c ∈ lead, isBlank c = true) (after : ∀ c ∈ tail, isBlank c = true) :
    trim (lead ++ (cs ++ tail)) = cs := by
  obtain ⟨a, first, ha⟩ := trimmed.first
  obtain ⟨z, last, hz⟩ := trimmed.last
  obtain ⟨rest, rfl⟩ := List.head?_eq_some_iff.mp first
  rw [trim, List.dropWhile_append_of_pos before, List.cons_append,
    List.dropWhile_cons_of_neg (by simp [ha]), ← List.cons_append, dropEnd_append _ after,
    dropEnd_of_getLast last hz]

theorem isTrimmed_trim {cs : List Char} (nonempty : trim cs ≠ []) : IsTrimmed (trim cs) where
  first := by
    obtain ⟨tail, split, -⟩ := exists_dropEnd isBlank (cs.dropWhile isBlank)
    rw [← trim] at split
    obtain ⟨a, rest, same⟩ := List.exists_cons_of_ne_nil nonempty
    rw [same] at split ⊢
    exact ⟨a, rfl, head_dropWhile _ cs (by rw [split]; rfl)⟩
  last := by
    have solid := List.rdropWhile_last_not isBlank (cs.dropWhile isBlank) nonempty
    exact ⟨_, List.getLast?_eq_some_getLast nonempty, Bool.not_eq_true _ ▸ solid⟩

theorem IsTrimmed.overwrite {before old new after : List Char}
    (trimmed : IsTrimmed (before ++ (old ++ after))) (solid : IsTrimmed new) :
    IsTrimmed (before ++ (new ++ after)) where
  first := by
    cases before with
    | nil =>
      obtain ⟨a, first, ha⟩ := solid.first
      exact ⟨a, by simp [first], ha⟩
    | cons a rest => simpa using trimmed.first
  last := by
    cases after with
    | nil =>
      obtain ⟨z, last, hz⟩ := solid.last
      exact ⟨z, by simp [last], hz⟩
    | cons a rest => simpa using trimmed.last

/-! ### Fields -/

theorem notMem_of_mem_splitOn {separator : Char} {cs part : List Char}
    (mem : part ∈ cs.splitOn separator) : separator ∉ part := by
  induction size : cs.length using Nat.strongRecOn generalizing cs with
  | _ n ih =>
    by_cases inside : separator ∈ cs
    · obtain ⟨front, back, rfl, free⟩ := List.eq_append_cons_of_mem inside
      rw [List.length_append, List.length_cons] at size
      rw [List.splitOn_append_cons_self_of_not_mem free] at mem
      rcases List.mem_cons.mp mem with rfl | mem
      · exact free
      · exact ih back.length (by omega) mem rfl
    · rw [List.splitOn_eq_singleton inside] at mem
      rwa [List.mem_singleton.mp mem]

/-- Fields on both sides of a comma. Everything about fields follows from this. -/
theorem commaFields_append_comma (cs ds : List Char) :
    commaFields (cs ++ ',' :: ds) = commaFields cs ++ commaFields ds := by
  simp only [commaFields, List.splitOn_append_cons_self, List.map_append, List.filter_append]

theorem commaFields_of_notMem {cs : List Char} (single : ',' ∉ cs) :
    commaFields cs = if (trim cs).isEmpty then [] else [trim cs] := by
  rw [commaFields, List.splitOn_eq_singleton single]
  cases empty : (trim cs).isEmpty <;> simp [empty]

theorem exists_overwrite_only_field {k : Nat} {cs old : List Char} (single : ',' ∉ cs)
    (there : (commaFields cs)[k]? = some old) :
    ∃ before after, cs = before ++ (old ++ after) ∧
      ∀ new, IsTrimmed new → ',' ∉ new →
        commaFields (before ++ (new ++ after)) = (commaFields cs).set k new := by
  obtain ⟨before, after, split, lead, tail⟩ := exists_trim cs
  have nonempty : trim cs ≠ [] := by
    intro none
    rw [commaFields_of_notMem single, none] at there
    cases there
  have own : commaFields cs = [trim cs] := by
    rw [commaFields_of_notMem single, if_neg (by simpa using nonempty)]
  obtain ⟨rfl, rfl⟩ : k = 0 ∧ trim cs = old := by
    rw [own, List.getElem?_singleton] at there
    split at there
    · exact ⟨by assumption, Option.some.inj there⟩
    · cases there
  refine ⟨before, after, split, fun new trimmed noComma => ?_⟩
  have still : ',' ∉ before ++ (new ++ after) := by
    rw [split] at single
    simp only [List.mem_append, not_or] at single ⊢
    exact ⟨single.1, noComma, single.2.2⟩
  have solid : new ≠ [] := by
    rintro rfl
    obtain ⟨a, first, -⟩ := trimmed.first
    cases first
  rw [own, commaFields_of_notMem still, trimmed.trim_padded lead tail,
    if_neg (by simpa using solid)]
  rfl

/-- A field stands somewhere in the text, and any other field can be written there. -/
theorem exists_overwrite_field {k : Nat} {cs old : List Char}
    (there : (commaFields cs)[k]? = some old) :
    ∃ before after, cs = before ++ (old ++ after) ∧
      ∀ new, IsTrimmed new → ',' ∉ new →
        commaFields (before ++ (new ++ after)) = (commaFields cs).set k new := by
  -- Both parts at a comma are shorter, and the field is one of the first part or of the second.
  induction size : cs.length using Nat.strongRecOn generalizing k cs with
  | _ n ih =>
    by_cases comma : ',' ∈ cs
    · obtain ⟨front, back, rfl, -⟩ := List.eq_append_cons_of_mem comma
      rw [List.length_append, List.length_cons] at size
      rw [commaFields_append_comma] at there
      rw [commaFields_append_comma]
      by_cases early : k < (commaFields front).length
      · rw [List.getElem?_append_left early] at there
        obtain ⟨before, after, rfl, overwrite⟩ := ih front.length (by omega) there rfl
        refine ⟨before, after ++ ',' :: back, by simp, fun new trimmed noComma => ?_⟩
        rw [List.set_append_left _ _ early, ← overwrite new trimmed noComma,
          ← commaFields_append_comma]
        simp
      · rw [List.getElem?_append_right (Nat.le_of_not_lt early)] at there
        obtain ⟨before, after, rfl, overwrite⟩ := ih back.length (by omega) there rfl
        refine ⟨front ++ ',' :: before, after, by simp, fun new trimmed noComma => ?_⟩
        rw [List.set_append_right _ _ (Nat.le_of_not_lt early), ← overwrite new trimmed noComma,
          ← commaFields_append_comma]
        simp
    · exact exists_overwrite_only_field comma there

end ChipEight.Text
