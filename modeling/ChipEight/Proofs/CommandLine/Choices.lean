import ChipEight.CommandLine.Arguments
import ChipEight.Proofs.Alike

/-!
# Options after a program

Some options choose how a program is run, whatever names it. They are read alike without a program,
after an image and after a source (`alike_parse_image`, `alike_parse_source`).
-/

namespace ChipEight.CommandLine

/-! ### Choices -/

/-- An option that chooses how a program is run. -/
inductive Choice where
  | seed (text : List Char)
  | maxSteps (text : List Char)
  | wrap
  | run
  | disasm
  deriving DecidableEq, Repr

namespace Choice

def flag : Choice → Flag
  | seed _ => .seed
  | maxSteps _ => .maxSteps
  | wrap => .wrap
  | run => .run
  | disasm => .disasm

def arguments : Choice → List (List Char)
  | seed text => ["--seed".toList, text]
  | maxSteps text => ["--max-steps".toList, text]
  | wrap => ["--wrap".toList]
  | run => ["--run".toList]
  | disasm => ["--disasm".toList]

def isSeed : Choice → Bool
  | seed _ => true
  | _ => false

end Choice

/-! ### Tokens -/

/-- The first argument makes the first token, and unless that is the separator, the others make the
other tokens. -/
theorem exists_of_tokens_cons {argument : List Char} {rest : List (List Char)} {ts : List Token}
    (made : tokens (argument :: rest) = .ok ts) :
    ∃ token more, ts = token :: more ∧ (token = .separator ∨ tokens rest = .ok more) := by
  unfold tokens at made
  split at made
  · rename_i nothing
    cases nothing
  · rename_i same
    cases same
    cases made
    exact ⟨_, _, rfl, .inl rfl⟩
  · rename_i same
    cases same
    obtain ⟨token, -, made⟩ := bind_eq_ok.mp made
    obtain ⟨more, others, made⟩ := bind_eq_ok.mp made
    cases made
    exact ⟨token, more, rfl, .inr others⟩

theorem tokens_cons_eq {argument : List Char} {token : Token} (own : argument ≠ ['-', '-'])
    (read : tokenOf argument = .ok token) (rest : List (List Char)) :
    tokens (argument :: rest) = (tokens rest).map (token :: ·) := by
  rw [tokens, read, ok_bind]
  · cases tokens rest <;> rfl
  · exact own

theorem tokens_value {text : List Char} (plain : text.head? ≠ some '-') (rest : List (List Char)) :
    tokens (text :: rest) = (tokens rest).map (.value text :: ·) := by
  refine tokens_cons_eq ?_ ?_ rest
  · rintro rfl
    exact plain rfl
  · rw [tokenOf, if_pos plain]

/-- The arguments of a choice make its token and, if it takes a value, one token more. -/
theorem tokens_of_choice {choice : Choice} {rest : List (List Char)} {ts : List Token}
    (made : tokens (choice.arguments ++ rest) = .ok ts) :
    ∃ more, ts = .option choice.flag false none :: more ∧
      (choice.flag.arity = 0 ∧ tokens rest = .ok more ∨
        choice.flag.arity = 1 ∧ ∃ token others, more = token :: others ∧
          (token = .separator ∨ tokens rest = .ok others)) := by
  cases choice with
  | wrap | run | disasm =>
    obtain ⟨more, behind, rfl⟩ :=
      map_eq_ok.mp ((tokens_cons_eq (by decide) rfl rest).symm.trans made)
    exact ⟨more, rfl, .inl ⟨rfl, behind⟩⟩
  | seed text | maxSteps text =>
    obtain ⟨more, behind, rfl⟩ :=
      map_eq_ok.mp ((tokens_cons_eq (by decide) rfl (text :: rest)).symm.trans made)
    obtain ⟨token, others, rfl, last⟩ := exists_of_tokens_cons behind
    exact ⟨_, rfl, .inr ⟨rfl, token, others, rfl, last⟩⟩

/-! ### Options -/

/-- The options with another image and another source to load. -/
def Options.loading (options : Options) (image asm : Option (List Char)) : Options :=
  { options with image, asm }

def Options.IsSeeded (options : Options) : Prop := ∃ seed, options.seed = .number seed

variable {image asm : Option (List Char)} {seeded : Bool}

/-- What is loaded does not matter to a choice, and a seed that is chosen stays chosen. -/
theorem alike_apply {options : Options} (already : seeded = true → options.IsSeeded)
    (choice : Choice) {values : List (List Char)} (all : values.length = choice.flag.arity) :
    Alike Eq (fun next next' => next' = next.loading image asm ∧
        ((seeded || choice.isSeed) = true → next.IsSeeded))
      (options.apply choice.flag values)
      ((options.loading image asm).apply choice.flag values) := by
  cases choice with
  | wrap | run | disasm =>
    obtain rfl := List.length_eq_zero_iff.mp all
    exact .ok ⟨rfl, fun either => already (by simpa [Choice.isSeed] using either)⟩
  | maxSteps =>
    obtain ⟨text, rfl⟩ := List.length_eq_one_iff.mp all
    refine (Alike.refl (number .maxSteps text)).map ?_
    rintro limit _ rfl
    exact ⟨rfl, fun either => already (by simpa [Choice.isSeed] using either)⟩
  | seed =>
    obtain ⟨text, rfl⟩ := List.length_eq_one_iff.mp all
    refine (Alike.refl (number .seed text)).map ?_
    rintro seed _ rfl
    exact ⟨rfl, fun _ => ⟨seed, rfl⟩⟩

/-! ### Readers -/

/-- A reader that has read the same choices as another one, and besides these what to load. -/
structure SameChoices (image asm : Option (List Char)) (seeded : Bool) (r r' : Reader) : Prop where
  options : r'.options = r.options.loading image asm
  extras : r.extras = []
  extras' : r'.extras = []
  seed : seeded = true → r.options.IsSeeded

/-- Two such readers, neither of which waits for a value. -/
structure ReadsBeside (image asm : Option (List Char)) (seeded : Bool) (r r' : Reader) : Prop
    extends SameChoices image asm seeded r r' where
  pending : r.pending = none
  pending' : r'.pending = none

namespace Reader

def waiting (r : Reader) (flag : Flag) : Reader :=
  { r with
    pending := some (flag, [])
    position := if r.position = .vacant then .vacant else .closed }

variable {r : Reader} {flag : Flag}

theorem take_of_arity_zero (ready : r.pending = none) (arity : flag.arity = 0) :
    r.take (.option flag false none) = r.takeOption flag [] := by
  rw [take, requireComplete, ready]
  dsimp only
  rw [ok_bind, takeAttached, beginOption, if_pos arity]

theorem take_of_arity_one (ready : r.pending = none) (arity : flag.arity = 1) :
    r.take (.option flag false none) = .ok (r.waiting flag) := by
  rw [take, requireComplete, ready]
  dsimp only
  rw [ok_bind, takeAttached, beginOption, arity, if_neg Nat.one_ne_zero]
  rfl

theorem take_waiting (arity : flag.arity = 1) (token : Token) :
    (r.waiting flag).take token = match token with
      | .value text => (r.waiting flag).takeOption flag [text]
      | _ => .error (.usage (.missingValues flag)) := by
  cases token with
  | value text => exact if_pos arity.symm
  | separator | option | unknownOption => rfl

end Reader

variable {r r' : Reader}

theorem alike_takeOption (same : SameChoices image asm seeded r r') (choice : Choice)
    (values : List (List Char)) (all : values.length = choice.flag.arity) :
    Alike Eq (ReadsBeside image asm (seeded || choice.isSeed)) (r.takeOption choice.flag values)
      (r'.takeOption choice.flag values) := by
  rw [Reader.takeOption, Reader.takeOption, same.options]
  refine (alike_apply same.seed choice all).map fun next next' both => ?_
  exact
    { options := both.1, seed := both.2, extras := same.extras, extras' := same.extras'
      pending := rfl, pending' := rfl }

theorem alike_foldlM_take {opts : List Choice} {ts : List Token}
    (made : tokens (opts.flatMap Choice.arguments) = .ok ts)
    (beside : ReadsBeside image asm seeded r r') :
    Alike Eq (ReadsBeside image asm (seeded || opts.any Choice.isSeed)) (ts.foldlM Reader.take r)
      (ts.foldlM Reader.take r') := by
  induction opts generalizing ts seeded r r' with
  | nil =>
    cases made
    rw [List.any_nil, Bool.or_false]
    exact .ok beside
  | cons choice opts ih =>
    rw [List.flatMap_cons] at made
    rw [List.any_cons, ← Bool.or_assoc]
    obtain ⟨ts, rfl, ⟨arity, rest⟩ | ⟨arity, token, others, rfl, behind⟩⟩ := tokens_of_choice made
    · rw [List.foldlM_cons, List.foldlM_cons, Reader.take_of_arity_zero beside.pending arity,
        Reader.take_of_arity_zero beside.pending' arity]
      exact (alike_takeOption beside.toSameChoices choice [] arity.symm).bind
        fun _ _ beside => ih rest beside
    · rw [List.foldlM_cons, List.foldlM_cons, Reader.take_of_arity_one beside.pending arity,
        Reader.take_of_arity_one beside.pending' arity, ok_bind, ok_bind, List.foldlM_cons,
        List.foldlM_cons, Reader.take_waiting arity, Reader.take_waiting arity]
      cases token with
      | value text =>
        obtain separator | rest := behind
        · cases separator
        have same : SameChoices image asm seeded (r.waiting choice.flag) (r'.waiting choice.flag) :=
          ⟨beside.options, beside.extras, beside.extras', beside.seed⟩
        exact (alike_takeOption same choice [text] arity.symm).bind
          fun _ _ beside => ih rest beside
      | separator | option | unknownOption => exact .error rfl

/-! ### Whole command lines -/

/-- Options that make the same choices, and say besides what to load. -/
def OptionsBeside (image asm : Option (List Char)) (seeded : Bool) (options options' : Options) :
    Prop :=
  options' = options.loading image asm ∧ (seeded = true → options.IsSeeded)

theorem alike_finish (beside : ReadsBeside image asm seeded r r') :
    Alike Eq (OptionsBeside image asm seeded) r.finish r'.finish := by
  rw [Reader.finish, Reader.finish, Reader.requireComplete, Reader.requireComplete, beside.pending,
    beside.pending', beside.extras, beside.extras']
  exact .ok ⟨beside.options, beside.seed⟩

theorem alike_parse_choices {opts : List Choice} {arguments : List (List Char)} (front : List Token)
    (begins : tokens arguments = (tokens (opts.flatMap Choice.arguments)).map (front ++ ·))
    (taken : front.foldlM Reader.take .initial = .ok r')
    (beside : ReadsBeside image asm false .initial r') :
    Alike Eq (OptionsBeside image asm (opts.any Choice.isSeed))
      (parse (opts.flatMap Choice.arguments)) (parse arguments) := by
  rw [parse, parse, begins]
  cases made : tokens (opts.flatMap Choice.arguments) with
  | error e => exact .error rfl
  | ok ts =>
    rw [map_ok, mapError_ok, mapError_ok, ok_bind, ok_bind, List.foldlM_append, taken, ok_bind]
    exact (alike_foldlM_take made beside).bind fun _ _ => alike_finish

/-- Behind the image, choices are read as without it. -/
theorem alike_parse_image (opts : List Choice) {image : List Char}
    (plain : image.head? ≠ some '-') :
    Alike Eq (OptionsBeside (some image) none (opts.any Choice.isSeed))
      (parse (opts.flatMap Choice.arguments)) (parse (image :: opts.flatMap Choice.arguments)) :=
  alike_parse_choices [.value image] (tokens_value plain _) rfl
    ⟨⟨rfl, rfl, rfl, nofun⟩, rfl, rfl⟩

/-- Behind the source, choices are read as without it. -/
theorem alike_parse_source (opts : List Choice) {source : List Char}
    (plain : source.head? ≠ some '-') :
    Alike Eq (OptionsBeside none (some source) (opts.any Choice.isSeed))
      (parse (opts.flatMap Choice.arguments))
      (parse ("--asm".toList :: source :: opts.flatMap Choice.arguments)) := by
  refine alike_parse_choices [.option .asm false none, .value source] ?_ rfl
    ⟨⟨rfl, rfl, rfl, nofun⟩, rfl, rfl⟩
  rw [tokens_cons_eq (by decide) rfl, tokens_value plain]
  cases tokens (opts.flatMap Choice.arguments) <;> rfl

end ChipEight.CommandLine
