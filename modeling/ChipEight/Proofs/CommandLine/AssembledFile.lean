import ChipEight.CommandLine.Run
import ChipEight.Proofs.CommandLine.Choices
import ChipEight.Proofs.Directory

/-!
# A source and its assembled file

A file that the program has assembled starts the same machine as its source, whatever choices follow
and whatever is typed; and where the source does not assemble, no file changes
(`assembled_file_starts_like_source`).
-/

namespace ChipEight.CommandLine

/-! ### Assembling -/

theorem parse_assemble {source target : List Char} (plain : source.head? ≠ some '-')
    (plain' : target.head? ≠ some '-') :
    parse ["--assemble".toList, source, target] =
      .ok { Options.default with assemble := some (source, target) } := by
  rw [parse, tokens_cons_eq (by decide) rfl, tokens_value plain, tokens_value plain']
  rfl

theorem run_assemble [Heap] {source target : List Char} (plain : source.head? ≠ some '-')
    (plain' : target.head? ≠ some '-') (files : Directory) (entropy : Int) (input : List Char) :
    run ["--assemble".toList, source, target] files entropy input =
      assembleFile { Options.default with assemble := some (source, target) } files source
        target := by
  rw [run, start, parse_assemble plain plain']
  rfl

/-! ### Starting -/

section

variable {options : Options} {files : Directory} {path : List Char} {bytes : Array UInt8}
  {seed entropy : Int}

theorem seedOf_eq {image asm : Option (List Char)} (seeded : options.seed = .number seed) :
    seedOf (options.loading image asm) entropy = .ok seed := by
  rw [seedOf, show (options.loading image asm).seed = .number seed from seeded]

variable [Heap]

theorem ingredients_image (seeded : options.seed = .number seed) (named : path ≠ [])
    (loaded : files.read path = .ok bytes) :
    ingredients (options.loading (some path) none) files entropy = .ok (seed, some bytes) := by
  have found : imageOf (options.loading (some path) none) files = .ok (some bytes) := by
    cases path with
    | nil => exact absurd rfl named
    | cons c cs =>
      show ((files.read (c :: cs)).map some).mapError _ = _
      rw [loaded]
      rfl
  rw [ingredients, seedOf_eq seeded, found]
  rfl

theorem ingredients_source {text : List Char} (seeded : options.seed = .number seed)
    (named : path ≠ []) (loaded : files.readText path = .ok text)
    (assembled : Assembly.assembleImage text = .ok bytes) :
    ingredients (options.loading none (some path)) files entropy = .ok (seed, some bytes) := by
  have found : imageOf (options.loading none (some path)) files = .ok (some bytes) := by
    cases path with
    | nil => exact absurd rfl named
    | cons c cs =>
      show (do
        let text ← (files.readText (c :: cs)).mapError _
        let image ← (Assembly.assembleImage text).mapError _
        return some image : Except Ending (Option (Array UInt8))) = _
      rw [loaded, mapError_ok, ok_bind, assembled]
      rfl
  rw [ingredients, seedOf_eq seeded, found]
  rfl

/-- What starts depends on the image and the source by the ingredients only. -/
theorem startWith_loading {image asm image' asm' : Option (List Char)} {entropy' : Int}
    (same : ingredients (options.loading image asm) files entropy =
      ingredients (options.loading image' asm') files entropy') :
    startWith (options.loading image asm) files entropy =
      startWith (options.loading image' asm') files entropy' := by
  unfold startWith
  rw [same]
  rfl

end

theorem path_ne_nil {files : Directory} {path text : List Char}
    (loaded : files.readText path = .ok text) : path ≠ [] := by
  rintro rfl
  cases loaded

/-- What assembling a source leaves: the assembled file, or all files as they were. -/
theorem assembleFile_eq [Heap] (options : Options) {files : Directory}
    {source target text : List Char} (loaded : files.readText source = .ok text)
    (plain : IsPlainName target) (free : files.item (Place.here.child target) ≠ .folder) :
    match Assembly.assemble text 0x200 with
    | .ok program =>
      (assembleFile options files source target).ending = .done ∧
        (assembleFile options files source target).files =
          files.insert (Place.here.child target) program.image
    | .error e =>
      (assembleFile options files source target).ending = endingOfAssembly e ∧
        (assembleFile options files source target).files = files := by
  rw [assembleFile, loaded]
  dsimp only
  cases assembled : Assembly.assemble text 0x200 with
  | ok program =>
    dsimp only
    rw [Directory.write_of_isPlainName plain free]
    exact ⟨rfl, rfl⟩
  | error e => exact ⟨rfl, rfl⟩

theorem exitCode_endingOfAssembly (e : Assembly.Error) : (endingOfAssembly e).exitCode = 1 := by
  cases e <;> rfl

/-! ### The assembled file and its source -/

/-- With a seed among the choices, an image and a source that assembles to it start alike, and all
that is typed then has the same outcome. -/
theorem run_image_eq_run_source [Heap] {files : Directory} {source target text : List Char}
    {bytes : Array UInt8} (plain : source.head? ≠ some '-') (plain' : target.head? ≠ some '-')
    (loaded : files.readText source = .ok text)
    (assembled : Assembly.assembleImage text = .ok bytes) (named : target ≠ [])
    (written : files.read target = .ok bytes) {opts : List Choice}
    (seeded : opts.any Choice.isSeed = true) (entropy entropy' : Int) (input : List Char) :
    run (target :: opts.flatMap Choice.arguments) files entropy input =
      run ("--asm".toList :: source :: opts.flatMap Choice.arguments) files entropy' input := by
  have started : start (target :: opts.flatMap Choice.arguments) files entropy =
      start ("--asm".toList :: source :: opts.flatMap Choice.arguments) files entropy' := by
    have image := alike_parse_image opts plain'
    have asm := alike_parse_source opts plain
    rw [start, start]
    generalize parse (opts.flatMap Choice.arguments) = choices at image asm
    generalize parse (target :: opts.flatMap Choice.arguments) = left at image ⊢
    generalize parse ("--asm".toList :: source :: opts.flatMap Choice.arguments) = right at asm ⊢
    cases image with
    | error same =>
      cases asm with
      | error same' =>
        subst same same'
        rename_i stop
        cases stop <;> rfl
    | ok same =>
      cases asm with
      | ok same' =>
        obtain ⟨rfl, number⟩ := same
        obtain ⟨rfl, -⟩ := same'
        obtain ⟨seed, number⟩ := number seeded
        refine startWith_loading ?_
        rw [ingredients_image number named written,
          ingredients_source number (path_ne_nil loaded) loaded assembled]
  rw [run, run, started]

/-- To assemble a source into a file ends well and leaves the assembled bytes there; with those in
place of the source, the same choices and lines lead to the same report. A source that does not
assemble ends with an error, and all files are as before. -/
theorem assembled_file_starts_like_source [Heap] {files : Directory}
    {source target text : List Char}
    (loaded : files.readText source = .ok text) (plain : source.head? ≠ some '-')
    (name : IsPlainName target) (plain' : target.head? ≠ some '-')
    (free : files.item (Place.here.child target) ≠ .folder)
    (apart : ¬files.LeadsTo source (Place.here.child target))
    (entropy : Int) (input : List Char) :
    let report := run ["--assemble".toList, source, target] files entropy input
    match Assembly.assemble text 0x200 with
    | .ok assembled =>
      report.ending.exitCode = 0 ∧ report.files.read target = .ok assembled.image ∧
        ∀ opts : List Choice, (∃ seed, .seed seed ∈ opts) → ∀ entropy entropy' typed,
          run (target :: opts.flatMap Choice.arguments) report.files entropy typed =
            run ("--asm".toList :: source :: opts.flatMap Choice.arguments) report.files entropy'
              typed
    | .error _ => report.ending.exitCode = 1 ∧ report.files = files := by
  intro report
  have outcome := assembleFile_eq { Options.default with assemble := some (source, target) } loaded
    name free
  rw [← run_assemble plain plain' files entropy input] at outcome
  cases assembled : Assembly.assemble text 0x200 with
  | ok made =>
    rw [assembled] at outcome
    obtain ⟨done, left⟩ := outcome
    have written : report.files.read target = .ok made.image := by
      rw [left]
      exact Directory.read_insert_self name free
    have still : report.files.readText source = .ok text := by
      rw [left]
      exact Directory.readText_insert loaded apart
    have image : Assembly.assembleImage text = .ok made.image := by
      rw [Assembly.assembleImage, assembled]
      rfl
    refine ⟨by rw [done]; rfl, written, ?_⟩
    rintro opts ⟨seed, given⟩ entropy entropy' typed
    exact run_image_eq_run_source plain plain' still image name.nonempty written
      (List.any_eq_true.mpr ⟨_, given, rfl⟩) entropy entropy' typed
  | error e =>
    rw [assembled] at outcome
    obtain ⟨failed, left⟩ := outcome
    exact ⟨by rw [failed, exitCode_endingOfAssembly], left⟩

/-- A program that draws a random number. -/
def diceText : List Char := "RND V0, 7\nEND\n".toList

def diceBytes : Array UInt8 := (diceText.map fun c => UInt8.ofNat c.toNat).toArray

def diceFiles : Directory := .ofFiles [("dice.asm".toList, diceBytes)]

theorem assembled_file_starts_like_source_of_dice :
    diceFiles.readText "dice.asm".toList = .ok diceText ∧ IsPlainName "dice".toList ∧
    diceFiles.item (Place.here.child "dice".toList) ≠ .folder ∧
    ¬diceFiles.LeadsTo "dice.asm".toList (Place.here.child "dice".toList) ∧
    ∃ files : Directory, files.read "dice".toList = .ok #[0xc0, 0x07, 0x00, 0x00] ∧
      @run .unlimited ["dice".toList, "--seed".toList, "1".toList, "--run".toList] files 2
          "regs".toList =
        @run .unlimited ["--asm".toList, "dice.asm".toList, "--seed".toList, "1".toList,
          "--run".toList] files 3 "regs".toList := by
  let _ : Heap := .unlimited
  have decoded : Text.Utf8.decode diceBytes = .ok diceText := by decide +kernel
  have loaded : diceFiles.readText "dice.asm".toList = .ok diceText :=
    bind_eq_ok.mpr ⟨diceBytes, rfl, bind_eq_ok.mpr ⟨diceText, mapError_eq_ok.mpr decoded, rfl⟩⟩
  have plain_dice : IsPlainName "dice".toList := by constructor <;> decide +kernel
  have plain_source : IsPlainName "dice.asm".toList := by constructor <;> decide +kernel
  have free : diceFiles.item (Place.here.child "dice".toList) ≠ .folder := by decide +kernel
  have apart : ¬diceFiles.LeadsTo "dice.asm".toList (Place.here.child "dice".toList) := by
    rw [Directory.leadsTo_iff_of_isPlainName plain_source]
    decide
  obtain ⟨program, assembled, image⟩ : ∃ program, Assembly.assemble diceText 0x200 = .ok program ∧
      program.image = #[0xc0, 0x07, 0x00, 0x00] := ⟨_, rfl, rfl⟩
  have starts := assembled_file_starts_like_source loaded (by decide) plain_dice (by decide) free
    apart 0 []
  rw [assembled] at starts
  obtain ⟨-, written, alike⟩ := starts
  rw [image] at written
  exact ⟨loaded, plain_dice, free, apart, _, written,
    alike [.seed "1".toList, .run] ⟨_, List.mem_cons_self⟩ 2 3 "regs".toList⟩

end ChipEight.CommandLine
