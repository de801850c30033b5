import ChipEight.Text.Numeral

/-!
# Arguments

The options of the command line, and how a list of arguments is read as options and a program image.
Long options may be cut short as long as one is meant; an option takes its values from the arguments
after it or, if it takes one value, from the text after an equals sign.
-/

namespace ChipEight.CommandLine

open Text

inductive Flag where
  | help | asm | assemble | listing | disasm | run | maxSteps | seed | wrap | trace
  deriving DecidableEq, Repr

namespace Flag

/-- All spellings, in the order in which messages name them. -/
def spellings : List (String × Flag) :=
  [("-h", help), ("--help", help), ("--asm", asm), ("--assemble", assemble),
    ("--listing", listing), ("-l", listing), ("--disasm", disasm), ("--run", run),
    ("--max-steps", maxSteps), ("--seed", seed), ("--wrap", wrap), ("--trace", trace)]

def arity : Flag → Nat
  | asm | maxSteps | seed => 1
  | assemble => 2
  | help | listing | disasm | run | wrap | trace => 0

def name (flag : Flag) : String :=
  "/".intercalate ((spellings.filter fun entry => entry.2 == flag).map (·.1))

def ofSpelling? (text : List Char) : Option Flag :=
  (spellings.find? fun entry => entry.1.toList == text).map (·.2)

end Flag

inductive UsageError where
  | ambiguous (argument : List Char) (candidates : List String)
  | missingValues (flag : Flag)
  | invalidNumber (flag : Flag) (text : List Char)
  /-- Text that is attached to an option which takes no value. -/
  | ignoredValue (flag : Flag) (text : List Char)
  | unrecognized (arguments : List (List Char))
  deriving DecidableEq, Repr

def UsageError.message : UsageError → String
  | .ambiguous argument candidates =>
    s!"ambiguous option: {String.ofList argument} could match " ++ ", ".intercalate candidates
  | .missingValues flag =>
    s!"argument {flag.name}: expected " ++
      if flag.arity = 1 then "one argument" else s!"{flag.arity} arguments"
  | .invalidNumber flag text =>
    s!"argument {flag.name}: invalid int value: {String.ofList (quoted text)}"
  | .ignoredValue flag text =>
    s!"argument {flag.name}: ignored explicit argument {String.ofList (quoted text)}"
  | .unrecognized arguments =>
    "unrecognized arguments: " ++ " ".intercalate (arguments.map String.ofList)

/-! ### Tokens -/

inductive Token where
  | value (text : List Char)
  /-- The first `--`, after which there are only values. -/
  | separator
  /-- An option, and the text that is attached to it: after an equals sign, or after the letter of
  a short spelling. -/
  | option (flag : Flag) (short : Bool) (attached : Option (List Char))
  | unknownOption (text : List Char)
  deriving DecidableEq, Repr

def splitEquals (cs : List Char) : List Char × Option (List Char) :=
  match cs.dropWhile (· ≠ '=') with
  | [] => (cs, none)
  | _ :: value => (cs.takeWhile (· ≠ '='), some value)

def isDecimal (c : Char) : Bool := (decimalDigit? c).isSome

/-- Whether an argument looks like a negative number: digits, with or without a point among them
that digits follow. -/
def isNegativeNumber (cs : List Char) : Bool :=
  match if cs.getLast? = some '\n' then cs.dropLast else cs with
  | '-' :: rest =>
    match rest.dropWhile isDecimal with
    | [] => !rest.isEmpty
    | '.' :: fraction => !fraction.isEmpty && fraction.all isDecimal
    | _ => false
  | _ => false

/-- The options that an argument may be short for, each with its spelling. -/
def candidates (cs : List Char) : List (String × Token) :=
  match cs with
  | '-' :: '-' :: _ =>
    let (stem, attached) := splitEquals cs
    (Flag.spellings.filter fun entry => stem.isPrefixOf entry.1.toList).map fun (name, flag) =>
      (name, .option flag false attached)
  | _ =>
    (Flag.spellings.filter fun entry => entry.1.toList == cs.take 2).map fun (name, flag) =>
      (name, .option flag true (some (cs.drop 2)))

/-- What an argument that begins with a hyphen and spells no option in full may still be. -/
def tokenOfCandidates (cs : List Char) : Except UsageError Token :=
  match candidates cs with
  | [(_, token)] => .ok token
  | [] =>
    .ok (if isNegativeNumber cs || cs.contains ' ' then .value cs else .unknownOption cs)
  | many => .error (.ambiguous cs (many.map (·.1)))

def isShort (cs : List Char) : Bool := cs[1]? ≠ some '-'

/-- The token of an argument before any separator. -/
def tokenOf (cs : List Char) : Except UsageError Token :=
  if cs.head? ≠ some '-' then .ok (.value cs)
  else match Flag.ofSpelling? cs with
    | some flag => .ok (.option flag (isShort cs) none)
    | none =>
      if cs.length = 1 then .ok (.value cs)
      else match splitEquals cs with
        | (stem, some attached) =>
          match Flag.ofSpelling? stem with
          | some flag => .ok (.option flag (isShort stem) (some attached))
          | none => tokenOfCandidates cs
        | (_, none) => tokenOfCandidates cs

def tokens : List (List Char) → Except UsageError (List Token)
  | [] => .ok []
  | ['-', '-'] :: rest => .ok (.separator :: rest.map .value)
  | cs :: rest => do
    let token ← tokenOf cs
    let more ← tokens rest
    return token :: more

/-! ### Options -/

inductive Seeding where
  | entropy
  | number (seed : Int)
  /-- The option was given without a value. -/
  | missing
  deriving DecidableEq, Repr

structure Options where
  image : Option (List Char)
  asm : Option (List Char)
  /-- The source and the output of an assembly. -/
  assemble : Option (List Char × List Char)
  listing : Bool
  disasm : Bool
  run : Bool
  /-- The limit of a run, unless the option was given without a value. -/
  maxSteps : Option Int
  seed : Seeding
  wrap : Bool
  trace : Bool
  deriving DecidableEq, Repr

def Options.default : Options :=
  ⟨none, none, none, false, false, false, some 1000000, .entropy, false, false⟩

inductive Stop where
  | help
  | usage (error : UsageError)
  deriving DecidableEq, Repr

def number (flag : Flag) (text : List Char) : Except Stop Int :=
  (Numeral.parse .ten text).mapError fun _ => .usage (.invalidNumber flag text)

/-- The options after one more option with all its values. One that takes a value and is given none
forgets what was set before. -/
def Options.apply (options : Options) (flag : Flag) (values : List (List Char)) :
    Except Stop Options :=
  match flag, values with
  | .help, _ => .error .help
  | .asm, [] => .ok { options with asm := none }
  | .asm, [path] => .ok { options with asm := some path }
  | .assemble, [source, output] => .ok { options with assemble := some (source, output) }
  | .listing, _ => .ok { options with listing := true }
  | .disasm, _ => .ok { options with disasm := true }
  | .run, _ => .ok { options with run := true }
  | .wrap, _ => .ok { options with wrap := true }
  | .trace, _ => .ok { options with trace := true }
  | .maxSteps, [] => .ok { options with maxSteps := none }
  | .maxSteps, [text] =>
    (number .maxSteps text).map fun limit => { options with maxSteps := some limit }
  | .seed, [] => .ok { options with seed := .missing }
  | .seed, [text] => (number .seed text).map fun seed => { options with seed := .number seed }
  | flag, _ => .error (.usage (.missingValues flag))

/-- How far the one positional argument has been read. -/
inductive Position where
  | vacant
  /-- Read just now: a separator that follows belongs to it. -/
  | filled
  | closed
  deriving DecidableEq, Repr

structure Reader where
  options : Options
  position : Position
  /-- An option that still needs values, with the values it has. -/
  pending : Option (Flag × List (List Char))
  /-- Arguments that have no place. -/
  extras : List (List Char)

namespace Reader

def initial : Reader := ⟨.default, .vacant, none, []⟩

def takeOption (r : Reader) (flag : Flag) (values : List (List Char)) : Except Stop Reader :=
  (r.options.apply flag values).map fun options =>
    { r with options, pending := none, position := if r.position = .vacant then .vacant else .closed }

def beginOption (r : Reader) (flag : Flag) : Except Stop Reader :=
  if flag.arity = 0 then r.takeOption flag []
  else .ok { r with
    pending := some (flag, []), position := if r.position = .vacant then .vacant else .closed }

/-- The short options written in one, the first of which is `flag` and has `text` after it. -/
def clusterFlags (flag : Flag) (text : List Char) : Except Stop (List Flag) :=
  match text with
  | [] => .ok [flag]
  | c :: rest =>
    match Flag.ofSpelling? ['-', c] with
    | some next => (clusterFlags next rest).map (flag :: ·)
    | none => .error (.usage (.ignoredValue flag text))

/-- Takes short options written in one. None of them has an effect until all are known. -/
def takeCluster (r : Reader) (flag : Flag) (text : List Char) : Except Stop Reader := do
  let flags ← clusterFlags flag text
  flags.foldlM (fun (r : Reader) flag => r.takeOption flag []) r

/-- The values in an attached text: the text itself, but two hyphens are no value. -/
def attachedValues (text : List Char) : List (List Char) :=
  if text = ['-', '-'] then [] else [text]

def takeAttached (r : Reader) (flag : Flag) (short : Bool) :
    Option (List Char) → Except Stop Reader
  | none => r.beginOption flag
  | some text =>
    match flag.arity with
    | 0 =>
      if short && !text.isEmpty then r.takeCluster flag text
      else .error (.usage (.ignoredValue flag text))
    | 1 => r.takeOption flag (attachedValues text)
    | _ => .error (.usage (.missingValues flag))

/-- Takes a value: for the option that needs one, else as the positional argument. -/
def takeValue (r : Reader) (text : List Char) : Except Stop Reader :=
  match r.pending with
  | some (flag, values) =>
    let values := values ++ [text]
    if values.length = flag.arity then r.takeOption flag values
    else .ok { r with pending := some (flag, values) }
  | none =>
    match r.position with
    | .vacant => .ok { r with options := { r.options with image := some text }, position := .filled }
    | .filled | .closed => .ok { r with extras := r.extras ++ [text], position := .closed }

def requireComplete (r : Reader) : Except Stop Unit :=
  match r.pending with
  | some (flag, _) => .error (.usage (.missingValues flag))
  | none => .ok ()

def take (r : Reader) (token : Token) : Except Stop Reader :=
  match token with
  | .value text => r.takeValue text
  | .separator => do
    r.requireComplete
    match r.position with
    | .vacant => return r
    | .filled => return { r with position := .closed }
    | .closed => return { r with extras := r.extras ++ [['-', '-']] }
  | .option flag short attached => do
    r.requireComplete
    r.takeAttached flag short attached
  | .unknownOption text => do
    r.requireComplete
    return { r with
      extras := r.extras ++ [text]
      position := if r.position = .vacant then .vacant else .closed }

def finish (r : Reader) : Except Stop Options := do
  r.requireComplete
  if r.extras.isEmpty then return r.options else throw (.usage (.unrecognized r.extras))

end Reader

def parse (arguments : List (List Char)) : Except Stop Options := do
  let tokens ← (tokens arguments).mapError .usage
  let reader ← tokens.foldlM Reader.take .initial
  reader.finish

end ChipEight.CommandLine
