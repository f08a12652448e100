import NumberedBasic.Decimal.Read
import NumberedBasic.Text.Quoted

/-! # Command line arguments

Arguments are switches and the name of one program. Long switches may be cut
short, short ones may be joined, and a value stands behind `=` or in the next
argument. After two dashes all arguments are plain.
-/

namespace NumberedBasic.CommandLine

inductive Flag where
  | help
  | verbose
  | noBanner
  deriving DecidableEq, Repr

inductive Switch where
  | flag (flag : Flag)
  | seed
  deriving DecidableEq, Repr

namespace Switch

/-- All spellings, in the order in which they are looked for. -/
def spellings : List (Text × Switch) :=
  [(Text.ofString "-h", flag .help), (Text.ofString "--help", flag .help),
    (Text.ofString "-v", flag .verbose), (Text.ofString "--verbose", flag .verbose),
    (Text.ofString "--seed", seed), (Text.ofString "--no-banner", flag .noBanner)]

def ofSpelling? (spelling : Text) : Option Switch :=
  spellings.lookup spelling

def title : Switch → String
  | flag .help => "-h/--help"
  | flag .verbose => "-v/--verbose"
  | flag .noBanner => "--no-banner"
  | seed => "--seed"

end Switch

/-- A wrong command line. -/
inductive Misuse where
  | ambiguous (argument : Text) (spellings : List Text)
  | valueMissing
  | valueIgnored (switch : Switch) (value : Text)
  | notInteger (value : Text)
  | unrecognized (arguments : List Text)
  deriving DecidableEq, Repr

def Misuse.message : Misuse → String
  | ambiguous argument spellings =>
    "ambiguous option: " ++ String.ofList argument ++ " could match " ++
      ", ".intercalate (spellings.map String.ofList)
  | valueMissing => "argument " ++ Switch.seed.title ++ ": expected one argument"
  | valueIgnored switch value =>
    "argument " ++ switch.title ++ ": ignored explicit argument " ++
      String.ofList (Text.quoted value)
  | notInteger value =>
    "argument " ++ Switch.seed.title ++ ": invalid int value: " ++ String.ofList (Text.quoted value)
  | unrecognized arguments =>
    "unrecognized arguments: " ++ " ".intercalate (arguments.map String.ofList)

/-- What an argument is taken for. A switch may have a value attached to it, behind
`=` or, if it is short, without a mark. -/
inductive Role where
  | plain
  | divider
  | switch (switch : Switch) (short : Bool) (attached : Option Text)
  | unknown
  deriving DecidableEq, Repr

structure Word where
  argument : Text
  role : Role
  deriving DecidableEq, Repr

namespace Role

def dash : Char := '-'

/-- The argument that divides switches from plain arguments. -/
def dividing : Text := [dash, dash]

/-- The part before the first `=`, and the part behind it. -/
def cut (argument : Text) : Text × Option Text :=
  match argument.dropWhile (· != '=') with
  | [] => (argument, none)
  | _ :: value => (argument.takeWhile (· != '='), some value)

def isShort (spelling : Text) : Bool :=
  spelling.length = 2

/-- The switches that a long argument may be short for. -/
def longCandidates (argument : Text) : List (Text × Role) :=
  let (stem, attached) := cut argument
  (Switch.spellings.filter fun s => stem.isPrefixOf s.1).map fun s =>
    (s.1, switch s.2 (isShort s.1) attached)

def shortCandidates (argument : Text) : List (Text × Role) :=
  (Switch.spellings.filter fun s => s.1 = argument.take 2).map fun s =>
    (s.1, switch s.2 true (some (argument.drop 2)))

/-- A dash, digits and perhaps a point with digits behind it. A line feed at the end
does not count. -/
def isNegativeNumber (argument : Text) : Bool :=
  let body := if argument.getLast? = some '\n' then argument.dropLast else argument
  match body with
  | [] => false
  | first :: rest =>
    let whole := rest.takeWhile Text.isDigit
    first == dash &&
      match rest.dropWhile Text.isDigit with
      | [] => !whole.isEmpty
      | '.' :: fraction => !fraction.isEmpty && fraction.all Text.isDigit
      | _ => false

def of (argument : Text) : Except Misuse Role :=
  if argument.head? ≠ some dash ∨ argument.length = 1 then .ok plain
  else
    match Switch.ofSpelling? argument with
    | some s => .ok (switch s (isShort argument) none)
    | none =>
      let (stem, attached) := cut argument
      match attached.bind fun _ => Switch.ofSpelling? stem with
      | some s => .ok (switch s (isShort stem) attached)
      | none =>
        let isLong := (argument.drop 1).head? == some dash
        match if isLong then longCandidates argument else shortCandidates argument with
        | [(_, role)] => .ok role
        | first :: second :: more =>
          .error (.ambiguous argument ((first :: second :: more).map (·.1)))
        | [] =>
          if isNegativeNumber argument || argument.contains ' ' then .ok plain else .ok unknown

end Role

def Word.ofArguments : List Text → Except Misuse (List Word)
  | [] => .ok []
  | argument :: rest =>
    if argument = Role.dividing then
      .ok (⟨argument, .divider⟩ :: rest.map fun argument => ⟨argument, .plain⟩)
    else do
      let role ← Role.of argument
      return ⟨argument, role⟩ :: (← Word.ofArguments rest)

def Word.anySwitch (words : List Word) : Bool :=
  words.any fun word =>
    match word.role with
    | .switch _ _ _ | .unknown => true
    | .plain | .divider => false

/-- What the random numbers start from: the clock if nothing is said, or a number, or
not even that. -/
inductive Seed where
  | clock
  | number (n : Int)
  | nothing
  deriving DecidableEq, Repr

structure Options where
  program : Option Text
  verbose : Bool
  seed : Seed
  banner : Bool
  deriving DecidableEq, Repr

def Options.default : Options := ⟨none, false, .clock, true⟩

/-- A command line asks for help, or it has options. -/
inductive Wish where
  | help
  | options (options : Options)
  deriving DecidableEq, Repr

/-- The options so far, and the arguments that nothing takes. -/
structure Reader where
  options : Options
  extras : List Text

def isPadding (c : Char) : Bool :=
  Text.isBlank c && !(decide (0x1c ≤ c.toNat) && decide (c.toNat ≤ 0x1f))

/-- Reads an integer: a sign, and digits with underscores between them. -/
def integer? (text : Text) : Option Int := do
  let body := Text.dropEndWhile isPadding (text.dropWhile isPadding)
  let (negative, digits) := Field.takeSign (← Field.dropUnderscores? false body)
  if digits.isEmpty || !digits.all Text.isDigit || decide (integerDigits < digits.length) then
    none
  else
    let n := (Text.digitsValue digits : Int)
    return if negative then -n else n

def Flag.ofLetter? (letter : Char) : Option Flag :=
  match Switch.ofSpelling? [Role.dash, letter] with
  | some (.flag f) => some f
  | _ => none

/-- The flags joined in one argument. Anything else behind a flag is a value, and no
flag has one. -/
def Flag.joined (f : Flag) : Text → Except Misuse (List Flag)
  | [] => .ok [f]
  | first :: rest =>
    match ofLetter? first with
    | none => .error (.valueIgnored (.flag f) (first :: rest))
    | some next => (joined next rest).map (f :: ·)

/-- Reads a seed. A divider is no value, and nothing is left of it. -/
def Seed.read (value : Text) : Except Misuse Seed :=
  if value = Role.dividing then .ok .nothing
  else
    match integer? value with
    | some n => .ok (.number n)
    | none => .error (.notInteger value)

namespace Reader

def obey (r : Reader) : List Flag → Wish ⊕ Reader
  | [] => .inr r
  | .help :: _ => .inl .help
  | .verbose :: rest => obey { r with options := { r.options with verbose := true } } rest
  | .noBanner :: rest => obey { r with options := { r.options with banner := false } } rest

/-- Reads the seed, the only value that a switch has. -/
def withSeed (r : Reader) (value : Text) : Except Misuse Reader := do
  return { r with options := { r.options with seed := ← Seed.read value } }

def withProgram (r : Reader) (name : Text) : Reader :=
  { r with options := { r.options with program := some name } }

def withExtras (r : Reader) (words : List Word) : Reader :=
  { r with extras := r.extras ++ words.map (·.argument) }

/-- Takes the arguments behind the last switch: a program's name, unless there is one
already, and a divider beside it. -/
def takeRest (r : Reader) (words : List Word) : Reader :=
  if r.options.program.isSome then r.withExtras words
  else
    match words with
    | ⟨_, .divider⟩ :: name :: rest => (r.withProgram name.argument).withExtras rest
    | [⟨_, .divider⟩] => r
    | name :: ⟨_, .divider⟩ :: rest => (r.withProgram name.argument).withExtras rest
    | name :: rest => (r.withProgram name.argument).withExtras rest
    | [] => r

def finish (r : Reader) : Except Misuse Wish :=
  if r.extras.isEmpty then .ok (.options r.options) else .error (.unrecognized r.extras)

def takeWords (r : Reader) : List Word → Except Misuse Wish
  | [] => r.finish
  | word :: rest =>
    match word.role with
    | .unknown => takeWords (r.withExtras [word]) rest
    | .switch .seed _ (some value) => do takeWords (← r.withSeed value) rest
    | .switch .seed _ none =>
      match rest with
      | ⟨value, .plain⟩ :: rest => do takeWords (← r.withSeed value) rest
      | _ => .error .valueMissing
    | .switch (.flag f) _ none =>
      match r.obey [f] with
      | .inl wish => .ok wish
      | .inr r => takeWords r rest
    | .switch (.flag f) short (some value) =>
      if short && !value.isEmpty then
        match f.joined value with
        | .error misuse => .error misuse
        | .ok flags =>
          match r.obey flags with
          | .inl wish => .ok wish
          | .inr r => takeWords r rest
      else .error (.valueIgnored (.flag f) value)
    | .plain | .divider =>
      if Word.anySwitch rest then
        if r.options.program.isSome then takeWords (r.withExtras [word]) rest
        else takeWords (r.withProgram word.argument) rest
      else (r.takeRest (word :: rest)).finish

end Reader

/-- Reads the arguments of a command line. -/
def read (arguments : List Text) : Except Misuse Wish := do
  Reader.takeWords ⟨Options.default, []⟩ (← Word.ofArguments arguments)

end NumberedBasic.CommandLine
