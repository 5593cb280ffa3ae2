import TrackTimer.Decimal.Numeral

/-! # The command line of a replay

The command line is read from left to right. An option may be written long or short, and its value
may stand in the next argument or, for a long one behind `=`, for a short one right behind the
letter, in the same. An argument that looks like an option is never taken as a value. Every option
may be given once. Asking for help ends the reading at once, and so does the first mistake.
-/

namespace TrackTimer.Replay

/-! ## Speeds -/

/-- Reads an unsigned speed: digits with or without a point and an exponent, or a word. -/
def unsignedSpeed? (text : List Char) : Option Float32 :=
  let word := String.ofList (text.map Char.toLower)
  if word = "inf" ∨ word = "infinity" then
    some (1.0 / 0.0)
  else if word = "nan" then
    some (0.0 / 0.0)
  else do
    let (whole, rest) := Decimal.digitsOf text
    let (fraction, rest) := Decimal.fractionOf rest
    let fraction := fraction.getD []
    let (exponent, rest) ← Decimal.exponentOf? rest
    if (whole ++ fraction).isEmpty || !rest.isEmpty then none
    else return (Decimal.numeral whole fraction exponent).toFloat32

/-- Reads a speed, which may have a sign. -/
def speed? : List Char → Option Float32
  | '-' :: rest => (unsignedSpeed? rest).map (- ·)
  | '+' :: rest => unsignedSpeed? rest
  | text => unsignedSpeed? text

/-! ## Options -/

/-- What the command line has given so far. -/
structure Given where
  track : Option String := none
  samples : Option String := none
  launchSpeed : Option Float32 := none
  noSectors : Bool := false

structure Options where
  track : String
  samples : String
  /-- The least speed of a launch in meters per second. -/
  launchSpeed : Float32
  noSectors : Bool
deriving DecidableEq, Inhabited

/-- The least speed of a launch if none is given. -/
def standardLaunchSpeed : Float32 := 5.0

inductive Refusal where
  | help
  | usage
deriving DecidableEq, Inhabited

def Refusal.exitCode : Refusal → UInt32
  | help => 0
  | usage => 2

inductive OptionName where
  | track
  | samples
  | launchSpeed
  | noSectors
  | help
deriving DecidableEq, Inhabited

namespace OptionName

def ofLong? (name : String) : Option OptionName :=
  if name = "track" then some track
  else if name = "samples" then some samples
  else if name = "launch-speed" then some launchSpeed
  else if name = "no-sectors" then some noSectors
  else if name = "help" then some help
  else none

def ofLetter? (c : Char) : Option OptionName :=
  if c = 't' then some track
  else if c = 's' then some samples
  else if c = 'h' then some help
  else none

def takesValue : OptionName → Bool
  | track | samples | launchSpeed => true
  | noSectors | help => false

end OptionName

namespace Given

def note (g : Given) (option : OptionName) (value : List Char) : Except Refusal Given :=
  match option with
  | .track =>
    if g.track.isSome || value.isEmpty then .error .usage
    else .ok { g with track := some (.ofList value) }
  | .samples =>
    if g.samples.isSome || value.isEmpty then .error .usage
    else .ok { g with samples := some (.ofList value) }
  | .launchSpeed =>
    match g.launchSpeed, speed? value with
    | none, some speed => .ok { g with launchSpeed := some speed }
    | _, _ => .error .usage
  | .noSectors => if g.noSectors then .error .usage else .ok { g with noSectors := true }
  | .help => .error .help

/-- The options, if all that have to be given are. -/
def finish (g : Given) : Except Refusal Options :=
  match g.track, g.samples with
  | some track, some samples =>
    .ok ⟨track, samples, g.launchSpeed.getD standardLaunchSpeed, g.noSectors⟩
  | _, _ => .error .usage

end Given

/-! ## Arguments -/

/-- What an argument is, from how it looks. -/
inductive Argument where
  | endOfOptions
  /-- A long option, with the value behind `=` if there is one. -/
  | long (name : List Char) (value : Option (List Char))
  /-- Letters behind a hyphen. -/
  | letters (letters : List Char)
  | plain

def Argument.ofText : List Char → Argument
  | ['-', '-'] => endOfOptions
  | '-' :: '-' :: rest =>
    match rest.dropWhile (· != '=') with
    | [] => long rest none
    | _ :: value => long (rest.takeWhile (· != '=')) (some value)
  | '-' :: c :: rest => letters (c :: rest)
  | _ => plain

/-- Where the reading stands: behind whole options, behind an option whose value comes next, or
behind the end of the options. -/
inductive Reading where
  | options (given : Given)
  | valueOf (option : OptionName) (given : Given)
  | ended (given : Given)

namespace Reading

/-- Takes letters behind a hyphen. A letter whose option has a value takes the rest for it. -/
def letters (given : Given) : List Char → Except Refusal Reading
  | [] => .ok (.options given)
  | c :: rest =>
    match OptionName.ofLetter? c with
    | none => .error .usage
    | some option =>
      if option.takesValue then
        match rest with
        | [] => .ok (.valueOf option given)
        | '=' :: value => (given.note option value).map .options
        | value => (given.note option value).map .options
      else
        match given.note option [] with
        | .ok given => letters given rest
        | .error refusal => .error refusal

def long (given : Given) (name : List Char) (value : Option (List Char)) :
    Except Refusal Reading :=
  match OptionName.ofLong? (.ofList name), value with
  | none, _ => .error .usage
  | some option, some value =>
    if option.takesValue then (given.note option value).map .options else .error .usage
  | some option, none =>
    if option.takesValue then .ok (.valueOf option given)
    else (given.note option []).map .options

def step : Reading → String → Except Refusal Reading
  | .options given, text =>
    match Argument.ofText text.toList with
    | .endOfOptions => .ok (.ended given)
    | .long name value => long given name value
    | .letters cs => letters given cs
    | .plain => .error .usage
  | .valueOf option given, text =>
    match Argument.ofText text.toList with
    | .plain => (given.note option text.toList).map .options
    | _ => .error .usage
  | .ended _, _ => .error .usage

/-- The options, once there are no more arguments. -/
def finish : Reading → Except Refusal Options
  | .options given | .ended given => given.finish
  | .valueOf .. => .error .usage

end Reading

def Options.ofArguments (arguments : List String) : Except Refusal Options := do
  let reading ← arguments.foldlM Reading.step (.options {})
  reading.finish

def helpLines : List String :=
  ["Replay a recorded GPS session through the lap timer",
   "",
   "Usage: lap-replay [OPTIONS] --track <TRACK> --samples <SAMPLES>",
   "",
   "Options:",
   "  -t, --track <TRACK>                Track configuration (JSON)",
   "  -s, --samples <SAMPLES>            Session log, one JSON fix per line",
   "      --launch-speed <LAUNCH_SPEED>  Minimum speed (m/s) through the start line for the launch "
     ++ "to count [default: 5]",
   "      --no-sectors                   Ignore sector waypoints even if the track defines them",
   "  -h, --help                         Print help"]

def helpText : String := .join (helpLines.map (· ++ "\n"))

end TrackTimer.Replay
