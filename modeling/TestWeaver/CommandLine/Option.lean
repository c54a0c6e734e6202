import TestWeaver.Number.Written
import TestWeaver.Text.Quoted

/-!
Options on a command line. A word is an option, an argument, or the separator after which all words are arguments; names
may be shortened as long as they are told apart, and values may stand in the same word or in the next one.
-/
namespace TestWeaver.CommandLine

structure Flag where
  names : List Text
  takesValue : Bool := true
  isRequired : Bool := false
  deriving DecidableEq, Repr

namespace Flag

def title (f : Flag) : Text := Text.join "/" f.names

def help : Flag := { names := ["-h", "--help"], takesValue := false }

end Flag

inductive Sign where
  | argument
  | separator
  | option (flag : Flag) (name : Text) (attached : Option Text)
  | unknownOption
  deriving DecidableEq, Repr

def dash : CodePoint := .char '-'

def find? (flags : List Flag) (name : Text) : Option Flag := flags.find? fun f => f.names.contains name

def namesIn (flags : List Flag) : List (Text × Flag) := flags.flatMap fun f => f.names.map fun name => (name, f)

def cutValue (word : Text) : Text × Option Text :=
  match word.cut? "=" with
  | some (name, value) => (name, some value)
  | none => (word, none)

def guesses (flags : List Flag) (word : Text) : List (Flag × Text × Option Text) :=
  if word.startsWith "--" then
    let (lead, attached) := cutValue word
    (namesIn flags).filterMap fun (name, f) => if Text.startsWith name lead then some (f, name, attached) else none
  else
    (namesIn flags).filterMap fun (name, f) =>
      if name = word.take 2 then some (f, name, some (word.drop 2))
      else if Text.startsWith name word then some (f, name, none)
      else none

def isNumber (t : Text) : Bool := !t.isEmpty && t.all Written.isDigit

def isNegativeNumber (word : Text) : Bool :=
  match word with
  | [] => false
  | c :: digits =>
    let digits := if Text.endsWith digits "\n" then digits.dropLast else digits
    c = dash && (isNumber digits || match Text.cut? digits "." with
      | some (whole, places) => whole.all Written.isDigit && isNumber places
      | none => false)

def signOf (flags : List Flag) (word : Text) : Except Text Sign :=
  if !word.startsWith "-" then .ok .argument
  else match find? flags word with
  | some f => .ok (.option f word none)
  | none =>
    if word.length = 1 then .ok .argument
    else match cutValue word with
    | (name, some value) =>
      match find? flags name with
      | some f => .ok (.option f name (some value))
      | none => guessed word (guesses flags word)
    | (_, none) => guessed word (guesses flags word)
where
  guessed (word : Text) : List (Flag × Text × Option Text) → Except Text Sign
    | [] =>
      if isNegativeNumber word || word.any (· == .char ' ') then .ok .argument else .ok .unknownOption
    | [(f, name, attached)] => .ok (.option f name attached)
    | several =>
      .error ("ambiguous option: " ++ word ++ " could match " ++ Text.join ", " (several.map (·.2.1)))

def signed (flags : List Flag) : List Text → Except Text (List (Text × Sign))
  | [] => .ok []
  | word :: words =>
    if word = "--" then .ok ((word, .separator) :: words.map fun w => (w, .argument))
    else do
      let sign ← signOf flags word
      return (word, sign) :: (← signed flags words)

structure Cluster where
  complete : List (Flag × Option Text) := []
  open? : Option Flag := none
  deriving DecidableEq, Repr

namespace Cluster

def alone (f : Flag) : Cluster := if f.takesValue then { open? := some f } else { complete := [(f, none)] }

def after (f : Flag) (c : Cluster) : Cluster := { c with complete := (f, none) :: c.complete }

def refused (f : Flag) (attached : Text) : Text :=
  "argument " ++ f.title ++ ": ignored explicit argument " ++ attached.quoted

def attached (flags : List Flag) (f : Flag) (isShort : Bool) : Text → Except Text Cluster
  | [] => if f.takesValue then .ok { complete := [(f, some [])] } else .error (refused f [])
  | c :: more =>
    if f.takesValue then .ok { complete := [(f, some (c :: more))] }
    else match if isShort then find? flags [dash, c] else none with
    | none => .error (refused f (c :: more))
    | some next => if more.isEmpty then .ok ((alone next).after f) else (attached flags next true more).map (after f)

def ofOption (flags : List Flag) (f : Flag) (name : Text) : Option Text → Except Text Cluster
  | none => .ok (alone f)
  | some t => attached flags f (!name.startsWith "--") t

end Cluster

inductive Stop where
  | help
  | misuse (message : Text)
  deriving DecidableEq, Repr

structure Reading where
  values : List (Flag × Text) := []
  extras : List Text := []
  command : Option (List Text) := none
  deriving DecidableEq, Repr

namespace Reading

def use (r : Reading) : List (Flag × Option Text) → Except Stop Reading
  | [] => .ok r
  | (_, none) :: _ => .error .help
  | (f, some value) :: rest => use { r with values := r.values ++ [(f, value)] } rest

def withExtras (r : Reading) (words : List Text) : Reading := { r with extras := r.extras ++ words }

def withoutValue (f : Flag) : Stop := .misuse ("argument " ++ f.title ++ ": expected one argument")

/-- Reads words that start with none of a pending option, which takes the next word as its value. The first argument begins
a command where there may be one. -/
def read (flags : List Flag) (mayCommand : Bool) :
    List (Text × Sign) → Option (List (Flag × Option Text) × Flag) → Reading → Except Stop Reading
  | [], none, r => .ok r
  | [], some (_, f), _ => .error (withoutValue f)
  | (word, .argument) :: rest, some (uses, f), r => do
    read flags mayCommand rest none (← r.use (uses ++ [(f, some word)]))
  | _ :: _, some (_, f), _ => .error (withoutValue f)
  | (word, .unknownOption) :: rest, none, r => read flags mayCommand rest none (r.withExtras [word])
  | (_, .option f name attached) :: rest, none, r =>
    match Cluster.ofOption flags f name attached with
    | .error message => .error (.misuse message)
    | .ok c =>
      match c.open? with
      | some f => read flags mayCommand rest (some (c.complete, f)) r
      | none => do read flags mayCommand rest none (← r.use c.complete)
  | (word, .argument) :: rest, none, r =>
    if mayCommand then .ok { r with command := some (word :: rest.map (·.1)) }
    else read flags mayCommand rest none (r.withExtras [word])
  | (word, .separator) :: rest, none, r =>
    if mayCommand && !rest.isEmpty then .ok { r with command := some (word :: rest.map (·.1)) }
    else read flags mayCommand rest none (r.withExtras [word])

def value? (r : Reading) (name : Text) : Option Text :=
  (r.values.reverse.find? fun (f, _) => f.names.contains name).map (·.2)

def isGiven (r : Reading) (f : Flag) : Bool := r.values.any fun (g, _) => g = f

def checkRequired (flags : List Flag) (r : Reading) : Except Stop Unit :=
  let missing := flags.filter fun f => f.isRequired && !r.isGiven f
  if missing.isEmpty then .ok ()
  else .error (.misuse ("the following arguments are required: " ++ Text.join ", " (missing.map Flag.title)))

end Reading

def readWords (flags : List Flag) (mayCommand : Bool) (words : List Text) : Except Stop Reading := do
  let signs ← (signed flags words).mapError .misuse
  let r ← Reading.read flags mayCommand signs none {}
  r.checkRequired flags
  return r

end TestWeaver.CommandLine
