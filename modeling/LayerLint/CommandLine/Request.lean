import LayerLint.CommandLine.Usage
import LayerLint.Text.Similarity
import LayerLint.Text.Wildcard

/-! What a call asks for, read from its arguments. -/

namespace LayerLint.CommandLine

inductive Format where
  | text
  | json
  deriving DecidableEq, Repr

structure ScanRequest where
  root : String
  rules : List RuleId := []
  format : Format := .text
  maxMethodLines : Option UInt64 := none
  namingMinWords : Option UInt64 := none
  config : Option String := none
  verbose : Bool := false
  deriving DecidableEq, Repr

inductive Request where
  | help (command : Command)
  | version
  | scan (request : ScanRequest)
  | init (dir : String)
  deriving DecidableEq, Repr

/-! ### Values -/

/-- The number of decimal digits after those that make up `n`. -/
def numberAfter (n : Nat) : List Char → Except NumberFault UInt64
  | [] => .ok n.toUInt64
  | c :: cs =>
    if !c.isDigit then .error .invalidDigit
    else
      let next := n * 10 + (c.toNat - '0'.toNat)
      if next < UInt64.size then numberAfter next cs else .error .tooLarge

/-- The number of a text; a plus sign may stand before its digits. -/
def numberOf (text : String) : Except NumberFault UInt64 :=
  match text.toList with
  | [] => .error .empty
  | ['+'] => .error .invalidDigit
  | '+' :: cs => numberAfter 0 cs
  | cs => numberAfter 0 cs

/-- The arguments read so far: the values given, the arguments in the order of their first use, and
the argument that is still open. An open argument is checked when the next one is taken up. -/
structure Reading where
  root : String := ""
  dir : String := "."
  request : ScanRequest := { root := "" }
  used : List Argument := []
  waiting : Option (Argument × Option String) := none
  placed : Bool := false

namespace Reading

/-- The rules of the pieces of a text between commas. -/
def rulesOf (text : String) : Except UsageFault (List RuleId) :=
  ((Text.pieces ',' text.toList).map String.ofList).mapM fun piece =>
    match RuleId.ofString? piece with
    | some rule => .ok rule
    | none => .error { problem := .unknownRule .rules piece }

def formatOf (text : String) : Except UsageFault Format :=
  match text with
  | "text" => .ok .text
  | "json" => .ok .json
  | "" => .error { problem := .missingValue .format }
  | _ =>
    .error {
      problem := .unknownValue .format text
      tip := (Text.similar text Argument.format.values).getLast?.map .value }

def pathOf (a : Argument) (text : String) : Except UsageFault String :=
  if text.isEmpty then .error { problem := .missingValue a } else .ok text

def numberFor (a : Argument) (text : String) : Except UsageFault UInt64 :=
  (numberOf text).mapError fun fault => { problem := .notANumber a text fault }

def set (r : Reading) (a : Argument) (value : String) : Except UsageFault Reading := do
  match a with
  | .root => return { r with root := ← pathOf a value }
  | .dir => return { r with dir := ← pathOf a value }
  | .rules =>
    let rules ← rulesOf value
    return { r with request := { r.request with rules := r.request.rules ++ rules } }
  | .format => return { r with request := { r.request with format := ← formatOf value } }
  | .maxMethodLines =>
    return { r with request := { r.request with maxMethodLines := some (← numberFor a value) } }
  | .namingMinWords =>
    return { r with request := { r.request with namingMinWords := some (← numberFor a value) } }
  | .config => return { r with request := { r.request with config := some (← pathOf a value) } }
  | .verbose => return { r with request := { r.request with verbose := true } }
  | .help | .version => return r

/-- The reading with the use of an argument noted. -/
def note (r : Reading) (a : Argument) : Reading :=
  if r.used.contains a then r else { r with used := r.used ++ [a] }

def give (c : Command) (r : Reading) (a : Argument) (value : String) :
    Except UsageFault Reading :=
  if r.used.contains a && !a.isList then
    .error { problem := .repeated a, usage := some c.usage }
  else (r.note a).set a value

/-- The reading with the open argument checked and taken in. -/
def settle (c : Command) (r : Reading) : Except UsageFault Reading :=
  match r.waiting with
  | none => .ok r
  | some (a, none) => .error { problem := .missingValue a }
  | some (a, some value) => { r with waiting := none }.give c a value

/-- The arguments in use if the open one is counted, whatever its value is worth. -/
def usedByNow (r : Reading) : List Argument :=
  match r.waiting with
  | some (a, some _) =>
    if r.used.contains a && !a.isList then r.used.erase a else (r.note a).used
  | _ => r.used

end Reading

/-! ### Arguments -/

/-- What ends the reading of arguments before their end. -/
inductive Stop where
  | shown (request : Request)
  | fault (fault : UsageFault)

/-- The hint for a name that no argument has: a similar one of the command, or one of a command that
follows. -/
def longTip (c : Command) (name : String) (rest : List String) : Option Tip :=
  match (Text.similar name (c.options.filterMap Argument.long?)).getLast? with
  | some long => some (.argument long)
  | none =>
    if c != .program then none
    else
      let later := Command.named.filterMap fun (command, sub) =>
        match (Text.similar name (sub.options.filterMap Argument.long?)).getLast? with
        | some long => (rest.findIdx? (· == command)).map fun i => (i, Tip.argumentOf command long)
        | none => none
      ((later.mergeSort fun a b => a.1 ≤ b.1).head?).map (·.2)

/-- The fault of a name that no argument has. -/
def unknownLong (c : Command) (r : Reading) (trailing : Bool) (name : String)
    (rest : List String) : UsageFault :=
  let tip := longTip c name rest
  let suggested := match tip with
    | some (.argument long) => c.options.filter (·.long? == some long)
    | _ => []
  let arg := "--" ++ name
  { problem := .unknownArgument arg
    tip := tip.or (if !trailing && c.positional?.isSome then some (.asValue arg) else none)
    usage := some (c.usageWith (r.usedByNow ++ suggested)) }

/-- A flag is given; help and version end the reading. -/
def giveFlag (c : Command) (r : Reading) (a : Argument) : Except Stop Reading := do
  let r ← (r.settle c).mapError .fault
  match a with
  | .help => throw (.shown (.help c))
  | .version => throw (.shown .version)
  | a => (r.give c a "").mapError .fault

/-- The letters after one dash, in order. -/
def giveShorts (c : Command) (r : Reading) : List Char → Except Stop Reading
  | [] => .ok r
  | letter :: rest =>
    match c.options.find? (·.short? == some letter) with
    | some a => do
      let r ← giveFlag c r a
      giveShorts c r rest
    | none =>
      let arg := String.ofList ['-', letter]
      .error (.fault {
        problem := .unknownArgument arg
        tip := if c.positional?.isSome then some (.asValue arg) else none
        usage := some c.usage })

/-- An argument with two dashes: a name, and a value if an equals sign follows. -/
def giveLong (c : Command) (r : Reading) (trailing : Bool) (cs : List Char)
    (rest : List String) : Except Stop Reading :=
  let name := String.ofList (cs.takeWhile (· != '='))
  let value? := match cs.dropWhile (· != '=') with
    | _ :: value => some (String.ofList value)
    | [] => none
  match c.options.find? (·.long? == some name) with
  | none => .error (.fault (unknownLong c r trailing name rest))
  | some a =>
    match a.takesValue, value? with
    | false, none => giveFlag c r a
    | false, some value =>
      .error (.fault {
        problem := .unexpectedValue a value
        usage := some (c.usageWith (r.used ++ [a])) })
    | true, some value => do
      let r ← (r.settle c).mapError .fault
      (r.give c a value).mapError .fault
    | true, none => do
      let r ← (r.settle c).mapError .fault
      .ok { r with waiting := some (a, none) }

/-- An argument without dashes is the value of an open argument, or is given by its place. -/
def givePlain (c : Command) (r : Reading) (trailing : Bool) (arg : String) :
    Except Stop Reading :=
  match r.waiting, trailing with
  | some (a, none), false => .ok { r with waiting := some (a, some arg) }
  | _, _ =>
    match c.positional? with
    | some a =>
      if r.placed then
        .error (.fault { problem := .unknownArgument arg, usage := some c.usage })
      else do
        let r ← (r.settle c).mapError .fault
        .ok { r with waiting := some (a, some arg), placed := true }
    | none => .error (.fault { problem := .unknownArgument arg, usage := some c.usage })

/-- Reads the arguments of a command; after two dashes that stand alone, all are plain. -/
def readArguments (c : Command) (trailing : Bool) (r : Reading) :
    List String → Except Stop Reading
  | [] => (r.settle c).mapError .fault
  | arg :: rest => do
    if trailing then readArguments c true (← givePlain c r true arg) rest
    else
      match arg.toList with
      | ['-', '-'] => readArguments c true r rest
      | '-' :: '-' :: cs => readArguments c false (← giveLong c r false cs rest) rest
      | '-' :: letter :: cs => readArguments c false (← giveShorts c r (letter :: cs)) rest
      | _ => readArguments c false (← givePlain c r false arg) rest

def requestOf (c : Command) (r : Reading) : Except Stop Request :=
  let missing := c.required.filter (!r.used.contains ·)
  if !missing.isEmpty then
    .error (.fault {
      problem := .missingArguments missing
      usage := some (c.usageWith (r.used ++ missing)) })
  else
    match c with
    | .scan => .ok (.scan { r.request with root := r.root })
    | .init => .ok (.init r.dir)
    | .program | .help => .ok (.help c)

def readCommand (c : Command) (args : List String) : Except Stop Request := do
  requestOf c (← readArguments c false {} args)

/-! ### Commands -/

/-- The command whose help is asked for by name. -/
def helpOf (c : Command) : List String → Except Stop Request
  | [] => .ok (.help c)
  | name :: rest =>
    match c, Command.named.lookup name with
    | .program, some sub => helpOf sub rest
    | _, _ =>
      .error (.fault { problem := .unknownSubcommand name, usage := some c.usage })

/-- The fault of a name that no command has. -/
def unknownCommand (name : String) (trailing : Bool) : UsageFault :=
  let found := Text.similar name (Command.named.map (·.1))
  if trailing && (Command.named.lookup name).isSome then
    { problem := .unknownArgument name
      tip := some (.withoutDashes name)
      usage := some Command.program.usage }
  else
    { problem := .unknownSubcommand name
      tip := if found.isEmpty then none else some (.subcommands found)
      usage := some Command.program.usage }

/-- Reads a call: flags of the program, then a command with its arguments. -/
def readCall (trailing : Bool) : List String → Except Stop Request
  | [] => .ok (.help .program)
  | arg :: rest =>
    if trailing then .error (.fault (unknownCommand arg true))
    else
      match arg.toList with
      | ['-', '-'] => readCall true rest
      | '-' :: '-' :: cs => do
        let _ ← giveLong .program {} false cs rest
        readCall false rest
      | '-' :: letter :: cs => do
        let _ ← giveShorts .program {} (letter :: cs)
        readCall false rest
      | _ =>
        match Command.named.lookup arg with
        | some .help => helpOf .program rest
        | some c => readCommand c rest
        | none => .error (.fault (unknownCommand arg false))

/-- What a call asks for, or what is wrong with it. -/
def Request.ofArguments (args : List String) : Except UsageFault Request :=
  match readCall false args with
  | .ok request => .ok request
  | .error (.shown request) => .ok request
  | .error (.fault fault) => .error fault

end LayerLint.CommandLine
