import SpanCapture.CommandLine.Options
import SpanCapture.Number.Power

/-! Reading arguments. An option that waits for its value takes the next argument, unless
that looks like an option itself. A value is looked at only when the next option comes,
or at the end; an argument nobody knows is therefore reported before a bad value in
front of it. -/
namespace SpanCapture.CommandLine

/-- Why arguments are not accepted, or which text is asked for instead of a run. -/
inductive Refusal where
  | unknownArgument
  | valueValidation
  /-- The value is missing or none of the possible ones. -/
  | invalidValue
  | argumentConflict
  | tooManyValues
  /-- The help text is asked for, in full or in short. -/
  | displayHelp (full : Bool)
  | displayVersion
  deriving Repr, DecidableEq

/-- The refusal as the short form of an option gives it: it asks for the short text. -/
def Refusal.brief : Refusal → Refusal
  | .displayHelp _ => .displayHelp false
  | refusal => refusal

/-- A number without sign, in decimal digits, perhaps after a plus. -/
def natural? (text : String) : Option Nat :=
  let digits := match text.toList with
    | '+' :: rest => rest
    | cs => cs
  if digits.isEmpty || !digits.all Char.isDigit then none
  else some (digits.foldl (fun n c => n * 10 + (c.toNat - 48)) 0)

/-- A count: a number of sixty-four bits. -/
def count? (text : String) : Option Nat :=
  match natural? text with
  | some n => if n < twoTo 64 then some n else none
  | none => none

/-- A percentage. A minus is accepted before zero alone. -/
def percent? (text : String) : Option Nat :=
  match text.toList with
  | '-' :: digits =>
    if !digits.isEmpty && digits.all (· == '0') then some 0 else none
  | _ =>
    match natural? text with
    | some n => if n ≤ 100 then some n else none
    | none => none

/-- What was read so far: the values, the options given, and one that waits to be looked at
with the values it has got. -/
structure Reading where
  options : Options := {}
  given : List OptionName := []
  pending : Option (OptionName × List String) := none

def setValue (o : OptionName) (value : String) (options : Options) : Except Refusal Options :=
  let counted (store : Nat → Options) : Except Refusal Options :=
    match count? value with
    | some n => .ok (store n)
    | none => .error .valueValidation
  match o with
  | .config => if value.isEmpty then .error .invalidValue
      else .ok { options with configPath := some value }
  | .traces => counted fun n => { options with traces := n }
  | .depth => counted fun n => { options with depth := n }
  | .fanout => counted fun n => { options with fanout := n }
  | .application => .ok { options with application := some value }
  | .failEvery => counted fun n => { options with failEvery := n }
  | .endpointRatio =>
    match percent? value with
    | some n => .ok { options with endpointRatio := some n }
    | none => .error .valueValidation
  | .serverName => .ok { options with serverName := some value }
  | .maxFrames => counted fun n => { options with maxFrames := some n }
  | .format =>
    if value = "text" then .ok { options with format := .text }
    else if value = "json" then .ok { options with format := .json }
    else .error .invalidValue
  | .stats => .ok { options with stats := true }
  | .debug => .ok { options with debug := true }
  | .help => .error (.displayHelp true)
  | .version => .error .displayVersion

/-- Looks at an option with its values: there must be one if it takes any, and no option
comes twice. -/
def accept (o : OptionName) (values : List String) (r : Reading) : Except Refusal Reading :=
  if o.takesValue && values.isEmpty then .error .invalidValue
  else if r.given.contains o then .error .argumentConflict
  else
    (setValue o (values.headD "") r.options).map fun options =>
      { r with options, given := o :: r.given }

def resolve (r : Reading) : Except Refusal Reading :=
  match r.pending with
  | none => .ok r
  | some (o, values) => accept o values { r with pending := none }

def attach (o : OptionName) (value : Option String) (r : Reading) : Except Refusal Reading := do
  match value with
  | some value => accept o [value] (← resolve r)
  | none =>
    let r ← resolve r
    if o.takesValue then .ok { r with pending := some (o, []) } else accept o [] r

def longOption (text : String) (r : Reading) : Except Refusal Reading :=
  let cs := text.toList
  let name := String.ofList (cs.takeWhile (· != '='))
  let value := match cs.dropWhile (· != '=') with
    | _ :: value => some (String.ofList value)
    | [] => none
  match OptionName.ofLong? name with
  | none => .error .unknownArgument
  | some o => if value.isSome && !o.takesValue then .error .tooManyValues else attach o value r

/-- Options in their short forms behind one dash. The first that takes a value takes the
rest, with or without an equals sign in front. -/
def shortOptions (letters : List Char) (r : Reading) : Except Refusal Reading :=
  match letters with
  | [] => .ok r
  | letter :: rest =>
    match OptionName.ofShort? letter with
    | none => .error .unknownArgument
    | some o =>
      if !o.takesValue then
        match attach o none r with
        | .error refusal => .error refusal.brief
        | .ok r => shortOptions rest r
      else
        match rest with
        | [] => attach o none r
        | '=' :: value => attach o (some (String.ofList value)) r
        | value => attach o (some (String.ofList value)) r

/-- An argument that is no option: the value of an option that waits for one. -/
def plainArgument (text : String) (r : Reading) : Except Refusal Reading :=
  match r.pending with
  | some (o, []) => .ok { r with pending := some (o, [text]) }
  | _ => .error .unknownArgument

/-- Reads arguments one after another. Behind two dashes nothing is an option any more,
and there are no other arguments. -/
def readAll (r : Reading) : List String → Except Refusal Reading
  | [] => resolve r
  | arg :: rest =>
    match arg.toList with
    | ['-', '-'] => if rest.isEmpty then resolve r else .error .unknownArgument
    | '-' :: '-' :: text =>
      match longOption (String.ofList text) r with
      | .error refusal => .error refusal
      | .ok r => readAll r rest
    | '-' :: letter :: letters =>
      match shortOptions (letter :: letters) r with
      | .error refusal => .error refusal
      | .ok r => readAll r rest
    | _ =>
      match plainArgument arg r with
      | .error refusal => .error refusal
      | .ok r => readAll r rest

def parse (args : List String) : Except Refusal Options := (readAll {} args).map (·.options)

end SpanCapture.CommandLine
