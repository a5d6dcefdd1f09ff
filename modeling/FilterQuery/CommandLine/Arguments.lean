/-!
# Command-line arguments

A grammar lists the options of a command and its subcommands; `parse` reads arguments from left to
right. An option that takes a value holds it back until something else is said, so a fault in the
value is reported after faults in the words that follow it only when those are unknown. A word that
looks like an option is never a value.
-/

namespace FilterQuery.CommandLine

/-- What is wrong with arguments, or what they ask for instead of a command. -/
inductive UsageError where
  /-- An option stands without its value. -/
  | noValue (option : String)
  /-- The value of an option is empty where it must not be. -/
  | emptyValue (option : String)
  /-- The value of an option is none of those it takes. -/
  | badValue (option value : String)
  /-- An argument belongs nowhere. -/
  | unknown (argument : String)
  /-- A word stands where a subcommand belongs, but names none. -/
  | unknownCommand (word : String)
  /-- An option is given twice. -/
  | repeated (option : String)
  /-- A flag is given a value. -/
  | valueForFlag (option : String)
  /-- Help is asked for. -/
  | help
  /-- The version is asked for. -/
  | version
  /-- Nothing at all is said about the subcommand. -/
  | noCommand
  /-- There are options but no subcommand. -/
  | missingCommand
  deriving DecidableEq

/-- What a check says of a value. -/
inductive Verdict where
  /-- It is a value of the option. -/
  | accepted
  /-- It is empty, and the option takes no empty value. -/
  | empty
  /-- It is none of the values of the option. -/
  | wrong
  deriving DecidableEq

/-- How often an option is given, and whether with a value. -/
inductive Arity where
  /-- At most once, without a value. -/
  | flag
  /-- Any number of times, without a value. -/
  | counter
  /-- At most once, with a value. -/
  | single
  /-- Any number of times, each with a value. -/
  | several
  /-- Asks for help. -/
  | help
  /-- Asks for the version. -/
  | version
  deriving DecidableEq

/-- An option. -/
structure OptionSpec where
  /-- Its name behind two hyphens. -/
  name : String
  /-- Its letter behind one hyphen. -/
  letter : Option Char
  /-- How often it is given. -/
  arity : Arity
  /-- Which values it takes. -/
  check : String → Verdict

/-- Whether an option takes a value. -/
def OptionSpec.takesValue (o : OptionSpec) : Bool := o.arity = .single || o.arity = .several

/-- Whether an option may be given once only. -/
def OptionSpec.onceOnly (o : OptionSpec) : Bool := o.arity = .flag || o.arity = .single

/-- What a command understands. -/
inductive Grammar where
  /-- Options and at most one argument. -/
  | command (options : List OptionSpec) (argument : Option OptionSpec)
  /-- Options and subcommands. -/
  | group (options : List OptionSpec) (commands : List (String × Grammar))

namespace Grammar

/-- The options of a command. -/
def options : Grammar → List OptionSpec
  | .command options _ | .group options _ => options

/-- The argument of a command, for which it has a place. -/
def argument? : Grammar → Option OptionSpec
  | .command _ argument => argument
  | .group _ _ => none

/-- The subcommands of a command. -/
def commands : Grammar → List (String × Grammar)
  | .command _ _ => []
  | .group _ commands => commands

/-- Whether a command has subcommands. -/
def isGroup : Grammar → Bool
  | .command _ _ => false
  | .group _ _ => true

/-- The name of the subcommand that shows help. -/
def helpName : String := "help"

/-- What asking for help on a path of subcommands comes to. -/
def helpOn (g : Grammar) : List String → UsageError
  | [] => .help
  | word :: rest =>
    match g.commands.lookup word with
    | some inner => helpOn inner rest
    | none =>
      if g.isGroup && word = helpName then
        match rest with
        | [] => .help
        | next :: _ => .unknownCommand next
      else .unknownCommand word

end Grammar

/-- An argument by its looks. -/
inductive Word where
  /-- Two hyphens alone: no option follows. -/
  | escape
  /-- A name behind two hyphens, with a value behind an equals sign if there is one. -/
  | long (name : String) (value : Option String)
  /-- Letters behind one hyphen. -/
  | short (letters : List Char)
  /-- Anything else. -/
  | plain (s : String)

/-- A text cut at its first equals sign. -/
def cutAtEquals (s : String) : String × Option String :=
  let name := String.ofList (s.toList.takeWhile (· ≠ '='))
  match s.toList.dropWhile (· ≠ '=') with
  | _ :: value => (name, some (String.ofList value))
  | [] => (name, none)

/-- The looks of an argument. -/
def Word.of (s : String) : Word :=
  match s.toList with
  | ['-', '-'] => .escape
  | '-' :: '-' :: rest =>
    let (name, value) := cutAtEquals (String.ofList rest)
    .long name value
  | '-' :: c :: rest => .short (c :: rest)
  | _ => .plain s

/-- What has been said to a command so far. -/
structure Progress where
  /-- The options given, each with its value; a flag has the empty one. -/
  uses : List (String × String)
  /-- The option that is being given, with its value as soon as that is there. -/
  pending : Option (OptionSpec × Option String)
  /-- Whether the place for an argument is taken. -/
  argumentTaken : Bool

namespace Progress

/-- Nothing said yet. -/
def start : Progress := ⟨[], none, false⟩

/-- Whether an option waits for its value. -/
def awaits (p : Progress) : Bool :=
  match p.pending with
  | some (_, none) => true
  | _ => false

/-- Takes note of an option, unless it is given too often or with a value that it does not take. -/
def record (p : Progress) (o : OptionSpec) (value : Option String) :
    Except UsageError Progress :=
  if o.takesValue && value.isNone then .error (.noValue o.name)
  else if o.onceOnly && p.uses.any (·.1 = o.name) then .error (.repeated o.name)
  else
    let value := value.getD ""
    match o.check value with
    | .accepted => .ok { p with uses := p.uses ++ [(o.name, value)] }
    | .empty => .error (.emptyValue o.name)
    | .wrong => .error (.badValue o.name value)

/-- Takes note of the option that is being given. -/
def settle (p : Progress) : Except UsageError Progress :=
  match p.pending with
  | none => .ok p
  | some (o, value) => record { p with pending := none } o value

/-- Takes note of the option that is being given and then of another one. -/
def use (p : Progress) (o : OptionSpec) (value : Option String) : Except UsageError Progress := do
  let p ← p.settle
  match o.arity with
  | .help => throw .help
  | .version => throw .version
  | _ => p.record o value

/-- Takes note of the option that is being given and waits for the value of another one. -/
def await (p : Progress) (o : OptionSpec) : Except UsageError Progress :=
  p.settle.map fun p => { p with pending := some (o, none) }

end Progress

/-- An option by name. -/
def useLong (g : Grammar) (p : Progress) (name : String) (value : Option String) :
    Except UsageError Progress :=
  match g.options.find? (·.name = name) with
  | none => .error (.unknown ("--" ++ name))
  | some o =>
    if o.takesValue then
      match value with
      | some value => p.use o (some value)
      | none => p.await o
    else if value.isSome then .error (.valueForFlag name)
    else p.use o none

/-- Options by their letters. The first that takes a value takes the rest of the word. -/
def useShort (g : Grammar) (p : Progress) : List Char → Except UsageError Progress
  | [] => .ok p
  | c :: rest =>
    match g.options.find? (·.letter = some c) with
    | none => .error (.unknown (String.ofList ['-', c]))
    | some o =>
      if o.takesValue then
        match rest with
        | [] => p.await o
        | '=' :: value => p.use o (some (String.ofList value))
        | value => p.use o (some (String.ofList value))
      else
        match p.use o none with
        | .error e => .error e
        | .ok p => useShort g p rest

/-- A word that is no option: the argument of a command, if there is a place for it. Behind two
hyphens the name of a subcommand is out of place as well. -/
def useArgument (g : Grammar) (p : Progress) (escaped : Bool) (word : String) :
    Except UsageError Progress :=
  match g.argument? with
  | some o =>
    if p.argumentTaken then .error (.unknown word)
    else p.settle.map fun p => { p with pending := some (o, some word), argumentTaken := true }
  | none =>
    let known := g.commands.any (·.1 = word) || word = Grammar.helpName
    if g.isGroup && !(escaped && known) then .error (.unknownCommand word)
    else .error (.unknown word)

/-- What has been said to one command. -/
structure Level where
  /-- The name of the command; the first one has none. -/
  name : String
  /-- The options given, each with its value. -/
  uses : List (String × String)

namespace Level

/-- The values of an option. -/
def values (l : Level) (option : String) : List String :=
  (l.uses.filter (·.1 = option)).map (·.2)

/-- The value of an option. -/
def value? (l : Level) (option : String) : Option String := l.uses.lookup option

/-- Whether an option is given. -/
def has (l : Level) (option : String) : Bool := l.uses.any (·.1 = option)

end Level

/-- The end of what is said to a command. -/
def close (g : Grammar) (name : String) (p : Progress) : Except UsageError (List Level) := do
  let p ← p.settle
  if g.isGroup then throw (if p.uses.isEmpty then .noCommand else .missingCommand)
  else return [⟨name, p.uses⟩]

/-- What arguments say to a command and to its subcommands, the outermost first. -/
def parse (g : Grammar) (name : String) (p : Progress) (escaped : Bool) :
    List String → Except UsageError (List Level)
  | [] => close g name p
  | arg :: rest => do
    if escaped then parse g name (← useArgument g p true arg) true rest
    else if g.isGroup && !p.awaits && arg = Grammar.helpName then throw (g.helpOn rest)
    else match (if p.awaits then none else g.commands.lookup arg) with
      | some inner =>
        let levels ← parse inner arg .start false rest
        let p ← p.settle
        return ⟨name, p.uses⟩ :: levels
      | none =>
        match Word.of arg with
        | .escape => parse g name p true rest
        | .long option value => parse g name (← useLong g p option value) false rest
        | .short letters => parse g name (← useShort g p letters) false rest
        | .plain word =>
          match p.pending with
          | some (o, none) =>
            parse g name { p with pending := some (o, some word) } false rest
          | _ => parse g name (← useArgument g p false word) false rest

end FilterQuery.CommandLine
