import SchemaGraph.CommandLine.Log

/-!
# Arguments of the command line

The arguments name a command, the file it works on, and options. An option may be written with its
value in one argument or in two; after a lone `--` there are no more options. Two options may stand
before the command as well as after it, and then the latter counts.
-/

namespace SchemaGraph.CommandLine

/-- What a run is to do. -/
inductive Command where
  | inspect (input : String)
  | convert (input output : String) (target : Option String)
  deriving DecidableEq, Repr

structure Invocation where
  command : Command
  dialect : Option String
  filter : LogFilter
  deriving DecidableEq, Repr

/-- Why the arguments lead to no run. -/
inductive Stop where
  | usage
  | help
  | version
  deriving DecidableEq, Repr

/-- What options belong to: the program or one of its commands. -/
inductive Scope where
  | program
  | inspect
  | convert
  deriving DecidableEq, Repr

inductive Switch where
  | dialect
  | logLevel
  | output
  | target
  | help
  | version
  deriving DecidableEq, Repr

/-- The options and files given so far in one scope. -/
structure Given where
  dialect : Option String
  filter : Option LogFilter
  output : Option String
  target : Option String
  inputs : List String
  deriving DecidableEq, Repr

def Given.none : Given := ⟨Option.none, Option.none, Option.none, Option.none, []⟩

def Scope.shortSwitch? (s : Scope) (c : Char) : Option Switch :=
  match c, s with
  | 'd', _ => some .dialect
  | 'l', _ => some .logLevel
  | 'h', _ => some .help
  | 'o', .convert => some .output
  | 'V', .program => some .version
  | _, _ => none

def Scope.longSwitch? (s : Scope) (name : String) : Option Switch :=
  match name, s with
  | "dialect", _ => some .dialect
  | "log-level", _ => some .logLevel
  | "help", _ => some .help
  | "output", .convert => some .output
  | "to", .convert => some .target
  | "version", .program => some .version
  | _, _ => none

/-- An option with its value. An option must not be given twice, and a path must not be empty. -/
def Given.put (g : Given) (switch : Switch) (value : String) : Except Stop Given :=
  match switch with
  | .dialect => if g.dialect.isSome then .error .usage else .ok { g with dialect := some value }
  | .logLevel =>
    match g.filter, LogFilter.ofName? value with
    | Option.none, some f => .ok { g with filter := some f }
    | _, _ => .error .usage
  | .output =>
    if g.output.isSome || value.isEmpty then .error .usage else .ok { g with output := some value }
  | .target => if g.target.isSome then .error .usage else .ok { g with target := some value }
  | .help => .error .usage
  | .version => .error .usage

/-- A file. A command works on one file. -/
def Given.addInput (g : Given) (s : Scope) (value : String) : Except Stop Given :=
  if s = .program || !g.inputs.isEmpty || value.isEmpty then .error .usage
  else .ok { g with inputs := [value] }

def isSwitch (arg : String) : Bool :=
  match arg.toList with
  | '-' :: _ :: _ => true
  | _ => false

/-- The options in an argument with one hyphen. The answer tells which option still awaits its
value. -/
def readShort (s : Scope) (g : Given) : List Char → Except Stop (Given × Option Switch)
  | [] => .ok (g, none)
  | c :: rest =>
    match s.shortSwitch? c with
    | none => .error .usage
    | some .help => .error .help
    | some .version => .error .version
    | some switch =>
      match rest with
      | [] => .ok (g, some switch)
      | '=' :: value => (g.put switch (String.ofList value)).map fun g => (g, none)
      | value => (g.put switch (String.ofList value)).map fun g => (g, none)

/-- The option in an argument with two hyphens. The answer tells whether it still awaits its
value. -/
def readLong (s : Scope) (g : Given) (cs : List Char) : Except Stop (Given × Option Switch) :=
  let name := String.ofList (cs.takeWhile fun c => c != '=')
  let value := cs.dropWhile fun c => c != '='
  match s.longSwitch? name with
  | none => .error .usage
  | some .help => if value.isEmpty then .error .help else .error .usage
  | some .version => if value.isEmpty then .error .version else .error .usage
  | some switch =>
    match value with
    | [] => .ok (g, some switch)
    | _ :: value => (g.put switch (String.ofList value)).map fun g => (g, none)

/-- The arguments of a scope. `awaiting` is an option that awaits its value. In the scope of the
program the first argument that is no option names the command, and ends the scope; the answer then
holds it and what follows it. -/
def readScope (s : Scope) (awaiting : Option Switch) (g : Given) :
    List String → Except Stop (Given × List String)
  | [] => if awaiting.isSome then .error .usage else .ok (g, [])
  | arg :: rest =>
    match awaiting with
    | some switch =>
      if isSwitch arg then .error .usage
      else match g.put switch arg with
        | .error e => .error e
        | .ok g => readScope s none g rest
    | none =>
      if arg = "--" then
        (rest.foldlM (fun (g : Given) value => g.addInput s value) g).map fun g => (g, [])
      else if isSwitch arg then
        let read := match arg.toList with
          | '-' :: '-' :: name => readLong s g name
          | cs => readShort s g (cs.drop 1)
        match read with
        | .error e => .error e
        | .ok (g, awaiting) => readScope s awaiting g rest
      else if s = .program then .ok (g, arg :: rest)
      else match g.addInput s arg with
        | .error e => .error e
        | .ok g => readScope s none g rest

/-- The words after `help` name a command, or the program itself. -/
def readHelp : List String → Stop
  | [] => .help
  | [name] => if ["inspect", "convert", "help"].contains name then .help else .usage
  | _ => .usage

/-- The run that the options of the program and those of a command describe. -/
def invocation (outer inner : Given) (command : String → Command) : Except Stop Invocation :=
  match inner.inputs with
  | [input] =>
    .ok
      { command := command input
        dialect := inner.dialect.or outer.dialect
        filter := (inner.filter.or outer.filter).getD (.from .warn) }
  | _ => .error .usage

def readArguments (args : List String) : Except Stop Invocation := do
  let (outer, rest) ← readScope .program none Given.none args
  match rest with
  | "inspect" :: rest =>
    let (inner, _) ← readScope .inspect none Given.none rest
    invocation outer inner .inspect
  | "convert" :: rest =>
    let (inner, _) ← readScope .convert none Given.none rest
    invocation outer inner fun input => .convert input (inner.output.getD ".") inner.target
  | "help" :: rest => .error (readHelp rest)
  | _ => .error .usage

end SchemaGraph.CommandLine
