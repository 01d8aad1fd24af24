import Overlay.Code.Encoding

/-!
The command line. The source comes from standard input and the code goes to
standard output; the options for files accept only `-`, which stands for
these. Every option may be given once, and there are no other arguments. The
value of an option is attached to it or is the next argument, which may then
not look like an option.
-/

namespace Overlay

/-- What the command line asks for. -/
structure Options where
  input : Option Text := none
  output : Option Text := none
  overlay : Option Text := none
  pretty : Bool := false
  verbose : Bool := false
  deriving DecidableEq

/-- Options that take a value. -/
inductive Valued
  | input
  | output
  | overlay
  deriving DecidableEq

namespace Options

/-- Sets an option with a value, unless it is already set. -/
def set? (o : Options) (v : Valued) (value : Text) : Option Options :=
  match v with
  | .input => if o.input.isNone ∧ value = ['-'] then some { o with input := some value } else none
  | .output =>
    if o.output.isNone ∧ value = ['-'] then some { o with output := some value } else none
  | .overlay => if o.overlay.isNone then some { o with overlay := some value } else none

def setPretty? (o : Options) : Option Options :=
  if o.pretty then none else some { o with pretty := true }

def setVerbose? (o : Options) : Option Options :=
  if o.verbose then none else some { o with verbose := true }

end Options

/-- Options read so far, the option that waits for its value, and whether `--`
has ended the options. -/
structure Arguments where
  options : Options := {}
  awaiting : Option Valued := none
  ended : Bool := false
  deriving DecidableEq

namespace Arguments

/-- Takes the value of an option, or waits for it. -/
def give? (a : Arguments) (v : Valued) (value : Option Text) : Option Arguments :=
  match value with
  | some value => (a.options.set? v value).map fun o => { a with options := o }
  | none => some { a with awaiting := some v }

/-- An option by its long name, with the value that is attached by an equals
sign. -/
def long? (a : Arguments) (name : Text) (value : Option Text) : Option Arguments :=
  if name = "file".toList then a.give? .input value
  else if name = "output".toList then a.give? .output value
  else if name = "overlay".toList then a.give? .overlay value
  else if value.isSome then none
  else if name = "pretty".toList then a.options.setPretty?.map fun o => { a with options := o }
  else if name = "verbose".toList then a.options.setVerbose?.map fun o => { a with options := o }
  else none

/-- The value that follows the letter of an option, with an equals sign or
without. -/
def attached : Text → Option Text
  | [] => none
  | '=' :: value => some value
  | value => some value

/-- Options by their letters, of which only the last may take a value. -/
def letters? (a : Arguments) : Text → Option Arguments
  | [] => some a
  | 'v' :: rest => do letters? { a with options := ← a.options.setVerbose? } rest
  | 'f' :: rest => a.give? .input (attached rest)
  | 'o' :: rest => a.give? .output (attached rest)
  | _ => none

/-- The name and the attached value of a long option. -/
def splitLong (t : Text) : Text × Option Text :=
  match t.dropWhile (· != '=') with
  | [] => (t, none)
  | _ :: value => (t.takeWhile (· != '='), some value)

/-- Reads the next argument. -/
def next? (a : Arguments) (t : Text) : Option Arguments :=
  if a.ended then none
  else
    match t with
    | ['-', '-'] => some { a with ended := true }
    | '-' :: '-' :: rest =>
      if a.awaiting.isSome then none
      else
        let (name, value) := splitLong rest
        a.long? name value
    | '-' :: c :: rest => if a.awaiting.isSome then none else a.letters? (c :: rest)
    | value =>
      match a.awaiting with
      | some v => { a with awaiting := none }.give? v (some value)
      | none => none

end Arguments

/-- The options of a command line, if it is correct. -/
def Options.ofArguments? (args : List Text) : Option Options := do
  let a ← args.foldlM Arguments.next? {}
  if a.awaiting.isSome then none else some a.options

/-- How a run ends: its exit code and what it writes to standard output. -/
structure Outcome where
  exitCode : Nat
  output : Text
  deriving DecidableEq

namespace CommandLine

/-- The overlay is called `default` unless it is given a name. -/
def defaultOverlay : Text := "default".toList

/-- Compiles a source. The exit code is 2 if the command line is not correct,
and 1 with the diagnostic if the source cannot be compiled. -/
def run (args : List Text) (source : Text) : Outcome × Option Diagnostic :=
  match Options.ofArguments? args with
  | none => (⟨2, []⟩, none)
  | some o =>
    match Code.compile (o.overlay.getD defaultOverlay) source with
    | .error d => (⟨1, []⟩, some d)
    | .ok code => (⟨0, code.text o.pretty⟩, none)

end CommandLine

end Overlay
