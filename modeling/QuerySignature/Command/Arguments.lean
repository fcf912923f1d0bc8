import QuerySignature.Text.Basic

/-!
# Command/Arguments — reading a command line

Options and other arguments may come in any order, except in front of the name of a command, where only
options may stand.  A long option takes its value from behind an equals sign or from the next argument, a
short one from the rest of its own or from the next; two hyphens end the options, and one alone is no option.
-/

namespace QuerySignature

/-- **An option**: its spellings without hyphens, and whether it takes a value. -/
structure OptionSpec where
  long : Text
  short : Option Char
  takesValue : Bool

/-- A command line taken apart: the options with their values in order, and the other arguments. -/
structure Arguments where
  options : List (Text × Text)
  others : List Text

namespace Arguments

/-- The value of an option: the last one given. -/
def value? (arguments : Arguments) (long : String) : Option Text :=
  (arguments.options.reverse.find? (·.1 == long.toList)).map (·.2)

/-- The option was given. -/
def has (arguments : Arguments) (long : String) : Bool :=
  (arguments.value? long).isSome

/-- The options and arguments with one option more in front. -/
def withOption (name value : Text) (arguments : Arguments) : Arguments :=
  { arguments with options := (name, value) :: arguments.options }

/-- The options and arguments with one argument more in front. -/
def withOther (other : Text) (arguments : Arguments) : Arguments :=
  { arguments with others := other :: arguments.others }

/-- What an argument is, before the next one is seen. -/
inductive Form where
  /-- An option with all it needs. -/
  | complete (options : List (Text × Text))
  /-- An option, after others, that takes the next argument as its value. -/
  | needsValue (options : List (Text × Text)) (name : Text)
  /-- An option that is not known or does not take its value. -/
  | unknown

/-- The form of a long option, without its hyphens. -/
def longForm (specs : List OptionSpec) (text : Text) : Form :=
  let name := text.takeWhile (· != '=')
  match specs.find? (·.long == name), text.drop name.length with
  | some spec, [] => if spec.takesValue then .needsValue [] spec.long else .complete [(spec.long, [])]
  | some spec, _ :: value => if spec.takesValue then .complete [(spec.long, value)] else .unknown
  | none, _ => .unknown

/-- The form of short options in one argument, without their hyphen. -/
def shortForm (specs : List OptionSpec) : Text → List (Text × Text) → Form
  | [], options => .complete options.reverse
  | c :: rest, options =>
    match specs.find? (·.short == some c) with
    | none => .unknown
    | some spec =>
      if spec.takesValue then
        if rest.isEmpty then .needsValue options.reverse spec.long
        else .complete ((spec.long, rest) :: options).reverse
      else shortForm specs rest ((spec.long, []) :: options)

/-- The form of an argument that starts with a hyphen. -/
def form (specs : List OptionSpec) : Text → Form
  | '-' :: '-' :: text => longForm specs text
  | '-' :: text => shortForm specs text []
  | _ => .unknown

/-- **Takes a command line apart**; `none` if an option is not known or lacks its value.  Unless `mixed`
says so, the options end at the first other argument. -/
def parse? (specs : List OptionSpec) (mixed : Bool) : List Text → Option Arguments
  | [] => some ⟨[], []⟩
  | argument :: rest =>
    if argument = ['-', '-'] then some ⟨[], rest⟩
    else if argument.head? = some '-' && argument ≠ ['-'] then
      match form specs argument, rest with
      | .complete options, rest =>
        (parse? specs mixed rest).map fun more => options.foldr (fun o => withOption o.1 o.2) more
      | .needsValue options name, value :: rest =>
        (parse? specs mixed rest).map fun more =>
          (options ++ [(name, value)]).foldr (fun o => withOption o.1 o.2) more
      | .needsValue _ _, [] => none
      | .unknown, _ => none
    else if mixed then (parse? specs mixed rest).map (withOther argument)
    else some ⟨[], argument :: rest⟩

end Arguments

end QuerySignature
