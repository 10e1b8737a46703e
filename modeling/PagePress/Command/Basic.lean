import PagePress.Text.Search

/-!
# The command line

A command is given by its name and its arguments. A word that starts with a hyphen is an option,
`--name value` or `--name=value`, unless it stands behind `--`; of options of one name the last one
counts.
-/

namespace PagePress

inductive Command where
  /-- Creates a customer that pages can be assigned to. -/
  | createCustomer (name email : String)
  /-- Creates a customer, a template and a published page for a demonstration. -/
  | seedDemo (slug email : String)
  /-- Prints what the public sees under a slug. -/
  | render (slug : String)
deriving DecidableEq, Repr

/-- The words of a command line: those that stand for themselves, and the values of options. -/
structure Arguments where
  words : List String := []
  options : List (String × String) := []
deriving DecidableEq, Repr

namespace Arguments

def isOption (word : String) : Bool :=
  match word.toList with
  | '-' :: _ :: _ => true
  | _ => false

def addWord (word : String) (args : Arguments) : Arguments :=
  { args with words := word :: args.words }

def addOption (name value : String) (args : Arguments) : Arguments :=
  { args with options := (name, value) :: args.options }

/-- Tells words and options apart; only options with one of the names are understood. -/
def read? (names : List String) : List String → Option Arguments
  | [] => some {}
  | "--" :: rest => some { words := rest }
  | word :: rest =>
    if isOption word then
      match Text.cut? ['='] word.toList with
      | some (name, value) =>
        if names.contains (String.ofList name) then
          (read? names rest).map (addOption (String.ofList name) (String.ofList value))
        else none
      | none =>
        match rest with
        | value :: rest =>
          if names.contains word then (read? names rest).map (addOption word value) else none
        | [] => none
    else (read? names rest).map (addWord word)

def option (args : Arguments) (name whenMissing : String) : String :=
  (args.options.reverse.lookup name).getD whenMissing

end Arguments

namespace Command

def ofWords? (name : String) (rest : List String) : Option Command :=
  match name with
  | "create-customer" => do
    match (← Arguments.read? [] rest).words with
    | [name, email] => return .createCustomer name email
    | _ => none
  | "seed-demo" => do
    let args ← Arguments.read? ["--slug", "--email"] rest
    guard args.words.isEmpty
    return .seedDemo (args.option "--slug" "demo") (args.option "--email" "demo@pageforge.dev")
  | "render" => do
    match (← Arguments.read? [] rest).words with
    | [slug] => return .render slug
    | _ => none
  | _ => none

/-- Reads a command line; `none` stands for one that is not understood. -/
def ofArguments? : List String → Option Command
  | "--" :: name :: rest => ofWords? name rest
  | name :: rest => ofWords? name rest
  | [] => none

end Command

end PagePress
