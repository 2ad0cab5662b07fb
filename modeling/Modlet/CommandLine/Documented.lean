import Modlet.CommandLine.Written

/-!
# What is documented of reading arguments

The library that reads the arguments of the program is not part of it. What it documents of the
arguments that are `declared` here is a structure of laws: each is about one argument more, or about
two that change places, in a call that is read as it is. That a whole call is read as it says
follows from the laws by going through the call.
-/

namespace Modlet.CommandLine

/-- What the library documents of reading calls of `build`, for the arguments that are
`declared`. -/
structure Reader.IsDocumented (read : Reader) : Prop where
  /-- An argument without a name takes what is no option. Nothing else has to be written. -/
  positional : ∀ (env : Environment) (text : String), IsPlain text →
    ∃ values, read env ["build", text] = .ok values ∧ values .input = [text]
  /-- An argument that is not written has the value of its variable, or else its default. -/
  unwritten : ∀ (env : Environment) (said : List Said) (values : Values) (argument : Argument),
    IsCall said → read env (callOf said) = .ok values → valuesSaid said argument = [] →
    values argument = (declared argument).fallback env
  /-- A flag or an option with one value that is met has the value that is stored for it, and no
  other argument is touched. -/
  set : ∀ (env : Environment) (said : List Said) (thing : Said) (values : Values),
    thing.declaration.action ≠ .append → IsCall (said ++ [thing]) →
    read env (callOf said) = .ok values →
    ∃ values', read env (callOf (said ++ [thing])) = .ok values'
      ∧ values' thing.argument = [thing.value]
      ∧ ∀ argument ≠ thing.argument, values' argument = values argument
  /-- An option that collects its values has one more, behind the others, when it is met, and no
  other argument is touched. -/
  append : ∀ (env : Environment) (said : List Said) (thing : Said) (values : Values),
    thing.declaration.action = .append → thing.declaration.fallback env = [] →
    IsCall (said ++ [thing]) → read env (callOf said) = .ok values →
    ∃ values', read env (callOf (said ++ [thing])) = .ok values'
      ∧ values' thing.argument = values thing.argument ++ [thing.value]
      ∧ ∀ argument ≠ thing.argument, values' argument = values argument
  /-- Options may stand before and behind each other and what is no option. -/
  swap : ∀ (env : Environment) (front : List Said) (first second : Said) (back : List Said),
    first.argument ≠ second.argument → IsCall (front ++ first :: second :: back) →
    read env (callOf (front ++ first :: second :: back)) =
      read env (callOf (front ++ second :: first :: back))

end Modlet.CommandLine
