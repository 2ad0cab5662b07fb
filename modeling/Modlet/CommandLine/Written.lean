import Modlet.CommandLine.Declared

/-!
# How a call of `build` is written

What a call asks for can be said in any order: the input, the flags, and the settings with their
values. The definitions here tell what is written for each thing that is said, by what is `declared`
of its argument, and which options are meant by things said in some order.

* `Said.written`: the arguments that are written for one thing.
* `IsCall`: things that can be said together.
* `Options.IsSaidBy`: things said in some order that ask for the given options.
-/

namespace Modlet.CommandLine

/-- One thing that is said in a call of `build`. -/
inductive Said
  | input (text : String)
  | source
  | emitC
  | verbose
  | output (path : String)
  | cc (command : String)
  | ccArg (arg : String)
deriving DecidableEq, Repr

/-- A text that can stand where an option could: it is not empty and does not begin with a dash. -/
def IsPlain (text : String) : Prop := text ≠ "" ∧ text.toList.head? ≠ some '-'

instance (text : String) : Decidable (IsPlain text) := inferInstanceAs (Decidable (_ ∧ _))

namespace Said

/-- The argument that is said. -/
def argument : Said → Argument
  | .input _ => .input
  | .source => .source
  | .emitC => .emitC
  | .verbose => .verbose
  | .output _ => .output
  | .cc _ => .cc
  | .ccArg _ => .ccArg

/-- The value that it is said with. That of a flag is not written. -/
def value : Said → String
  | .input text | .output text | .cc text | .ccArg text => text
  | .source | .emitC | .verbose => Action.met

/-- What is `declared` of the argument that is said. -/
def declaration (said : Said) : Declaration := declared said.argument

/-- The arguments that are written for one thing, as `declared`. -/
def written (said : Said) : List String := said.declaration.written said.value

/-- The argument for the C compiler, if one is said. -/
def ccArg? : Said → Option String
  | .ccArg arg => some arg
  | _ => none

/-- The value that is said for the given argument, if it is that argument. -/
def value? (argument : Argument) (said : Said) : Option String :=
  if said.argument = argument then some said.value else none

/-- Whether what is written can be told from options: the argument is offered, and a value that is
written may be read as one. -/
def Fits (said : Said) : Prop :=
  said.declaration.isOffered ∧
    (said.declaration.action = .setTrue ∨ said.declaration.allowsHyphens ∨ IsPlain said.value)

instance (said : Said) : Decidable said.Fits := inferInstanceAs (Decidable (_ ∧ _))

@[simp]
theorem value?_argument (said : Said) : said.value? said.argument = some said.value := if_pos rfl

theorem value?_of_ne {said : Said} {argument : Argument} (h : said.argument ≠ argument) :
    said.value? argument = none := if_neg h

/-- A value that `Fits` and is written is plain, unless it may begin with a dash. -/
theorem Fits.isPlain {said : Said} (h : said.Fits) (haction : said.declaration.action ≠ .setTrue)
    (hhyphens : said.declaration.allowsHyphens = false) : IsPlain said.value := by
  rcases h.2 with hflag | hallowed | hplain
  · exact absurd hflag haction
  · rw [hhyphens] at hallowed
    exact absurd hallowed Bool.false_ne_true
  · exact hplain

end Said

/-- The values that are said for the given argument, in order, each told by `value?`. -/
def valuesSaid (said : List Said) (argument : Argument) : List String :=
  said.filterMap (Said.value? argument)

section Values

variable {said front back : List Said} {thing first second : Said} {argument : Argument}

@[simp]
theorem valuesSaid_append (front back : List Said) (argument : Argument) :
    valuesSaid (front ++ back) argument = valuesSaid front argument ++ valuesSaid back argument :=
  List.filterMap_append

theorem valuesSaid_singleton (thing : Said) (argument : Argument) :
    valuesSaid [thing] argument = (thing.value? argument).toList := by
  rw [valuesSaid]
  cases hvalue : thing.value? argument with
  | none => rw [List.filterMap_cons_none hvalue, List.filterMap_nil, Option.toList_none]
  | some value => rw [List.filterMap_cons_some hvalue, List.filterMap_nil, Option.toList_some]

theorem valuesSaid_singleton_of_ne (h : thing.argument ≠ argument) :
    valuesSaid [thing] argument = [] := by
  rw [valuesSaid_singleton, Said.value?_of_ne h, Option.toList_none]

theorem valuesSaid_cons (thing : Said) (said : List Said) (argument : Argument) :
    valuesSaid (thing :: said) argument =
      (thing.value? argument).toList ++ valuesSaid said argument := by
  rw [← valuesSaid_singleton, ← valuesSaid_append, List.singleton_append]

/-- The `valuesSaid` for every argument are the same when two things that say different arguments
change places. -/
theorem valuesSaid_swap (h : first.argument ≠ second.argument) :
    valuesSaid (front ++ first :: second :: back) argument =
      valuesSaid (front ++ second :: first :: back) argument := by
  simp only [valuesSaid_append, valuesSaid_cons]
  -- At most one of the two says the argument.
  by_cases hfirst : first.argument = argument
  · have hsecond : second.argument ≠ argument := fun hsecond => h (hfirst.trans hsecond.symm)
    rw [Said.value?_of_ne hsecond, Option.toList_none, List.nil_append, List.nil_append]
  · rw [Said.value?_of_ne hfirst, Option.toList_none, List.nil_append, List.nil_append]

end Values

/-- Things that can be said together: each `Fits`, and only an argument that collects its values is
said twice. -/
structure IsCall (said : List Said) : Prop where
  /-- What is written for each can be told from options. -/
  fits : ∀ thing ∈ said, thing.Fits
  /-- An argument that keeps one value is said once. -/
  once : ∀ argument, (declared argument).action ≠ .append → (valuesSaid said argument).length ≤ 1

namespace IsCall

variable {said front back : List Said} {thing first second : Said}

theorem singleton (h : thing.Fits) : IsCall [thing] where
  fits other hother := by rwa [List.mem_singleton.mp hother]
  once _ _ := List.length_filterMap_le _ _

theorem left (h : IsCall (front ++ back)) : IsCall front where
  fits thing hthing := h.fits thing (List.mem_append_left back hthing)
  once argument haction := by
    have honce := h.once argument haction
    rw [valuesSaid_append, List.length_append] at honce
    omega

theorem swap (h : IsCall (front ++ first :: second :: back))
    (hne : first.argument ≠ second.argument) : IsCall (front ++ second :: first :: back) where
  fits thing hthing := by
    have hperm := (List.Perm.swap first second back).append_left front
    exact h.fits thing (hperm.mem_iff.mp hthing)
  once argument haction := by
    rw [← valuesSaid_swap hne]
    exact h.once argument haction

/-- An argument that keeps one value was not said before: `IsCall` allows it once. -/
theorem valuesSaid_eq_nil (h : IsCall (said ++ [thing]))
    (haction : thing.declaration.action ≠ .append) : valuesSaid said thing.argument = [] := by
  have honce := h.once thing.argument haction
  rw [valuesSaid_append, valuesSaid_singleton, Said.value?_argument, List.length_append] at honce
  exact List.length_eq_zero_iff.mp (by simpa using honce)

/-- Two things in a row say different arguments if the second keeps one value, by `IsCall`. -/
theorem argument_ne (h : IsCall (front ++ first :: second :: back))
    (haction : second.declaration.action ≠ .append) : first.argument ≠ second.argument := by
  intro heq
  have honce := h.once second.argument haction
  simp only [valuesSaid_append, valuesSaid_cons, Said.value?_argument, ← heq, List.length_append,
    Option.toList_some, List.length_singleton] at honce
  rw [heq, Said.value?_argument, Option.toList_some, List.length_singleton] at honce
  omega

end IsCall

/-- The arguments of the program for a call of `build` that says some things, each as it is
`written`. -/
def callOf (said : List Said) : List String := "build" :: said.flatMap Said.written

/-- Everything that has to be said for some options, in an order of its own. The C compiler is said
only if `cc` is some. -/
def Options.said (options : Options) (cc : Option String) : List Said :=
  [Said.input options.input] ++ (if options.source then [Said.source] else [])
    ++ (if options.emitC then [Said.emitC] else [])
    ++ (if options.verbose then [Said.verbose] else [])
    ++ options.output.toList.map Said.output ++ cc.toList.map Said.cc
    ++ options.ccArgs.map Said.ccArg

/-- Things said in any order that ask for the options, where `cc` is the C compiler that is said and
`ccEnv` that of the environment. Among the things of `Options.said` only the order of the arguments
for the C compiler counts. -/
structure Options.IsSaidBy (options : Options) (cc ccEnv : Option String) (said : List Said) :
    Prop where
  /-- The same things are said, each as often. -/
  perm : said.Perm (options.said cc)
  /-- The arguments for the C compiler are said in their order. -/
  ccArgs : said.filterMap Said.ccArg? = options.ccArgs
  /-- What is said goes before the environment, and that before what is usual. -/
  command : options.cc = (cc.or ccEnv).getD "cc"

/-- Options whose texts can be told from options on the command line: whatever has to be said for
them `Fits`. -/
structure Options.IsWritable (options : Options) (cc : Option String) : Prop where
  /-- The input is plain. -/
  input : IsPlain options.input
  /-- The output, if there is one, is plain. -/
  output : ∀ path ∈ options.output, IsPlain path
  /-- The C compiler, if one is said, is plain. -/
  cc : ∀ command ∈ cc, IsPlain command

end Modlet.CommandLine
