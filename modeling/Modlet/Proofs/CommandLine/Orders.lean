import Mathlib.Data.List.Basic
import Mathlib.Data.List.Induction
import Modlet.Proofs.CommandLine.Parsing

/-!
# Any order on the command line

What a call of `build` asks for can be said in any order, whatever reads the arguments of the
program as long as it has the laws of `Reader.IsDocumented`. Only the order of the arguments for the
C compiler is kept.

* `Reader.Reads`: a call is read with every value that is said.
* `Reader.IsDocumented.reads_append`, `Reader.IsDocumented.reads_swap`: one thing more, and two
  things that change places.
* `Reader.IsDocumented.reads`: every call that says the input is read.
* `Options.IsSaidBy.valuesSaid_eq`: what things that ask for some options say of each argument.
* `options_callOf`: options are read back from what is written for them in any order.
-/

namespace Modlet.CommandLine

/-! ### Calls that are read -/

/-- A call is read: every argument has the values that are said for it, or those that `fill` gives
it. -/
def Reader.Reads (read : Reader) (env : Environment) (said : List Said) : Prop :=
  ∃ values, read env (callOf said) = .ok values
    ∧ ∀ argument, values argument = (declared argument).fill env (valuesSaid said argument)

namespace Reader.IsDocumented

variable {read : Reader} {env : Environment} {said front back : List Said}
  {thing first second : Said} {text : String}

theorem reads_input (hread : read.IsDocumented) (htext : IsPlain text) :
    read.Reads env [.input text] := by
  obtain ⟨values, hvalues, hinput⟩ := hread.positional env text htext
  refine ⟨values, hvalues, fun argument => ?_⟩
  have hcall : IsCall [.input text] := .singleton ⟨rfl, .inr (.inr htext)⟩
  by_cases hargument : Argument.input = argument
  · rw [← hargument]
    exact hinput
  · have hnil : valuesSaid [.input text] argument = [] := valuesSaid_singleton_of_ne hargument
    rw [hread.unwritten env _ values argument hcall hvalues hnil, hnil]
    rfl

/-- A call that `Reads` holds of is read with one thing more behind it. The law is `set` or
`append`, by the action of what is said. -/
theorem reads_append (hread : read.IsDocumented) (hcall : IsCall (said ++ [thing]))
    (h : read.Reads env said) : read.Reads env (said ++ [thing]) := by
  obtain ⟨values, hok, hvalues⟩ := h
  -- In both cases the law tells the values of the argument, and the others have what they had.
  obtain ⟨values', hok', hthing, hothers⟩ : ∃ values',
      read env (callOf (said ++ [thing])) = .ok values'
        ∧ values' thing.argument = valuesSaid said thing.argument ++ [thing.value]
        ∧ ∀ argument ≠ thing.argument, values' argument = values argument := by
    by_cases haction : thing.declaration.action = .append
    · have hfallback : thing.declaration.fallback env = [] := by cases thing <;> trivial
      obtain ⟨values', hok', hthing, hothers⟩ :=
        hread.append env said thing values haction hfallback hcall hok
      have hfill : values thing.argument = valuesSaid said thing.argument :=
        (hvalues thing.argument).trans (Declaration.fill_of_fallback hfallback)
      exact ⟨values', hok', by rw [hthing, hfill], hothers⟩
    · obtain ⟨values', hok', hthing, hothers⟩ := hread.set env said thing values haction hcall hok
      refine ⟨values', hok', ?_, hothers⟩
      rw [hthing, hcall.valuesSaid_eq_nil haction, List.nil_append]
  refine ⟨values', hok', fun argument => ?_⟩
  by_cases hargument : argument = thing.argument
  · rw [hargument, hthing, valuesSaid_append, valuesSaid_singleton, Said.value?_argument,
      Option.toList_some, Declaration.fill_of_ne_nil (by simp)]
  · rw [hothers argument hargument, hvalues, valuesSaid_append,
      valuesSaid_singleton_of_ne (Ne.symm hargument), List.append_nil]

/-- A call that `Reads` holds of is read when two things that say different arguments change places,
which is the law `swap`. -/
theorem reads_swap (hread : read.IsDocumented) (hne : first.argument ≠ second.argument)
    (hcall : IsCall (front ++ first :: second :: back))
    (h : read.Reads env (front ++ first :: second :: back)) :
    read.Reads env (front ++ second :: first :: back) := by
  obtain ⟨values, hok, hvalues⟩ := h
  refine ⟨values, ?_, fun argument => ?_⟩
  · rw [← hread.swap env front first second back hne hcall, hok]
  · rw [hvalues, valuesSaid_swap hne]

/-- A call that begins with the input is read, by induction on what is said behind that. -/
theorem reads_of_input_first (hread : read.IsDocumented) (hcall : IsCall (.input text :: back)) :
    read.Reads env (.input text :: back) := by
  induction back using List.reverseRecOn with
  | nil =>
    have hfits : (Said.input text).Fits := hcall.fits _ List.mem_cons_self
    exact hread.reads_input (hfits.isPlain nofun rfl)
  | append_singleton done thing ih =>
    rw [← List.cons_append] at hcall ⊢
    exact hread.reads_append hcall (ih hcall.left)

/-- A call that says the input is read, wherever that stands: `swap` brings it to the front. -/
theorem reads (hread : read.IsDocumented) (hcall : IsCall (front ++ Said.input text :: back)) :
    read.Reads env (front ++ Said.input text :: back) := by
  -- The input is brought to the front, past one thing after the other.
  induction front using List.reverseRecOn generalizing back with
  | nil => exact hread.reads_of_input_first hcall
  | append_singleton front thing ih =>
    rw [List.append_assoc, List.singleton_append] at hcall ⊢
    have hne : thing.argument ≠ Argument.input := hcall.argument_ne nofun
    exact hread.reads_swap hne.symm (hcall.swap hne) (ih (hcall.swap hne))

end Reader.IsDocumented

/-! ### Options that are said -/

/-- A rearrangement of a list of no more than one thing is that list. -/
theorem eq_of_perm_of_length_le_one {α : Type} {as bs : List α} (h : as.Perm bs)
    (hone : bs.length ≤ 1) : as = bs := by
  match bs with
  | [] => exact List.perm_nil.mp h
  | [b] => exact List.perm_singleton.mp h

namespace Options

variable {options : Options} {cc ccEnv : Option String} {said : List Said}

/-- The values that have to be given to each argument for some options, where `cc` is the C compiler
that is said. -/
def given (options : Options) (cc : Option String) : Argument → List String
  | .verbose => if options.verbose then [Action.met] else []
  | .input => [options.input]
  | .source => if options.source then [Action.met] else []
  | .output => options.output.toList
  | .emitC => if options.emitC then [Action.met] else []
  | .cc => cc.toList
  | .ccArg => options.ccArgs

/-- An argument that keeps one value has no more of them in `given`. -/
theorem length_given_le_one {argument : Argument} (h : (declared argument).action ≠ .append) :
    (options.given cc argument).length ≤ 1 := by
  cases argument with
  | ccArg => exact absurd rfl h
  | input => exact Nat.le_refl 1
  | output | cc => exact Option.length_toList_le
  | verbose | source | emitC =>
    rw [given]
    split <;> decide

theorem valuesSaid_said (options : Options) (cc : Option String) (argument : Argument) :
    valuesSaid (options.said cc) argument = options.given cc argument := by
  have hif (given : Bool) (thing : Said) :
      valuesSaid (if given then [thing] else []) argument =
        if given then (thing.value? argument).toList else [] := by
    cases given with
    | false => rfl
    | true => exact valuesSaid_singleton thing argument
  simp only [said, valuesSaid_append, hif, valuesSaid_singleton]
  simp only [valuesSaid, List.filterMap_map]
  cases argument <;>
    simp [given, Said.value?, Said.argument, Said.value, Function.comp_def]

namespace IsSaidBy

/-- What things that ask for some options say of each argument is what `given` has. -/
theorem valuesSaid_eq (h : options.IsSaidBy cc ccEnv said) (argument : Argument) :
    valuesSaid said argument = options.given cc argument := by
  have hperm : (valuesSaid said argument).Perm (options.given cc argument) := by
    rw [← valuesSaid_said]
    exact h.perm.filterMap _
  by_cases haction : (declared argument).action = .append
  · obtain rfl : argument = .ccArg := by cases argument <;> first | rfl | cases haction
    have hvalue : Said.value? .ccArg = Said.ccArg? := by
      funext thing
      cases thing <;> rfl
    rw [valuesSaid, hvalue, h.ccArgs, given]
  · exact eq_of_perm_of_length_le_one hperm (length_given_le_one haction)

/-- Things that ask for options that are writable are a call, in the sense of `IsCall`. -/
theorem isCall (h : options.IsSaidBy cc ccEnv said) (hwritable : options.IsWritable cc) :
    IsCall said where
  fits thing hthing := by
    have hvalue : thing.value ∈ options.given cc thing.argument := by
      rw [← h.valuesSaid_eq]
      exact List.mem_filterMap.mpr ⟨thing, hthing, Said.value?_argument thing⟩
    -- Each text is one of the options.
    cases thing with
    | input text =>
      obtain rfl : text = options.input := List.mem_singleton.mp hvalue
      exact ⟨rfl, .inr (.inr hwritable.input)⟩
    | output path => exact ⟨rfl, .inr (.inr (hwritable.output path (Option.mem_toList.mp hvalue)))⟩
    | cc command => exact ⟨rfl, .inr (.inr (hwritable.cc command (Option.mem_toList.mp hvalue)))⟩
    | source | emitC | verbose => exact ⟨rfl, .inl rfl⟩
    | ccArg arg => exact ⟨rfl, .inr (.inl rfl)⟩
  once argument haction := by
    rw [h.valuesSaid_eq]
    exact length_given_le_one haction

end IsSaidBy

/-- The options are made of their own values by `ofValues`, once those are filled in. -/
theorem ofValues_given {env : Environment} (hcc : options.cc = (cc.or (env "CC")).getD "cc") :
    ofValues (fun argument => (declared argument).fill env (options.given cc argument)) =
      .ok options := by
  -- A flag that is not met has a value of its own, which says so.
  have hflag {d : Declaration} (given : Bool) (hd : d.fallback env = [Action.notMet]) :
      isMet (d.fill env (if given then [Action.met] else [])) = given := by
    cases given with
    | false => rw [if_neg Bool.false_ne_true, Declaration.fill, if_pos rfl, hd]; rfl
    | true => rfl
  -- The command line goes before the environment, and that before the default.
  have hcommand : (declared .cc).fill env cc.toList = [options.cc] := by
    rw [hcc]
    cases cc with
    | some command => rfl
    | none =>
      show ((env "CC").or (some "cc")).toList = [(env "CC").getD "cc"]
      cases env "CC" <;> rfl
  have houtput : ((declared .output).fill env options.output.toList).head? = options.output := by
    cases options.output <;> rfl
  have hccArgs : (declared .ccArg).fill env options.ccArgs = options.ccArgs :=
    Declaration.fill_of_fallback rfl
  simp only [ofValues, given, hcommand, houtput, hccArgs]
  rw [hflag (d := declared .verbose) options.verbose rfl, hflag (d := declared .source) _ rfl,
    hflag (d := declared .emitC) _ rfl]
  rfl

end Options

/-- Options are read back from what is `written` for them, in whatever order `IsSaidBy` allows:
whatever reads the arguments of the program as `Reader.IsDocumented` reads those options. An
argument for the C compiler may look like any option. -/
theorem options_callOf {read : Reader} {env : Environment} {options : Options} {cc : Option String}
    {said : List Said} (hread : read.IsDocumented) (hsaid : options.IsSaidBy cc (env "CC") said)
    (hwritable : options.IsWritable cc) : read.options env (callOf said) = .ok options := by
  have hmem : Said.input options.input ∈ said :=
    hsaid.perm.mem_iff.mpr (by simp [Options.said])
  obtain ⟨front, back, rfl⟩ := List.append_of_mem hmem
  obtain ⟨values, hok, hvalues⟩ := hread.reads (hsaid.isCall hwritable)
  have hgiven : values = fun argument => (declared argument).fill env (options.given cc argument) :=
    funext fun argument => by rw [hvalues, hsaid.valuesSaid_eq]
  rw [Reader.options, hok, hgiven]
  exact Options.ofValues_given hsaid.command

/-- The reader is `parse`. The arguments for the C compiler are two dashes and an option of `build`,
and the C compiler that is said goes before that of the environment. -/
theorem options_callOf_mixed :
    Reader.IsDocumented parse
      ∧ Reader.options parse (fun name => if name = "CC" then some "clang" else none)
        ["build", "--cc-arg", "--", "--output", "out", "--verbose", "a.b", "--cc-arg", "--cc",
          "--cc", "gcc", "--emit-c"] =
        .ok {
          verbose := true
          input := "a.b"
          output := some "out"
          emitC := true
          cc := "gcc"
          ccArgs := ["--", "--cc"] } := by
  refine ⟨parse_isDocumented, ?_⟩
  let said : List Said :=
    [.ccArg "--", .output "out", .verbose, .input "a.b", .ccArg "--cc", .cc "gcc", .emitC]
  refine options_callOf parse_isDocumented (?_ : Options.IsSaidBy _ (some "gcc") _ said)
    ⟨?_, ?_, ?_⟩
  · exact ⟨by decide, rfl, rfl⟩
  · decide
  · decide
  · decide

end Modlet.CommandLine
