import Mathlib.Data.List.Basic
import Mathlib.Data.List.Induction
import Modlet.CommandLine.Documented
import Modlet.CommandLine.Parser

/-!
# Reading what is said

`parse` reads each thing that is said in a call for itself, and all that is read of it is what it
says, since an option is settled before the next one is read. So `parse` is a reader with the laws
of `Reader.IsDocumented`.

* `Draft.tell`: a draft that has been told one more thing.
* `Draft.SettlesTo`: a draft as it is once its last option is settled.
* `Draft.giveAll_written`: reading what is `written` for one thing tells the draft that thing.
* `Draft.giveAll_said`: reading what is written for a call tells it everything, in order.
* `parse_callOf`: what `parse` makes of a call.
* `parse_isDocumented`: `parse` has the documented laws.
-/

namespace Modlet.CommandLine

/-! ### Arguments by their shape -/

theorem IsPlain.shape_eq {text : String} (h : IsPlain text) : Shape.of text = .plain := by
  obtain ⟨hne, hhead⟩ := h
  rw [Shape.of]
  cases htext : text.toList with
  | nil => exact absurd (String.toList_eq_nil_iff.mp htext) hne
  | cons c rest =>
    have hc : c ≠ '-' := fun hc => hhead (by rw [htext, hc, List.head?_cons])
    split <;> simp_all

namespace Draft

variable {draft settled : Draft} {said : Said} {args : List String}

/-! ### What a draft is told -/

/-- The draft with no option to be settled that has been told one more thing. -/
def tell (draft : Draft) : Said → Draft
  | .input text => { draft with input := some text }
  | .source => { draft with flags := .source :: draft.flags }
  | .emitC => { draft with flags := .emitC :: draft.flags }
  | .verbose => { draft with flags := .verbose :: draft.flags }
  | .output path => { draft with output := some path }
  | .cc command => { draft with cc := some command }
  | .ccArg arg => { draft with ccArgs := draft.ccArgs ++ [arg] }

/-- Whether a draft can be told one more thing: its argument collects values, or has none yet. -/
def HasRoom (draft : Draft) (said : Said) : Prop :=
  said.declaration.action ≠ .append → draft.given said.argument = []

theorem metFlag_eq_nil_iff {flag : Flag} : draft.metFlag flag = [] ↔ flag ∉ draft.flags := by
  rw [metFlag]
  split <;> simp_all

/-- Being told a thing with `tell` adds its value to its argument, behind the others, and to no
other argument. -/
theorem given_tell (hroom : draft.HasRoom said) (argument : Argument) :
    (draft.tell said).given argument = draft.given argument ++ (said.value? argument).toList := by
  -- The argument that is said has one value more, and all others have what they had.
  by_cases hargument : said.argument = argument
  · subst hargument
    rw [Said.value?_argument, Option.toList_some]
    by_cases haction : said.declaration.action = .append
    · cases said <;> first | rfl | cases haction
    · -- There is one place for the value, which was empty.
      rw [hroom haction, List.nil_append]
      cases said <;>
        first
          | exact absurd rfl haction
          | simp [tell, given, metFlag, Said.argument, Said.value]
  · rw [Said.value?_of_ne hargument, Option.toList_none, List.append_nil]
    cases said <;> cases argument <;>
      first
        | exact absurd rfl hargument
        | rfl
        | simp [tell, given, metFlag]

/-- In a call a draft `HasRoom` for each thing when it has what was said before. -/
theorem hasRoom_of_isCall {done : List Said} (h : IsCall (done ++ [said]))
    (hgiven : draft.given said.argument = valuesSaid done said.argument) : draft.HasRoom said :=
  fun haction => hgiven.trans (h.valuesSaid_eq_nil haction)

/-- The draft that has been told some things, from the first one on. -/
def ofSaid (said : List Said) : Draft := said.foldl tell {}

theorem ofSaid_append_singleton (done : List Said) (said : Said) :
    ofSaid (done ++ [said]) = (ofSaid done).tell said := by
  rw [ofSaid, List.foldl_append]
  rfl

/-- What `ofSaid` has read of an argument are the `valuesSaid` for it. -/
theorem given_ofSaid {done : List Said} (h : IsCall done) (argument : Argument) :
    (ofSaid done).given argument = valuesSaid done argument := by
  induction done using List.reverseRecOn generalizing argument with
  | nil => cases argument <;> rfl
  | append_singleton done said ih =>
    rw [ofSaid_append_singleton, given_tell (hasRoom_of_isCall h (ih h.left said.argument)),
      ih h.left, valuesSaid_append, valuesSaid_singleton]

/-! ### Settled drafts -/

/-- Giving a value to a setting with `assign` leaves no other option to be settled, and leaves the
input. -/
theorem assign_kept {setting : Setting} {value : String}
    (h : draft.assign setting value = .ok settled) :
    settled.pending? = draft.pending? ∧ settled.input = draft.input := by
  -- A setting that has its one value is refused, and so is an output that is empty. Else only its
  -- own place changes.
  cases setting with
  | output =>
    simp only [assign] at h
    split at h
    · cases h
    · split at h
      · cases h
      · cases h
        exact ⟨rfl, rfl⟩
  | cc =>
    simp only [assign] at h
    split at h
    · cases h
    · cases h
      exact ⟨rfl, rfl⟩
  | ccArg =>
    cases h
    exact ⟨rfl, rfl⟩

/-- The `draft` comes to `settled` when its last option is settled, for which no value is
missing. -/
structure SettlesTo (draft settled : Draft) : Prop where
  /-- The option can be settled. -/
  settle_eq : draft.settle = .ok settled
  /-- It does not wait for its value. -/
  waiting?_eq : draft.waiting? = none

/-- Settling an option leaves none to be settled, and leaves the input: `SettlesTo` keeps both. -/
theorem SettlesTo.kept (h : draft.SettlesTo settled) :
    settled.pending? = none ∧ settled.input = draft.input := by
  have hsettle := h.settle_eq
  rw [settle] at hsettle
  split at hsettle
  · next hnone =>
    cases hsettle
    exact ⟨hnone, rfl⟩
  · cases hsettle
  · exact assign_kept hsettle

theorem settlesTo_self (h : settled.pending? = none) : settled.SettlesTo settled :=
  ⟨by rw [settle, h], by rw [waiting?, h]⟩

/-- A setting with a value is settled by giving it that value with `assign`. -/
theorem settlesTo_pending {setting : Setting} {value : String} {told : Draft}
    (hnone : settled.pending? = none) (h : settled.assign setting value = .ok told) :
    SettlesTo { settled with pending? := some (setting, some value) } told := by
  have hself : { settled with pending? := none } = settled := by rw [← hnone]
  refine ⟨?_, rfl⟩
  rw [settle]
  show assign { settled with pending? := none } setting value = .ok told
  rw [hself, h]

/-! ### Reading one thing -/

/-- A flag is read by `giveAll` with the option before it settled first. -/
theorem giveAll_flag (h : draft.SettlesTo settled) {option : String} (name : List Char)
    {flag : Flag} (hshape : Shape.of option = .long name none)
    (hname : Opt.ofLong? name = some (.flag flag)) (hhelp : flag ≠ .help ∧ flag ≠ .version)
    (hroom : flag ∉ settled.flags) :
    draft.giveAll (option :: args) =
      giveAll { settled with flags := flag :: settled.flags } args := by
  have hends : draft.endsOptions option = false := by simp [endsOptions, hshape]
  have hflag : draft.giveFlag flag = .ok { settled with flags := flag :: settled.flags } := by
    rw [giveFlag, h.settle_eq]
    -- Only help and the version are answered at once.
    cases flag with
    | help => exact absurd rfl hhelp.1
    | version => exact absurd rfl hhelp.2
    | _ => exact if_neg hroom
  have hgive : draft.give option = draft.giveFlag flag := by
    simp [give, h.waiting?_eq, hshape, hname]
  rw [giveAll, hends, hgive, hflag]
  rfl

/-- The input is read by `giveAll` with the option before it settled first. -/
theorem giveAll_input (h : draft.SettlesTo settled) {text : String} (htext : IsPlain text)
    (hroom : settled.input = none) :
    draft.giveAll (text :: args) = giveAll { settled with input := some text } args := by
  have hends : draft.endsOptions text = false := by simp [endsOptions, htext.shape_eq]
  have hplain : draft.givePlain text = .ok { settled with input := some text } := by
    rw [givePlain, ← h.kept.2, hroom, h.settle_eq]
    rfl
  have hgive : draft.give text = draft.givePlain text := by
    simp [give, h.waiting?_eq, htext.shape_eq]
  rw [giveAll, hends, hgive, hplain]
  rfl

/-- A setting and its value are read by `giveAll` with the option before them settled first. The
value of `--cc-arg` is taken as it is. -/
theorem giveAll_setting (h : draft.SettlesTo settled) {option value : String} (setting : Setting)
    (name : List Char) (hshape : Shape.of option = .long name none)
    (hname : Opt.ofLong? name = some (.setting setting))
    (hvalue : setting = .ccArg ∨ IsPlain value) :
    draft.giveAll (option :: value :: args) =
      giveAll { settled with pending? := some (setting, some value) } args := by
  have hends : draft.endsOptions option = false := by simp [endsOptions, hshape]
  have hgive : draft.give option = .ok { settled with pending? := some (setting, none) } := by
    simp only [give, h.waiting?_eq, hshape, hname, giveSetting, h.settle_eq]
    rfl
  rw [giveAll, hends, hgive]
  -- From here on the setting waits for its value.
  generalize hwaits : { settled with pending? := some (setting, none) } = waits
  have hwaiting : waits.waiting? = some setting := by rw [← hwaits, waiting?]
  have hvalueEnds : waits.endsOptions value = false := by
    rcases hvalue with rfl | hplain
    · simp [endsOptions, hwaiting]
    · simp [endsOptions, hplain.shape_eq]
  have hvalueGive :
      waits.give value = .ok { waits with pending? := some (setting, some value) } := by
    rcases hvalue with rfl | hplain
    · simp [give, hwaiting]
    · simpa [give, hwaiting, hplain.shape_eq] using Eq.symm
  show waits.giveAll (value :: args) = _
  rw [giveAll, hvalueEnds, hvalueGive, ← hwaits]
  rfl

/-- Reading what is `written` for one thing tells a draft that thing, and nothing else. -/
theorem giveAll_written (h : draft.SettlesTo settled) (hroom : settled.HasRoom said)
    (hfits : said.Fits) (args : List String) :
    ∃ next : Draft, draft.giveAll (said.written ++ args) = next.giveAll args
      ∧ next.SettlesTo (settled.tell said) := by
  have hnone := h.kept.1
  -- A flag and the input are settled as soon as they are read. A setting waits for its value, and
  -- has it when the next thing is met.
  cases said with
  | input text =>
    have hfree : settled.input = none := Option.toList_eq_nil_iff.mp (hroom nofun)
    exact ⟨_, giveAll_input h (hfits.isPlain nofun rfl) hfree, settlesTo_self hnone⟩
  | source =>
    have hfree := metFlag_eq_nil_iff.mp (hroom nofun)
    exact ⟨_, giveAll_flag h "source".toList (by decide) (by decide) (by decide) hfree,
      settlesTo_self hnone⟩
  | emitC =>
    have hfree := metFlag_eq_nil_iff.mp (hroom nofun)
    exact ⟨_, giveAll_flag h "emit-c".toList (by decide) (by decide) (by decide) hfree,
      settlesTo_self hnone⟩
  | verbose =>
    have hfree := metFlag_eq_nil_iff.mp (hroom nofun)
    exact ⟨_, giveAll_flag h "verbose".toList (by decide) (by decide) (by decide) hfree,
      settlesTo_self hnone⟩
  | output path =>
    have hpath : IsPlain path := hfits.isPlain nofun rfl
    have hfree : settled.output = none := Option.toList_eq_nil_iff.mp (hroom nofun)
    have hassign : settled.assign .output path = .ok { settled with output := some path } := by
      simp [assign, hfree, hpath.1]
    exact ⟨_, giveAll_setting h .output "output".toList (by decide) (by decide) (.inr hpath),
      settlesTo_pending hnone hassign⟩
  | cc command =>
    have hcommand : IsPlain command := hfits.isPlain nofun rfl
    have hfree : settled.cc = none := Option.toList_eq_nil_iff.mp (hroom nofun)
    have hassign : settled.assign .cc command = .ok { settled with cc := some command } := by
      simp [assign, hfree]
    exact ⟨_, giveAll_setting h .cc "cc".toList (by decide) (by decide) (.inr hcommand),
      settlesTo_pending hnone hassign⟩
  | ccArg arg =>
    exact ⟨_, giveAll_setting h .ccArg "cc-arg".toList (by decide) (by decide) (.inl rfl),
      settlesTo_pending hnone rfl⟩

/-! ### Reading everything -/

/-- Reading what is `written` for a call tells a draft everything, in order. The induction is on
what is still to be said, with `giveAll_written` for one thing. -/
theorem giveAll_said {done todo : List Said} (h : draft.SettlesTo (ofSaid done))
    (hcall : IsCall (done ++ todo)) :
    ∃ last : Draft, draft.giveAll (todo.flatMap Said.written) = .ok last
      ∧ last.SettlesTo (ofSaid (done ++ todo)) := by
  -- The option read last is open until the next one is read, so the draft itself has not been told
  -- what was said: it comes to that when it is settled.
  induction todo generalizing draft done with
  | nil =>
    rw [List.append_nil]
    exact ⟨draft, rfl, h⟩
  | cons said todo ih =>
    rw [List.append_cons] at hcall ⊢
    have hnow := hcall.left
    have hfits : said.Fits := hnow.fits said (List.mem_append_right done List.mem_cons_self)
    obtain ⟨next, hnext, htold⟩ :=
      giveAll_written h (hasRoom_of_isCall hnow (given_ofSaid hnow.left _)) hfits
        (todo.flatMap Said.written)
    rw [← ofSaid_append_singleton] at htold
    rw [List.flatMap_cons, hnext]
    exact ih htold hcall

end Draft

/-! ### The laws -/

/-- A call is read by `parse` if it says the input, and every argument has the `valuesSaid` for it,
or those that `fill` gives it. -/
theorem parse_callOf {said : List Said} (h : IsCall said) (env : Environment) :
    parse env (callOf said) =
      if valuesSaid said .input = [] then .error .missingRequiredArgument
      else .ok fun argument => (declared argument).fill env (valuesSaid said argument) := by
  have hempty : Draft.SettlesTo {} (Draft.ofSaid []) := Draft.settlesTo_self rfl
  obtain ⟨last, hlast, hsettles⟩ := Draft.giveAll_said hempty (List.nil_append said ▸ h)
  rw [List.nil_append] at hsettles
  -- Only the input can be missing in the end, since all else is filled in.
  have hinput : (Draft.ofSaid said).input = none ↔ valuesSaid said .input = [] := by
    rw [← Draft.given_ofSaid h, ← Option.toList_eq_nil_iff]
    rfl
  have hfinish : last.finish env false =
      if (Draft.ofSaid said).input = none then .error .missingRequiredArgument
      else .ok fun argument =>
        (declared argument).fill env ((Draft.ofSaid said).given argument) := by
    rw [Draft.finish, hsettles.settle_eq]
    rfl
  -- Nothing stands before the command.
  show parseBuild env false (said.flatMap Said.written) = _
  rw [parseBuild, hlast]
  show last.finish env false = _
  rw [hfinish]
  simp only [hinput, Draft.given_ofSaid h]

/-- A call that `parse` reads has every value that is said, and says the input. -/
theorem values_of_parse {said : List Said} {env : Environment} {values : Values} (h : IsCall said)
    (hparse : parse env (callOf said) = .ok values) :
    valuesSaid said .input ≠ []
      ∧ values = fun argument => (declared argument).fill env (valuesSaid said argument) := by
  rw [parse_callOf h] at hparse
  split at hparse
  · cases hparse
  · next hinput =>
    cases hparse
    exact ⟨hinput, rfl⟩

/-- A call that `parse` reads is still read with one thing more, and no other argument is
touched. -/
theorem parse_append {said : List Said} {thing : Said} {env : Environment} {values : Values}
    (h : IsCall (said ++ [thing])) (hparse : parse env (callOf said) = .ok values) :
    ∃ values', parse env (callOf (said ++ [thing])) = .ok values'
      ∧ values' thing.argument = valuesSaid said thing.argument ++ [thing.value]
      ∧ ∀ argument ≠ thing.argument, values' argument = values argument := by
  obtain ⟨hinput, rfl⟩ := values_of_parse h.left hparse
  have hmore : valuesSaid (said ++ [thing]) .input ≠ [] := by simp [hinput]
  refine ⟨_, by rw [parse_callOf h, if_neg hmore], ?_, fun argument hne => ?_⟩
  · have hvalues : valuesSaid said thing.argument ++ [thing.value] ≠ [] := by simp
    rw [valuesSaid_append, valuesSaid_singleton, Said.value?_argument, Option.toList_some,
      Declaration.fill, if_neg hvalues]
  · rw [valuesSaid_append, valuesSaid_singleton_of_ne (Ne.symm hne), List.append_nil]

/-- The laws of a reader hold of `parse`, so `Reader.IsDocumented` asks for nothing that cannot be
had. -/
theorem parse_isDocumented : Reader.IsDocumented parse where
  positional env text htext := by
    have hcall : IsCall [.input text] := .singleton ⟨rfl, .inr (.inr htext)⟩
    exact ⟨_, parse_callOf hcall env, rfl⟩
  unwritten env said values argument hcall hparse hnil := by
    obtain ⟨-, rfl⟩ := values_of_parse hcall hparse
    show (declared argument).fill env (valuesSaid said argument) = _
    rw [hnil]
    rfl
  set env said thing values haction hcall hparse := by
    obtain ⟨values', hparse', hvalue, hothers⟩ := parse_append hcall hparse
    rw [hcall.valuesSaid_eq_nil haction] at hvalue
    exact ⟨values', hparse', hvalue, hothers⟩
  append env said thing values _ hfallback hcall hparse := by
    obtain ⟨values', hparse', hvalue, hothers⟩ := parse_append hcall hparse
    obtain ⟨-, rfl⟩ := values_of_parse hcall.left hparse
    refine ⟨values', hparse', ?_, hothers⟩
    -- Where no value is filled in, the argument has those that were said for it.
    exact hvalue.trans (congrArg (· ++ [thing.value]) (Declaration.fill_of_fallback hfallback).symm)
  swap env front first second back hne hcall := by
    rw [parse_callOf hcall, parse_callOf (hcall.swap hne)]
    simp only [valuesSaid_swap hne]

end Modlet.CommandLine
