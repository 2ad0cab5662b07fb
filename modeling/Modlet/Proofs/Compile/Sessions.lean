import Mathlib
import Modlet.Compile

/-!
# Units of a session do not touch one another

A session compiles each unit as if it were the only one. It grows by the diagnostics of the units
that have errors, one for each, and keeps those that it has.

* `SourceUnit.alone`: what a unit comes to in a session of its own.
* `Session.compile_eq`: one more unit in a session.
* `Session.compileAll_eq`: all units of a session.
* `Session.Separates`: a unit of a session, compared with the unit alone.
* `compileAll_separates`: sessions of any length.
-/

namespace Modlet

namespace SourceUnit

/-- The program of a unit, or the error in it, as `Module.parse` gives them. -/
def parse (unit : SourceUnit) : Except SourceError Module := Module.parse unit.file unit.source

/-- What `Session.compile` of a unit gives in a session of its own, and that session. -/
def alone (unit : SourceUnit) : Option String × Session :=
  Session.compile {} unit.file unit.source

/-- A unit without errors gives its C text `alone`, and no diagnostic. -/
theorem alone_of_ok {unit : SourceUnit} {program : Module} (h : unit.parse = .ok program) :
    unit.alone = (some (CText.ofModule program), {}) := by
  rw [alone, Session.compile, compile_result_of_parse h]

/-- A unit with an error gives nothing but the diagnostic of that when it is `alone`. -/
theorem alone_of_error {unit : SourceUnit} {e : SourceError} (h : unit.parse = .error e) :
    unit.alone = (none, { diagnostics := [.ofError e unit.source] }) := by
  rw [alone, Session.compile, compile_result_of_error h]
  rfl

/-- A unit gives nothing exactly if it has an error, also `alone`. -/
theorem alone_eq_none_iff (unit : SourceUnit) :
    unit.alone.1 = none ↔ ∃ e, unit.parse = .error e := by
  cases h : unit.parse with
  | ok program => simp [alone_of_ok h]
  | error e => simp [alone_of_error h]

end SourceUnit

namespace Session

/-- Whatever came before, `compile` gives for a unit what it gives `alone`, and the session grows by
the diagnostics that it has alone. -/
theorem compile_eq (session : Session) (unit : SourceUnit) :
    session.compile unit.file unit.source =
      (unit.alone.1, { diagnostics := session.diagnostics ++ unit.alone.2.diagnostics }) := by
  cases h : unit.parse with
  | ok program =>
    rw [unit.alone_of_ok h, compile, compile_result_of_parse h]
    simp
  | error e => rw [unit.alone_of_error h, compile, compile_result_of_error h]

/-- What `compileAll` gives for some units is what each of them gives `alone`, and the session grows
by the diagnostics that they have alone, in order. The induction is on the units, with `compile_eq`
for one. -/
theorem compileAll_eq (session : Session) (units : List SourceUnit) :
    session.compileAll units =
      (units.map fun unit => unit.alone.1,
        { diagnostics :=
            session.diagnostics ++ units.flatMap fun unit => unit.alone.2.diagnostics }) := by
  -- The session is general, because the other units come behind the diagnostics of the first.
  induction units generalizing session with
  | nil => simp [compileAll]
  | cons unit units ih =>
    rw [compileAll, compile_eq]
    dsimp only
    rw [ih]
    simp

/-- A session compiles the unit with the number `i` among others as it is compiled alone. -/
structure Separates (session : Session) (units : List SourceUnit) (i : Nat) (unit : SourceUnit) :
    Prop where
  /-- The unit gives what it gives alone. -/
  result_eq : (session.compileAll units).1[i]? = some unit.alone.1
  /-- It is compiled behind the units before it, and the session goes on from there. -/
  step_eq : (session.compileAll (units.take i)).2.compile unit.file unit.source =
    (unit.alone.1, (session.compileAll (units.take (i + 1))).2)
  /-- It gives nothing exactly if its source has an error. -/
  fails_iff : unit.alone.1 = none ↔ ∃ e, unit.parse = .error e
  /-- Then there is one more diagnostic, the one that the unit has alone. -/
  of_error : ∀ e, unit.parse = .error e →
    unit.alone.2.diagnostics = [.ofError e unit.source]
      ∧ (session.compileAll (units.take (i + 1))).2.diagnostics =
        (session.compileAll (units.take i)).2.diagnostics ++ [Diagnostic.ofError e unit.source]
  /-- Else there is its C text, and the session stays as it is. -/
  of_ok : ∀ program, unit.parse = .ok program →
    unit.alone.1 = some (CText.ofModule program)
      ∧ (session.compileAll (units.take (i + 1))).2 = (session.compileAll (units.take i)).2

/-- The session behind one more unit, whose diagnostics grow by those that the unit has `alone`. -/
theorem diagnostics_take_succ (session : Session) {units : List SourceUnit} {i : Nat}
    {unit : SourceUnit} (h : units[i]? = some unit) :
    (session.compileAll (units.take (i + 1))).2 =
      { diagnostics := (session.compileAll (units.take i)).2.diagnostics
          ++ unit.alone.2.diagnostics } := by
  rw [compileAll_eq, compileAll_eq, List.take_add_one, h]
  simp

theorem separates (session : Session) {units : List SourceUnit} {i : Nat} {unit : SourceUnit}
    (h : units[i]? = some unit) : session.Separates units i unit where
  result_eq := by rw [compileAll_eq, List.getElem?_map, h, Option.map_some]
  step_eq := by rw [compile_eq, diagnostics_take_succ session h]
  fails_iff := unit.alone_eq_none_iff
  of_error e he := by
    rw [diagnostics_take_succ session h, SourceUnit.alone_of_error he]
    exact ⟨rfl, rfl⟩
  of_ok program hprogram := by
    rw [diagnostics_take_succ session h, SourceUnit.alone_of_ok hprogram]
    simp

end Session

/-- In a session each unit comes to what it comes to alone: `compileAll` of any units `Separates`
them. The diagnostics behind any number of units are those of the units among them that have errors,
in order, and they stay as they are. -/
theorem compileAll_separates (session : Session) (units : List SourceUnit) :
    (∀ i unit, units[i]? = some unit → session.Separates units i unit)
      ∧ (∀ i, (session.compileAll (units.take i)).2.diagnostics =
        session.diagnostics ++ (units.take i).flatMap fun unit => unit.alone.2.diagnostics)
      ∧ ∀ i j, i ≤ j → (session.compileAll (units.take i)).2.diagnostics <+:
        (session.compileAll (units.take j)).2.diagnostics := by
  have hdiagnostics : ∀ i, (session.compileAll (units.take i)).2.diagnostics =
      session.diagnostics ++ (units.take i).flatMap fun unit => unit.alone.2.diagnostics := by
    intro i
    rw [Session.compileAll_eq]
  refine ⟨fun i unit h => session.separates h, hdiagnostics, fun i j hij => ?_⟩
  rw [hdiagnostics, hdiagnostics]
  -- The units up to the earlier place are the first of those up to the later one.
  obtain ⟨more, hmore⟩ := List.take_prefix_take_left (l := units) hij
  rw [← hmore, List.flatMap_append, ← List.append_assoc]
  exact List.prefix_append _ _

/-- A unit with an error between two without. -/
theorem compileAll_separates_mixed :
    let units : List SourceUnit := [⟨"a", "module a;"⟩, ⟨"b", "module b"⟩, ⟨"c", "module c;"⟩]
    Session.Separates {} units 2 ⟨"c", "module c;"⟩
      ∧ (Session.compileAll {} units).2.diagnostics =
        (SourceUnit.alone ⟨"b", "module b"⟩).2.diagnostics := by
  intro units
  obtain ⟨hseparates, hdiagnostics, -⟩ := compileAll_separates {} units
  refine ⟨hseparates 2 _ rfl, (hdiagnostics 3).trans ?_⟩
  cbv

end Modlet
