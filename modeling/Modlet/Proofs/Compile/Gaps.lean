import Modlet.Compile
import Modlet.Proofs.Program.Contents
import Modlet.Proofs.Token.Boundary

/-!
# What is compiled does not depend on gaps

The C text of a unit depends on the kinds and the texts of its tokens alone, and so does the message
of its error. A gap that is put in where no lexeme is open therefore makes no difference, apart from
where an error is reported: it moves with its token.

* `FailsAt`: a unit has an error at the token with the given number.
* `compile_of_contents_eq`: units with the same kinds and texts of tokens.
* `compile_insert_gap`: units that differ by a gap.
-/

namespace Modlet

open Token

/-- Compiling a unit gives the error `e`, at the token of the source with the number `i`. Tokens are
counted from zero, and behind the last one stands the end of the file. -/
structure FailsAt (file source : String) (e : SourceError) (i : Nat) : Prop where
  /-- The source has the error. -/
  parse_eq : Module.parse file source = .error e
  /-- The error is what is shown. -/
  result_eq : (compile file source).result = .error (.ofError e source)
  /-- There is a token with the number. -/
  index_le : i ≤ (tokensOf source).length
  /-- It stands where the error is reported. -/
  place : ((Cursor.ofSource source).reading i).pos = e.pos
  /-- No other token stands there. -/
  unique : ∀ j ≤ (tokensOf source).length, ((Cursor.ofSource source).reading j).pos = e.pos → j = i

/-- An error is reported at the token in front of what is left to be consumed, as the `Reader.size`
tells its number. -/
theorem failsAt_of_read {file source : String} {fault : Fault} {stop : Reader} {i : Nat}
    (h : Module.read source = .error fault stop)
    (hi : i + stop.size = (tokensOf source).length) :
    FailsAt file source (.ofFault file fault) i := by
  have hparse : Module.parse file source = .error (.ofFault file fault) := by
    rw [Module.parse, h]
  obtain ⟨i', hi', htoken⟩ := Module.exists_reading_of_fault h
  obtain rfl : i' = i := by omega
  have hle : i' ≤ (tokensOf source).length := by omega
  have hplace : ((Cursor.ofSource source).reading i').pos =
      (SourceError.ofFault file fault).pos := by
    rw [← htoken, SourceError.ofFault]
  refine ⟨hparse, compile_result_of_error hparse, hle, hplace, fun j hj hpos => ?_⟩
  exact Cursor.reading_pos_injective hj hle (hpos.trans hplace.symm)

/-- Units whose tokens have the same `content` are compiled to the same C text, or they have errors
with the same message at tokens with the same number (`FailsAt`). -/
theorem compile_of_contents_eq {source source' : String}
    (h : (tokensOf source).map content = (tokensOf source').map content) (file : String) :
    (∃ text, (compile file source).result = .ok text ∧ (compile file source').result = .ok text) ∨
      ∃ e e' i, FailsAt file source e i ∧ FailsAt file source' e' i ∧ e.message = e'.message := by
  have hsame := Module.read_sameOutcome h
  generalize hread : Module.read source = outcome at hsame
  generalize hread' : Module.read source' = outcome' at hsame
  cases hsame with
  | ok program =>
    have hparse : Module.parse file source = .ok program := by rw [Module.parse, hread]
    have hparse' : Module.parse file source' = .ok program := by rw [Module.parse, hread']
    exact .inl ⟨_, compile_result_of_parse hparse, compile_result_of_parse hparse'⟩
  | @error fault fault' stop stop' hmessage halike =>
    obtain ⟨i, hi, -⟩ := Module.exists_reading_of_fault hread
    -- Both sources have the same number of tokens, and the same number of them is left.
    have hi' : i + stop'.size = (tokensOf source').length := by
      rw [← halike.size_eq, hi]
      simpa using congrArg List.length h
    exact .inr ⟨.ofFault file fault, .ofFault file fault', i, failsAt_of_read hread hi,
      failsAt_of_read hread' hi', hmessage⟩

/-- A gap that begins with a spacing character makes no difference to what `compile` makes of a
unit, at whatever `IsBoundary` of the source it is put in. Both units have the same C text, or
`FailsAt` holds of both with errors with the same message at tokens with the same number. -/
theorem compile_insert_gap {front behind gap : String}
    (h : IsBoundary front.toList behind.toList) (hgap : IsGap gap.toList)
    (hspacing : ∃ c ∈ gap.toList.head?, isSpacing c = true) (file : String) :
    (∃ text, (compile file (front ++ gap ++ behind)).result = .ok text
        ∧ (compile file (front ++ behind)).result = .ok text) ∨
      ∃ e e' i, FailsAt file (front ++ gap ++ behind) e i ∧ FailsAt file (front ++ behind) e' i
        ∧ e.message = e'.message := by
  refine compile_of_contents_eq ?_ file
  rw [tokensOf, tokensOf, Cursor.ofSource, Cursor.ofSource, String.toList_append,
    String.toList_append, String.toList_append]
  exact h.contents_tokens hgap hspacing .start

/-- A comment behind the first keyword. -/
theorem compile_insert_gap_comment :
    IsBoundary "module".toList " a;\nf(1 2);".toList ∧ IsGap "\t// name\n".toList
      ∧ ((∃ text, (compile "m" ("module" ++ "\t// name\n" ++ " a;\nf(1 2);")).result = .ok text
          ∧ (compile "m" ("module" ++ " a;\nf(1 2);")).result = .ok text) ∨
        ∃ e e' i, FailsAt "m" ("module" ++ "\t// name\n" ++ " a;\nf(1 2);") e i
          ∧ FailsAt "m" ("module" ++ " a;\nf(1 2);") e' i ∧ e.message = e'.message) := by
  have hboundary : IsBoundary "module".toList " a;\nf(1 2);".toList := by
    refine @IsBoundary.behind_first [] "odule".toList " a;\nf(1 2);".toList 'm' ?_ ?_ ?_
    · decide
    · decide
    · rintro _ ⟨⟩
  have hgap : IsGap "\t// name\n".toList :=
    .spacing (by decide) (@IsGap.comment " name".toList [] (by decide) .nil)
  exact ⟨hboundary, hgap, compile_insert_gap hboundary hgap ⟨'\t', by decide, by decide⟩ "m"⟩

end Modlet
