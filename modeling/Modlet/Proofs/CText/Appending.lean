import Mathlib.Data.List.Infix
import Modlet.CText.Writing
import Modlet.Proofs.CText.Phases

/-!
# Writing C text only adds to it

What has been written stays as it is, whatever is written next. What a request adds is the same
behind every text, but for one space: a definition or a prototype begins with a word, which is set
off from a text that does not end in a blank, and a module begins with its preamble, which is not.
This holds for all names, also for those that are empty or that begin or end with blanks, although
the words behind them then see different ends of the text.

* `layout_word`: what begins with a word is laid out as if it stood alone, behind a space.
* `append_word`, `append_file`: what begins with a word, and a module, written behind a text.
* `writeAll_eq`: what is written on request, one after the other, are all the pieces at once.
* `isChain_writeAll`: every text begins with the one before it.
* `writing_onlyAdds`: requests, and sequences of them of any length.
-/

namespace Modlet.CText

/-! ### Behind a text -/

/-- Behind a `separator` no other space is put in. -/
theorem separator_behind_separator (last : Option Char) :
    separator ((separator last).getLast?.or last) = [] := by
  rcases separator_cases last with hnone | ⟨hspace, -⟩
  · rw [hnone, List.getLast?_nil, Option.none_or, hnone]
  · rw [hspace]
    rfl

/-- What stands behind a word, and behind its `separator`, sees the same as behind the word
alone. -/
theorem separator_behind_word (last : Option Char) (text : List Char) :
    separator ((separator last ++ text).getLast?.or last) = separator text.getLast? := by
  cases hend : text.getLast? with
  | some c => rw [List.getLast?_append, hend, Option.some_or, Option.some_or]
  | none =>
    -- An empty word leaves the space before it at the end of the text.
    rw [List.getLast?_eq_none_iff.mp hend, List.append_nil, separator_behind_separator]
    rfl

/-- What begins with a word is set off from what stands before it, and is otherwise what `layout
none` gives. -/
theorem layout_word (last : Option Char) (text : String) (pieces : List Piece) :
    layout last (.word text :: pieces) =
      separator last ++ layout none (.word text :: pieces) := by
  have hrest : layout ((separator last ++ text.toList).getLast?.or last) pieces =
      layout text.toList.getLast? pieces :=
    layout_congr (separator_behind_word last text.toList) pieces
  simp only [layout, Piece.write]
  rw [hrest, List.append_assoc]
  simp [separator]

/-- Pieces that begin with a word, behind a text: one `spaceBehind` it, and then what they are in an
empty one. -/
theorem append_word (before text : String) (pieces : List Piece) :
    append before (.word text :: pieces) =
      before ++ spaceBehind before ++ append "" (.word text :: pieces) := by
  rw [← String.toList_inj, append, layout_word, String.toList_append, String.toList_append,
    String.toList_append, toList_append_empty, toList_spaceBehind, String.toList_ofList,
    List.append_assoc]

/-- The pieces of every `Stmt.definition` begin with a word. -/
theorem definition_begins (statement : Stmt) :
    ∃ text pieces, statement.definition = .word text :: pieces := by
  cases statement with
  | constant name type value => exact ⟨"const", _, rfl⟩
  | function name result params body => exact ⟨result, _, rfl⟩
  | call callee args => exact ⟨callee, _, rfl⟩

/-- The pieces of the `Stmt.prototype` of a function begin with a word. -/
theorem prototype_begins {statement : Stmt} (h : statement.isFunction = true) :
    ∃ text pieces, statement.prototype = .word text :: pieces := by
  cases statement with
  | constant | call => cases h
  | function name result params body => exact ⟨result, _, rfl⟩

/-- A module is the same behind every text, because `preamble` is not set off: what stands behind it
is `ofModule program`. -/
theorem append_file (before : String) (program : Module) :
    appendModule before program = before ++ ofModule program := by
  have hpreamble : ∀ last, layout last program.pieces =
      preamble.toList ++ layout (some '\n') program.pieces.tail := fun _ => rfl
  rw [ofModule, appendModule, appendModule, ← String.toList_inj, append, String.toList_append,
    String.toList_append, toList_append_empty, String.toList_ofList, hpreamble, hpreamble]

/-! ### Sequences of requests -/

/-- The texts of `writeAll` are those behind all the pieces that have been asked for by then. -/
theorem writeAll_eq (text : String) (requests : List Request) :
    writeAll text requests =
      requests.inits.tail.map fun done => append text (done.flatMap Request.pieces) := by
  -- The text is general, because the other requests come behind the first one.
  induction requests generalizing text with
  | nil => rfl
  | cons request requests ih =>
    have hfirst : requests.inits = [] :: requests.inits.tail := by
      cases requests <;> rfl
    rw [writeAll, ih, request.write_eq_append, List.inits_cons, List.tail_cons, List.map_map,
      hfirst, List.map_cons, List.tail_cons]
    simp only [Function.comp_def, List.flatMap_cons, List.flatMap_nil, List.append_nil,
      append_append]

/-- Every text of `writeAll` begins with the one before it. -/
theorem isChain_writeAll (text : String) (requests : List Request) :
    (text :: writeAll text requests).IsChain fun before after =>
      before.toList <+: after.toList := by
  induction requests generalizing text with
  | nil => exact .singleton text
  | cons request requests ih =>
    refine List.isChain_cons_cons.mpr ⟨?_, ih (request.write text)⟩
    rw [request.write_eq_append, append, String.toList_append]
    exact List.prefix_append _ _

/-- Writing only adds to a text, and what it adds depends on the last character of the text alone. A
definition, and the prototype of a function, is written by `appendDefinition` and `appendPrototype`
as at the beginning of a text, behind the `spaceBehind` the text: one space unless the text is empty
or ends in a blank. For other statements there is no prototype. A module is written by
`appendModule` as its C text. Each `Request` is written piece by piece with `Piece.put`, with a look
at the end of the text before each word. Of the texts of `writeAll` for any number of requests, each
begins with the one before it. -/
theorem writing_onlyAdds :
    (∀ text statement, appendDefinition text statement =
        text ++ spaceBehind text ++ appendDefinition "" statement)
      ∧ (∀ text statement, appendPrototype text statement =
        if statement.isFunction then text ++ spaceBehind text ++ appendPrototype "" statement
        else text)
      ∧ (∀ text program, appendModule text program = text ++ ofModule program)
      ∧ (∀ text (request : Request), request.write text = request.pieces.foldl Piece.put text)
      ∧ (∃ added : Option Char → List Request → List String, ∀ text requests,
        writeAll text requests = (added text.toList.getLast? requests).map (text ++ ·))
      ∧ ∀ text requests, (text :: writeAll text requests).IsChain fun before after =>
        before.toList <+: after.toList := by
  refine ⟨fun text statement => ?_, fun text statement => ?_, append_file, fun text request => ?_,
    ?_, isChain_writeAll⟩
  · obtain ⟨word, pieces, hdefinition⟩ := definition_begins statement
    rw [appendDefinition, appendDefinition, hdefinition, append_word]
  · split
    · next h =>
      obtain ⟨word, pieces, hprototype⟩ := prototype_begins h
      rw [appendPrototype, appendPrototype, hprototype, append_word]
    · next h => exact appendPrototype_of_not (by simpa using h) text
  · rw [request.write_eq_append, append_eq_foldl]
  · -- What is added by a request is laid out behind the last character and depends on nothing else.
    refine ⟨fun last requests => requests.inits.tail.map fun done =>
      String.ofList (layout last (done.flatMap Request.pieces)), fun text requests => ?_⟩
    rw [writeAll_eq, List.map_map]
    rfl

/-- A function without a name, and a call with a value that ends in a blank, behind a text and at
the beginning of one. -/
example :
    let requests :=
      [.prototype (.function "" "" [] []), .definition (.call "f" [.variable "\u2003"])]
    writeAll "x" requests = ["x ( ) ;\n", "x ( ) ;\nf ( \u2003) ;"]
      ∧ writeAll "" requests = ["( ) ;\n", "( ) ;\nf ( \u2003) ;"] := by
  decide

end Modlet.CText
