import Modlet.Text.Octets

/-!
# Lines of input

A line that is read into variables is taken apart at separators into as many words as there are
variables. The last word keeps the separators inside it, and loses those behind it, unless they say
more than that it ends. Characters behind backslashes separate nothing.
-/

namespace Modlet.Shell.Input

/-- A part of a line. -/
inductive Part
  | plain (c : Char)
  /-- A character behind a backslash. -/
  | kept (c : Char)
  /-- A line end behind a backslash. -/
  | joint
deriving DecidableEq, Repr

/-- The parts of a line, and whether another line goes on with it. -/
def parts : List Char → List Part × Bool
  | [] => ([], false)
  | ['\\', '\n'] => ([.joint], true)
  | ['\\'] => ([], false)
  | '\\' :: c :: rest =>
    let (others, goesOn) := parts rest
    (.kept c :: others, goesOn)
  | '\n' :: _ => ([], false)
  | c :: rest =>
    let (others, goesOn) := parts rest
    (.plain c :: others, goesOn)

/-- A line that is being taken apart. -/
structure Splitting where
  /-- The words, the latest first. -/
  words : List Octets := []
  /-- The word at work, with its latest character first. -/
  word : List Char := []
  /-- The number of words that are still to come. -/
  wanted : Nat
  /-- Whether a blank has just ended a word. -/
  afterBlank : Bool := false
  /-- How long the last word is without the separators behind it, if there are any. -/
  cut? : Option Nat := none

namespace Splitting

/-- Goes on with the word. -/
def extend (s : Splitting) (c : Char) : Splitting := { s with word := c :: s.word }

/-- Goes on with a character of the last word. A blank may stand behind the word; another separator
may do so too, but only right behind the first blank. -/
def extendLast (s : Splitting) (c : Char) (isSeparator isBlank : Bool) : Splitting :=
  if isBlank then { s.extend c with cut? := s.cut?.or (some s.word.length) }
  else if isSeparator && s.afterBlank then { s.extend c with afterBlank := false }
  else { s.extend c with afterBlank := false, cut? := none }

/-- Ends a word at a separator. The last word goes on behind it. -/
def separate (s : Splitting) (c : Char) (isBlank : Bool) : Splitting :=
  if s.word.isEmpty && isBlank then { s with afterBlank := false }
  else if s.wanted ≤ 1 then
    { s.extend c with wanted := 0, afterBlank := isBlank, cut? := some s.word.length }
  else
    { s with
      words := String.ofList s.word.reverse :: s.words, word := [], wanted := s.wanted - 1
      afterBlank := isBlank }

/-- Goes on with a part of the line. Behind a blank that has ended a word, more blanks and one other
separator say nothing more. -/
def step (separators : List Char) (s : Splitting) (part : Part) : Splitting :=
  match part with
  | .joint => { s with afterBlank := false }
  | .kept c => { s.extend c with afterBlank := false }
  | .plain c =>
    let isSeparator := separators.contains c
    let isBlank := isSeparator && [' ', '\t', '\n'].contains c
    if s.wanted = 0 then s.extendLast c isSeparator isBlank
    else if s.afterBlank && isBlank then s
    else if s.afterBlank && isSeparator then { s with afterBlank := false }
    else if isSeparator then s.separate c isBlank
    else { s.extend c with afterBlank := false }

/-- The words. -/
def finish (s : Splitting) : List Octets :=
  let word := s.word.reverse
  let word := match s.cut? with
    | some n => word.take n
    | none => word
  (if word.isEmpty then s.words else String.ofList word :: s.words).reverse

end Splitting

/-- The words of a line, of which no more than some are wanted. -/
def words (separators : List Char) (wanted : Nat) (line : List Part) : List Octets :=
  (line.foldl (Splitting.step separators) { wanted }).finish

end Modlet.Shell.Input
