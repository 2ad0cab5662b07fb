/-!
# Programs

A program is a module: a name and its statements in order. Names of types are plain names, and
the contents of a string literal are kept exactly as they were written.
-/

namespace Modlet

/-- A value that is given to a constant or handed to a function. -/
inductive Expr
  | integer (value : Int)
  | string (contents : String)
  | variable (name : String)
deriving DecidableEq, Repr, Inhabited

/-- A parameter of a function. -/
structure Param where
  /-- The name of the parameter. -/
  name : String
  /-- The name of its type. -/
  type : String
deriving DecidableEq, Repr, Inhabited

/-- A statement, at the top of a module or in the body of a function. -/
inductive Stmt
  /-- A named constant of a given type. -/
  | constant (name type : String) (value : Expr)
  /-- A function with its parameters, the type of its result and its body. -/
  | function (name result : String) (params : List Param) (body : List Stmt)
  /-- A call of a function for its effect. -/
  | call (callee : String) (args : List Expr)
deriving Repr, Inhabited

/-- A program. -/
structure Module where
  /-- The name of the module. -/
  name : String
  /-- Its statements, in order. -/
  statements : List Stmt
deriving Repr, Inhabited

mutual

/-- Statements can be told apart. -/
def Stmt.decEq : (a b : Stmt) → Decidable (a = b)
  | .constant n t v, .constant n' t' v' =>
    if h : n = n' ∧ t = t' ∧ v = v' then isTrue (by simp [h])
    else isFalse (by simpa using h)
  | .function n t ps ss, .function n' t' ps' ss' =>
    match Stmt.decEqList ss ss' with
    | isTrue same =>
      if h : n = n' ∧ t = t' ∧ ps = ps' then isTrue (by simp [h, same])
      else isFalse (by simp [same]; simpa using h)
    | isFalse differ => isFalse (by simp [differ])
  | .call n as, .call n' as' =>
    if h : n = n' ∧ as = as' then isTrue (by simp [h]) else isFalse (by simpa using h)
  | .constant .., .function .. | .constant .., .call .. | .function .., .constant ..
  | .function .., .call .. | .call .., .constant .. | .call .., .function .. =>
    isFalse (by simp)

/-- Lists of statements can be told apart. -/
def Stmt.decEqList : (as bs : List Stmt) → Decidable (as = bs)
  | [], [] => isTrue rfl
  | [], _ :: _ | _ :: _, [] => isFalse (by simp)
  | a :: as, b :: bs =>
    match Stmt.decEq a b, Stmt.decEqList as bs with
    | isTrue h, isTrue hs => isTrue (by simp [h, hs])
    | isFalse h, _ => isFalse (by simp [h])
    | _, isFalse hs => isFalse (by simp [hs])

end

instance : DecidableEq Stmt := Stmt.decEq

deriving instance DecidableEq for Module

end Modlet
