/-
  Patterns of paths.

  A pattern is a path in which names in braces stand for what a request may put there: `{name}` for one
  segment, `{*name}` for all that follows.  A brace that is written twice is itself.
  Where several patterns fit a path, the one counts that says more at the first place where they
  differ: a character says more than a segment, and a segment more than all that follows.
-/

namespace RegistryGate.Http

/-- A part of a pattern. -/
inductive RoutePart where
  /-- A character. -/
  | char (value : Char)
  /-- A segment, which is not empty and has no slash. -/
  | segment
  /-- All that follows, which is not empty. -/
  | rest
deriving DecidableEq

namespace RoutePart

/-- The text behind a name in braces, whose own braces are written twice. -/
def skipName : List Char → List Char
  | '{' :: '{' :: cs => skipName cs
  | '}' :: '}' :: cs => skipName cs
  | '}' :: cs => cs
  | _ :: cs => skipName cs
  | [] => []

/-- Behind a name there is less text than before it. -/
theorem length_skipName_le (cs : List Char) : (skipName cs).length ≤ cs.length := by
  fun_induction skipName cs <;> simp <;> omega

/-- The parts of a pattern. -/
def ofPattern : List Char → List RoutePart
  | '{' :: '{' :: cs => char '{' :: ofPattern cs
  | '}' :: '}' :: cs => char '}' :: ofPattern cs
  | '{' :: '*' :: cs => rest :: ofPattern (skipName cs)
  | '{' :: cs => segment :: ofPattern (skipName cs)
  | c :: cs => char c :: ofPattern cs
  | [] => []
termination_by cs => cs.length
decreasing_by all_goals simp; try have := length_skipName_le cs; try omega

/-- Holds when a path fits the parts. -/
def fits : List RoutePart → List Char → Bool
  | [], path => path.isEmpty
  | char c :: parts, d :: path => c == d && fits parts path
  | char _ :: _, [] => false
  | segment :: parts, path =>
    let value := path.takeWhile (· != '/')
    !value.isEmpty && fits parts (path.drop value.length)
  | rest :: _, path => !path.isEmpty

/-- How little a part says. -/
def rank : RoutePart → Nat
  | char _ => 0
  | segment => 1
  | rest => 2

/-- Holds when the first parts say more than the second ones where they first differ. -/
def precedes : List RoutePart → List RoutePart → Bool
  | a :: as, b :: bs => if a = b then precedes as bs else decide (a.rank < b.rank)
  | _, _ => false

end RoutePart

/-- The pattern, among some, that counts for a path. -/
def route? (patterns : List String) (path : String) : Option String :=
  let parts := fun (pattern : String) => RoutePart.ofPattern pattern.toList
  let fitting := patterns.filter fun pattern => RoutePart.fits (parts pattern) path.toList
  fitting.find? fun pattern => fitting.all fun other =>
    !RoutePart.precedes (parts other) (parts pattern)

end RegistryGate.Http
