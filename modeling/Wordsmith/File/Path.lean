import Wordsmith.Text.Basic

/-!
# Paths

A path is a sequence of names. Empty names and those of a single point say nothing and are dropped, so
paths that are written in different ways can be equal; two points are kept.
-/

namespace Wordsmith

/-- A path with its names in order. Paths with two slashes in front of them are kept apart from paths
with one. -/
structure Path where
  /-- The slashes in front of the first name: none, or one, or two. -/
  root : Nat := 0
  names : List Text
deriving DecidableEq

namespace Path

/-- The path that a text writes. -/
def ofText (t : Text) : Path :=
  let slashes := (t.takeWhile (· = ('/' : CodePoint))).length
  -- two leading slashes are kept apart from one, more are not
  { root := if slashes = 2 then 2 else min slashes 1
    names := (Text.splitAll '/' t).filter fun name => !name.isEmpty && !name.isLiteral "." }

/-- The path as a text; a path without names is a point, or its slashes. -/
def toText (p : Path) : Text :=
  if p.root = 0 && p.names.isEmpty then "."
  else List.replicate p.root ('/' : CodePoint) ++ Text.join "/" p.names

/-- The path without its last name. A path without names is its own parent. -/
def parent (p : Path) : Path := { p with names := p.names.dropLast }

/-- The name without its ending. -/
def stem (name : Text) : Text :=
  match Text.splitLast? '.' name with
  -- a point at either end of the name starts no ending
  | some (before, after) => if before.isEmpty || after.isEmpty then name else before
  | none => name

/-- The path with another ending of its last name; `ending` starts with a point. -/
def withEnding (p : Path) (ending : Text) : Path :=
  match p.names.getLast? with
  | some name => { p with names := p.names.dropLast ++ [stem name ++ ending] }
  | none => p

end Path

end Wordsmith
