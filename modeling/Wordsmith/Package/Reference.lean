import Wordsmith.Package.Vocabulary
import Wordsmith.Style.Basic

/-!
# References to link targets

A link in the body refers to its target by the number of a relationship. Targets are numbered from
three on in the order in which they first occur; the first two numbers belong to the styles and the
settings.
-/

namespace Wordsmith

/-- The distinct link targets of a document in the order of their numbers. -/
structure LinkTable where
  targets : List Text

namespace LinkTable

/-- The number of the first link target. -/
def firstNumber : Nat := 3

/-- The table for the links of a document; only links that can be followed have targets in it. -/
def ofLinks (mode : LinkMode) (links : List Text) : LinkTable :=
  ⟨if mode = .hyperlink then links.eraseDups else []⟩

/-- The name of the relationship with a number. -/
def relationName (n : Nat) : Text := "rId" ++ Text.ofNat n

/-- The name of the relationship of a target. -/
def name? (t : LinkTable) (target : Text) : Option Text :=
  (t.targets.idxOf? target).map fun i => relationName (firstNumber + i)

/-- The targets with the names of their relationships, in order. -/
def entries (t : LinkTable) : List (Text × Text) :=
  t.targets.zipIdx.map fun (target, i) => (target, relationName (firstNumber + i))

/-- The relationships of the document part: the styles, the settings and the link targets. -/
def relationships (t : LinkTable) : Markup :=
  Vocabulary.relationshipList
    ([Vocabulary.relationship (relationName 1) "styles" "styles.xml",
      Vocabulary.relationship (relationName 2) "settings" "settings.xml"] ++
      t.entries.map fun (target, name) =>
        Vocabulary.relationship name "hyperlink" target.strip [.fixed "TargetMode" "External"])

end LinkTable

end Wordsmith
