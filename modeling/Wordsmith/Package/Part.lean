import Wordsmith.Document.Links
import Wordsmith.Package.Body
import Wordsmith.Package.Styles

/-!
# The parts of a package

A package has seven parts. Four are the same for every document; the document part and its
relationships depend on the elements and on a few fields of the style, and the styles part on the
others.
-/

namespace Wordsmith

/-- The parts that every package has. -/
inductive Part where
  | contentTypes
  | packageRelationships
  | documentRelationships
  | document
  | styles
  | settings
  | settingsRelationships
deriving DecidableEq, Repr

namespace Part

/-- The parts in the order in which they are stored. -/
def all : List Part :=
  [.contentTypes, .packageRelationships, .documentRelationships, .document, .styles, .settings,
    .settingsRelationships]

/-- The name under which a part is stored. -/
def name : Part → String
  | .contentTypes => "[Content_Types].xml"
  | .packageRelationships => "_rels/.rels"
  | .documentRelationships => "word/_rels/document.xml.rels"
  | .document => "word/document.xml"
  | .styles => "word/styles.xml"
  | .settings => "word/settings.xml"
  | .settingsRelationships => "word/_rels/settings.xml.rels"

end Part

/-- The types of the files in a package, by ending or by name. -/
def contentTypesMarkup : Markup :=
  let default (extension type : String) : Markup :=
    .empty "Default" [.fixed "Extension" extension, .fixed "ContentType" type]
  let part (name type : String) : Markup :=
    .empty "Override" [.fixed "PartName" name, .fixed "ContentType" (Vocabulary.wordPart type)]
  .element "Types" [.fixed "xmlns" Vocabulary.contentTypes]
    [default "rels" "application/vnd.openxmlformats-package.relationships+xml",
      default "xml" "application/xml", part "/word/document.xml" "document.main",
      part "/word/styles.xml" "styles", part "/word/settings.xml" "settings"]

/-- The relationship from the package to the document part. -/
def packageRelationshipsMarkup : Markup :=
  Vocabulary.relationshipList
    [Vocabulary.relationship (LinkTable.relationName 1) "officeDocument" "word/document.xml"]

/-- The settings of a document, which are the same for all. -/
def settingsMarkup : Markup :=
  .element "w:settings" [.fixed "xmlns:w" Vocabulary.main]
    [.empty "w:zoom" [.fixed "w:percent" "100"], .value "w:defaultTabStop" "720",
      .value "w:characterSpacingControl" "doNotCompress", .empty "w:compat" [],
      .empty "w:themeFontLang" [.fixed "w:val" "en-US", .fixed "w:eastAsia" "en-US"],
      .empty "w:clrSchemeMapping"
        [.fixed "w:bg1" "light1", .fixed "w:t1" "dark1", .fixed "w:bg2" "light2",
          .fixed "w:t2" "dark2", .fixed "w:accent1" "accent1", .fixed "w:accent2" "accent2",
          .fixed "w:accent3" "accent3", .fixed "w:accent4" "accent4",
          .fixed "w:accent5" "accent5", .fixed "w:accent6" "accent6",
          .fixed "w:hyperlink" "hyperlink", .fixed "w:followedHyperlink" "followedHyperlink"]]

namespace Style

/-- The link policy of a style for a document with these links. -/
def linkPolicy (s : Style) (links : List Text) : LinkPolicy where
  mode := s.linkMode
  color := s.linkColor
  table := .ofLinks s.linkMode links

/-- The policy of a style for the body of a document with these links. -/
def bodyPolicy (s : Style) (links : List Text) : BodyPolicy where
  links := s.linkPolicy links
  contentWidth := s.contentWidth

/-- The markup of a part of the package that a style makes of a sequence of elements. -/
def partMarkup (s : Style) (elements : List Element) : Part → Markup
  | .contentTypes => contentTypesMarkup
  | .packageRelationships => packageRelationshipsMarkup
  | .documentRelationships => (s.linkPolicy (Element.allLinks elements)).table.relationships
  | .document =>
    documentMarkup (s.bodyPolicy (Element.allLinks elements)) s.pageSize s.pageMargins elements
  | .styles => s.markup
  | .settings => settingsMarkup
  | .settingsRelationships => Vocabulary.relationshipList []

/-- The text of a part, behind its declaration. -/
def partText (s : Style) (elements : List Element) (part : Part) : Text :=
  Vocabulary.print (s.partMarkup elements part)

/-- The texts of all parts, in the order in which they are stored. -/
def parts (s : Style) (elements : List Element) : List (Part × Text) :=
  Part.all.map fun part => (part, s.partText elements part)

end Style

end Wordsmith
