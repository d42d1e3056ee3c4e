import Wordsmith.Proofs.Package.Archive
import Wordsmith.Proofs.Package.Body

/-!
# Well-formed packages

If a document becomes an archive, then the archive holds its document part and the relationships of
that part as well-formed documents, whatever is in the texts. A surrogate is the only code point
that neither the escaping nor the stripping takes care of; it is the encoding that refuses it.

* `isWellFormed_print` — what is printed over a legible lexicon is a document, and has no code point
  that may not occur in one.
* `prefixesDeclared_view` — the prefixes of a lexicon, if the root declares them.
* `package_isWellFormed` — both, of the two parts that depend on what a document says.
-/

namespace Wordsmith

open Xml Markup

/-! ## Printed parts

Well-formedness has two sides: the text is that of an element, and all its characters may occur. The
first side is a matter of escaping, the second of stripping and of the encoding. -/

/-- A root element within a legible lexicon is printed as a well-formed document, if no verbatim
value holds a forbidden code point and there are no surrogates. -/
theorem isWellFormed_print {l : Lexicon} (hl : l.Legible)
    (hverbatim : ∀ tag t, l.verbatim tag t → ∀ c ∈ t, c.isForbidden = false) {tag : String}
    {attributes : List Attribute} {children : List Markup}
    (h : Within l (.element tag attributes children))
    (hencodable : (Vocabulary.print (.element tag attributes children)).IsEncodable) :
    IsWellFormed (Vocabulary.print (.element tag attributes children))
      (.element tag (attributes.map attributeView) (viewAll children)) where
  document := h.isDocument hl
  characters := by
    intro c hc
    -- the writer strips what is forbidden; surrogates are left to the encoding
    have hforbidden : c.isForbidden = false := by
      rcases List.mem_append.mp hc with hdeclaration | hroot
      · exact (by decide : ∀ c ∈ Vocabulary.declaration, c.isForbidden = false) c hdeclaration
      · exact h.isForbidden_of_mem_print hl.toNamed hverbatim hroot
    rw [CodePoint.isXmlChar_eq, hforbidden, hencodable c hc]
    rfl

/-- The prefixes in a part are declared, if its root declares the prefixes of the lexicon. -/
theorem prefixesDeclared_view {l : Lexicon} {tag : String} {attributes : List Attribute}
    {children : List Markup} (h : Within l (.element tag attributes children)) (spaces : List Text)
    (hspaces : ∀ name ∈ l.names, ∀ parts ∈ name.splitFirst? ':',
      parts.1 ∈ Text.ofString "xml" :: Text.ofString "xmlns" :: spaces)
    (hroot : ∀ space ∈ spaces, ∃ a ∈ attributes, Text.ofString a.name = "xmlns:" ++ space) :
    PrefixesDeclared (.element tag (attributes.map attributeView) (viewAll children)) := by
  intro name hname space rest hsplit
  have hmem : name ∈ l.names := by
    apply h.name_mem
    rw [view]
    exact List.mem_append_left _ hname
  have hspace := hspaces name hmem (space, rest) hsplit
  simp only [List.mem_cons] at hspace
  -- two prefixes are known without a declaration, the others have one at the root
  rcases hspace with hxml | hxmlns | hspace
  · exact Or.inl hxml
  · exact Or.inr (Or.inl hxmlns)
  · obtain ⟨a, ha, heq⟩ := hroot space hspace
    refine Or.inr (Or.inr ⟨a.written.unescape, ?_⟩)
    rw [← heq]
    exact List.mem_map_of_mem ha

/-! ## The document part and its relationships

Both parts are printed over lexicons of their own, those of `documentMarkup` and of
`LinkTable.relationships`, so what is left to show is decided on their lists of tags. -/

/-- What a document part stands for: a root that declares all prefixes, with one body, which ends
with the only page geometry. -/
structure IsDocumentPart (root : Xml) : Prop where
  prefixes : root.PrefixesDeclared
  body : ∃ before attributes geometry,
    root.content
        = [.element "w:body" [] (before ++ [.element "w:sectPr" attributes geometry])]
      ∧ taggedAll "w:sectPr" (before ++ geometry) = []

/-- The page geometry is one element, which holds no other. -/
theorem view_sectionMarkup (size : PageSize) (margins : PageMargins) :
    ∃ geometry, (sectionMarkup size margins).view = [.element "w:sectPr" [] geometry]
      ∧ taggedAll "w:sectPr" geometry = [] := by
  refine ⟨_, rfl, ?_⟩
  simp [viewAll, view, taggedAll, tagged]

/-- The root of every document part declares its prefixes, and has the page geometry at the end of its
body and nowhere else. -/
theorem isDocumentPart_documentMarkup (p : BodyPolicy) (size : PageSize) (margins : PageMargins)
    (es : List Element) {root : Xml} (hroot : (documentMarkup p size margins es).view = [root]) :
    IsDocumentPart root := by
  obtain rfl := List.singleton_inj.mp hroot
  refine ⟨?_, ?_⟩
  · refine prefixesDeclared_view (within_documentMarkup p size margins es)
      ["w", "r", "wp", "a", "pic"] ?_ (by decide)
    show ∀ name ∈ (frameTags ++ elementTags).flatMap _, _
    decide
  · -- the tag of the page geometry belongs to the frame, so no element can have it
    obtain ⟨geometry, hsection, hgeometry⟩ := view_sectionMarkup size margins
    have helements : taggedAll "w:sectPr" (viewAll (Element.allMarkup p none 1 es)) = [] := by
      apply find_eq_nil
      intro m hm
      apply (within_topElements p es m hm).find_eq_nil
      show ∀ e ∈ elementTags, e.1 ≠ "w:sectPr"
      decide
    refine ⟨viewAll (Element.allMarkup p none 1 es), [], geometry, ?_, ?_⟩
    · show viewAll [.element "w:body" [] _] = _
      rw [viewAll, view, viewAll_append, viewAll, viewAll, hsection]
      rfl
    · rw [taggedAll_append, helements, hgeometry]
      rfl

/-- If a document becomes an archive, then the archive holds its document part and the relationships
of that part as well-formed documents with all prefixes declared, and the body ends with its only
page geometry. The elements and their texts are arbitrary, and so is the link mode; only the colour
of links, which is written as it is, has to be fit for a value. -/
theorem package_isWellFormed (s : Style) (es : List Element)
    (hcolor : ∀ c ∈ s.linkColor, c.isXmlChar = true ∧ c ≠ '<' ∧ c ≠ '&' ∧ c ≠ '"')
    {archive : Archive} (hpackage : s.package es = .ok archive) :
    (archive.Holds .document (s.partText es .document) ∧
        ∃ root, IsWellFormed (s.partText es .document) root ∧ IsDocumentPart root) ∧
      archive.Holds .documentRelationships (s.partText es .documentRelationships) ∧
        ∃ root, IsWellFormed (s.partText es .documentRelationships) root ∧
          root.PrefixesDeclared := by
  -- a surrogate would have kept the archive from being made
  have hencodable : ∀ part, (s.partText es part).IsEncodable := by
    intro part
    obtain ⟨e, -, -, hdata⟩ := Style.holds_of_package hpackage part
    exact Text.isEncodable_of_utf8? hdata
  constructor
  · have hlegible : (documentLexicon s.linkColor).Legible :=
      documentLexicon_legible fun c hc => (hcolor c hc).2
    have hverbatim : ∀ tag t, (documentLexicon s.linkColor).verbatim tag t →
        ∀ c ∈ t, c.isForbidden = false := by
      rintro tag t ⟨-, rfl⟩ c hc
      have hchar := (hcolor c hc).1
      rw [CodePoint.isXmlChar_eq, Bool.and_eq_true, Bool.not_eq_true'] at hchar
      exact hchar.1
    have hwithin := within_documentMarkup (s.bodyPolicy (Element.allLinks es)) s.pageSize
      s.pageMargins es
    exact ⟨Style.holds_of_package hpackage .document, _,
      isWellFormed_print hlegible hverbatim hwithin (hencodable .document),
      isDocumentPart_documentMarkup _ _ _ es rfl⟩
  · have hwithin := (s.linkPolicy (Element.allLinks es)).table.within_relationships
    refine ⟨Style.holds_of_package hpackage .documentRelationships, _,
      isWellFormed_print relationshipLexicon_legible nofun hwithin
        (hencodable .documentRelationships),
      prefixesDeclared_view hwithin [] ?_ nofun⟩
    show ∀ name ∈ relationshipTags.flatMap _, _
    decide

/-! A document with markup in its texts, its link and its picture, and with a table inside a table,
becomes an archive, so its parts are well-formed. -/

section Hostile

/-- The style of the document. -/
def plainStyle : Style := { linkMode := .hyperlink }

/-- Texts that would end an element or a value if they were written as they are. -/
def hostileElements : List Element :=
  [.paragraph [{ text := "</w:t>" }, { text := "a]]>b", link := some "u?a&b=\"<" }],
    .table [⟨[⟨[.image "\"/>" "", .table [⟨[], true⟩]]⟩, ⟨[]⟩], false⟩]]

/-- There is no surrogate in the styles part. -/
theorem isEncodable_plainStyle : (plainStyle.partText hostileElements .styles).IsEncodable := by
  simp [Style.partText, Style.partMarkup, plainStyle, Style.markup, HeadingStyles.toList,
    Font.defaultsMarkup, ParagraphStyles.markup, HeadingStyle.markup, CodeBlockStyle.markup,
    CodeBlockStyle.inlineMarkup, QuoteStyle.markup, ListStyle.markup, TableStyle.cellMarkup,
    TableStyle.markup, Attribute.fixed, Attribute.escaped, Attribute.verbatim, Attribute.int, value,
    styleDefinition, paragraphStyle, shading, Font.markup, Font.faceMarkup, Font.colorMarkup,
    Font.sizeMarkup, Font.heading, Spacing.markup, Indentation.markup, Border.paragraphMarkup,
    Border.sideMarkup, Border.isEmpty, Border.sides, BorderSide.markup, unlessBare,
    Attribute.ifPositive, Attribute.ifPresent, LineSpacing.attributes, width, cellStyle]

/-- Nor is there one in the document part and in its relationships. -/
theorem isEncodable_hostileElements :
    (plainStyle.partText hostileElements .document).IsEncodable ∧
      (plainStyle.partText hostileElements .documentRelationships).IsEncodable := by
  -- there is one link, with quotes and brackets in its target
  have hlinks : Element.allLinks hostileElements = [Text.ofString "u?a&b=\"<"] := by
    simp [hostileElements, Element.allLinks, Element.links, Row.allLinks, Cell.allLinks,
      Run.targets, Run.target?, Option.filter_some, List.filterMap_cons]
  constructor
  · rw [Style.partText, Style.partMarkup, hlinks]
    simp [plainStyle, hostileElements, documentMarkup, Element.allMarkup, Element.markup,
      Row.allMarkup, Cell.allMarkup, paragraph, Run.allMarkup, Run.linkGroups, Run.groupMarkup,
      Run.markup, Run.properties, Run.target?, Attribute.fixed, Attribute.int, Attribute.verbatim,
      Attribute.escaped, value, Style.bodyPolicy, Style.linkPolicy, runText, image, table, tableRow,
      tableCell, width, sectionMarkup, LinkTable.ofLinks, LinkTable.name?, LinkTable.relationName,
      Option.filter_some, List.eraseDups_cons, List.idxOf?]
  · rw [Style.partText, Style.partMarkup, hlinks]
    simp [plainStyle, Attribute.fixed, Attribute.escaped, Style.linkPolicy, LinkTable.ofLinks,
      LinkTable.entries, LinkTable.relationships, LinkTable.relationName, List.eraseDups_cons,
      Vocabulary.relationshipList, Vocabulary.relationship]

/-- So there is an archive, and its document part is well-formed. -/
theorem package_isWellFormed_hostile :
    ∃ archive, plainStyle.package hostileElements = .ok archive ∧
      ∃ root, IsWellFormed (plainStyle.partText hostileElements .document) root ∧
        IsDocumentPart root := by
  obtain ⟨hdocument, hrelationships⟩ := isEncodable_hostileElements
  obtain ⟨archive, hpackage⟩ : ∃ archive, plainStyle.package hostileElements = .ok archive := by
    apply Style.exists_package
    -- each part can be encoded: three are looked at, the others are fixed
    intro part
    cases part with
    | document => exact hdocument
    | documentRelationships => exact hrelationships
    | styles => exact isEncodable_plainStyle
    | contentTypes => exact Style.isEncodable_fixedPart _ (by decide)
    | packageRelationships => exact Style.isEncodable_fixedPart _ (by decide)
    | settings => exact Style.isEncodable_fixedPart _ (by decide)
    | settingsRelationships => exact Style.isEncodable_fixedPart _ (by decide)
  have hcolor : ∀ c ∈ plainStyle.linkColor, c.isXmlChar = true ∧ c ≠ '<' ∧ c ≠ '&' ∧ c ≠ '"' := by
    decide
  exact ⟨archive, hpackage,
    (package_isWellFormed plainStyle hostileElements hcolor hpackage).1.2⟩

end Hostile

end Wordsmith
