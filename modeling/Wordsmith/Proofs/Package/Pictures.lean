import Wordsmith.Proofs.Package.Blocks

/-!
# Pictures in the body

The pictures in the body stand for the images of the document, those in the cells of tables
included. In document order they have the numbers from one on, and each is described by the words
for its image (`find_pictures`). So the number of images that the writer counts while it goes
through the elements is the number of pictures that it writes, and no two pictures of a document
part have the same number (`Style.pictures_partText`).

* `Element.altTexts` — the words for images by recursion over the elements, and
  `Element.length_altTexts` that there are as many as the writer counts.
* `Markup.pictureView` — a picture as an element, and `Markup.find_pictures` that the body has one for
  each image.
* `Markup.nodup_id_pictureViews` — the numbers are all different.
-/

namespace Wordsmith

open Markup

/-! ## Words for images

Images stand at the top or in the cells of tables, at any depth. The words for them are gathered in the
order in which the writer goes through the elements. -/

mutual

/-- The words for the images in an element, in reading order. -/
def Element.altTexts : Element → List Text
  | .image altText _ => [altText]
  | .table rows => Row.allAltTexts rows
  | _ => []

def Row.allAltTexts : List Row → List Text
  | [] => []
  | ⟨cells, _⟩ :: rows => Cell.allAltTexts cells ++ Row.allAltTexts rows

def Cell.allAltTexts : List Cell → List Text
  | [] => []
  | ⟨content⟩ :: cells => Element.allAltTexts content ++ Cell.allAltTexts cells

def Element.allAltTexts : List Element → List Text
  | [] => []
  | e :: es => e.altTexts ++ Element.allAltTexts es

end

/-! ## Counting

The writer hands the number of the next picture down and adds what each element holds
(`Element.imageCount`). The list of words is as long as that count, element by element. -/

mutual

/-- An element has as many words for images as it counts images. -/
theorem Element.length_altTexts (e : Element) : e.altTexts.length = e.imageCount := by
  cases e with
  | table rows => exact Row.length_allAltTexts rows
  | image => rfl
  | heading => rfl
  | paragraph => rfl
  | quote => rfl
  | bulletList => rfl
  | numberedList => rfl
  | codeBlock => rfl
  | horizontalRule => rfl
  | loneRun => rfl
  | loneItem => rfl
  | loneRow => rfl
  | loneCell => rfl

theorem Row.length_allAltTexts (rows : List Row) :
    (Row.allAltTexts rows).length = Row.imageCounts rows := by
  cases rows with
  | nil => rfl
  | cons row rows =>
    obtain ⟨cells, header⟩ := row
    rw [Row.allAltTexts, Row.imageCounts, List.length_append, Cell.length_allAltTexts cells,
      Row.length_allAltTexts rows]

theorem Cell.length_allAltTexts (cells : List Cell) :
    (Cell.allAltTexts cells).length = Cell.imageCounts cells := by
  cases cells with
  | nil => rfl
  | cons cell cells =>
    obtain ⟨content⟩ := cell
    rw [Cell.allAltTexts, Cell.imageCounts, List.length_append, Element.length_allAltTexts content,
      Cell.length_allAltTexts cells]

theorem Element.length_allAltTexts (es : List Element) :
    (Element.allAltTexts es).length = Element.imageCounts es := by
  cases es with
  | nil => rfl
  | cons e es =>
    rw [Element.allAltTexts, Element.imageCounts, List.length_append, Element.length_altTexts e,
      Element.length_allAltTexts es]

end

/-! ## Pictures in what is written

A picture has the tag `wp:docPr` with its number, its name and its words. No other emitter uses this
tag, so the pictures are found at images and nowhere else. -/

/-- A picture as an element: its number twice, and the words for it. -/
def pictureView (number : Nat) (altText : Text) : Xml :=
  .element "wp:docPr"
    [(Text.ofString "id", .ofNat number), (Text.ofString "name", "Picture " ++ Text.ofNat number),
      (Text.ofString "descr", altText.strip)] []

/-- Pictures with the numbers from `next` on. -/
def pictureViews (next : Nat) (altTexts : List Text) : List Xml :=
  (altTexts.zipIdx next).map fun (altText, number) => pictureView number altText

/-- The second group is numbered on from the first. -/
theorem pictureViews_append (next : Nat) (ts us : List Text) :
    pictureViews next (ts ++ us) = pictureViews next ts ++ pictureViews (next + ts.length) us := by
  unfold pictureViews
  rw [List.zipIdx_append, List.map_append]

/-- There is one picture for each of the words. -/
theorem length_pictureViews (next : Nat) (altTexts : List Text) :
    (pictureViews next altTexts).length = altTexts.length := by
  rw [pictureViews, List.length_map, List.length_zipIdx]

/-- An image has one picture, with its number in the name and its words as a description. -/
theorem find_picture (number : Nat) (altText : Text) :
    find "wp:docPr" [image number altText] = [pictureView number altText] := by
  -- the name is plain, so it is read as it is written
  have hname : (Text.ofString "Picture " ++ Text.ofNat number).unescape
      = Text.ofString "Picture " ++ Text.ofNat number := by
    apply unescape_of_isPlain
    rw [List.forall_mem_append]
    exact ⟨by decide, fun c hc => isPlain_of_mem_ofNat hc⟩
  have hattributes : ([.int "id" number, .verbatim "name" ("Picture " ++ Text.ofNat number),
      .escaped "descr" altText.strip] : List Attribute).map attributeView
      = [(Text.ofString "id", .ofNat number),
          (Text.ofString "name", "Picture " ++ Text.ofNat number),
          (Text.ofString "descr", altText.strip)] := by
    simp [attributeView, Attribute.int, Attribute.verbatim, Attribute.escaped, hname]
    rfl
  unfold image
  simp [find_cons _ _ (_ :: _), find_element_of_ne, find_empty_of_ne, find_empty_self,
    -List.map_cons, hattributes]
  rfl

/-- A tag that runs do not have is not found in a sequence of runs. -/
theorem find_runs_eq_nil {tag : String} (htag : ∀ t ∈ "w:rStyle" :: Run.tags, t ≠ tag)
    (p : LinkPolicy) (runs : List Run) : find tag (Run.allMarkup p runs) = [] := by
  rw [List.forall_mem_cons] at htag
  have hruns : AllEverywhere (fun t _ => t ≠ tag) (Run.allMarkup p runs) :=
    Run.allEverywhere_allMarkup (fun t ht _ => htag.2 t ht) htag.1 runs
  exact hruns.find_eq_nil fun _ hne => hne rfl

section Walk

variable {p : BodyPolicy}

/-- Lists hold no pictures. -/
theorem find_items_eq_nil (style : Text) (list : Int) (items : List ListItem) :
    find "wp:docPr" (ListItem.allMarkup p.links style list items) = [] := by
  apply find_eq_nil
  intro m hm
  obtain ⟨item, -, rfl⟩ := List.mem_map.mp hm
  rw [find_paragraph (by decide), find_itemProperties (by decide),
    find_runs_eq_nil (by decide)]
  rfl

/-! The writer numbers the pictures as the list of the words for them does. One lemma for each
function of the walk. -/

mutual

theorem find_picture_element (p : BodyPolicy) (cell : Option Text) (next : Nat) (e : Element) :
    find "wp:docPr" (e.markup p cell next) = pictureViews next e.altTexts := by
  -- texts and runs hold no pictures
  have hrunText : ∀ t : Text, find "wp:docPr" [runText t] = [] := by
    intro t
    rw [runText, find_element_of_ne (by decide), find_text]
  cases e with
  | heading level text =>
    rw [Element.markup, find_heading (by decide), hrunText]
    rfl
  | paragraph runs =>
    have hstyle : find "wp:docPr" (cell.toList.map fun style => styleReference style) = [] := by
      apply find_eq_nil
      intro m hm
      obtain ⟨style, -, rfl⟩ := List.mem_map.mp hm
      exact find_mark (by decide) (by simp [blockTags])
    rw [Element.markup, find_paragraph (by decide), hstyle,
      find_runs_eq_nil (by decide)]
    rfl
  | quote runs =>
    rw [Element.markup, find_paragraph (by decide),
      find_runs_eq_nil (by decide), styleReference, value,
      find_mark (by decide) (by simp [blockTags])]
    rfl
  | bulletList items => exact find_items_eq_nil _ _ items
  | numberedList items => exact find_items_eq_nil _ _ items
  | codeBlock language code =>
    rw [Element.markup, find_codeBlock (by decide), hrunText]
    rfl
  | table rows =>
    rw [Element.markup, find_table (by decide)]
    exact find_picture_rows p next rows
  | horizontalRule => exact find_horizontalRule (by decide)
  | image altText source => exact find_picture next altText
  | loneRun _ => rfl
  | loneItem _ => rfl
  | loneRow _ => rfl
  | loneCell _ => rfl

theorem find_picture_rows (p : BodyPolicy) (next : Nat) (rows : List Row) :
    ((Row.allMarkup p next rows).flatMap fun row => row.cells.flatMap (find "wp:docPr"))
      = pictureViews next (Row.allAltTexts rows) := by
  cases rows with
  | nil => rfl
  | cons row rows =>
    obtain ⟨cells, header⟩ := row
    -- the rows below are numbered on by the count of the row
    rw [Row.allMarkup, Row.allAltTexts, List.flatMap_cons, pictureViews_append,
      Cell.length_allAltTexts, find_picture_rows p _ rows]
    exact congrArg (· ++ _) (find_picture_cells p _ next cells)

theorem find_picture_cells (p : BodyPolicy) (style : Text) (next : Nat) (cells : List Cell) :
    (Cell.allMarkup p style next cells).flatMap (find "wp:docPr")
      = pictureViews next (Cell.allAltTexts cells) := by
  cases cells with
  | nil => rfl
  | cons cell cells =>
    obtain ⟨content⟩ := cell
    rw [Cell.allMarkup, Cell.allAltTexts, List.flatMap_cons, pictureViews_append,
      Element.length_allAltTexts, find_pictures p _ next content,
      find_picture_cells p style _ cells]

/-- The pictures in the body are those of the images, numbered from `next` on. -/
theorem find_pictures (p : BodyPolicy) (cell : Option Text) (next : Nat) (es : List Element) :
    find "wp:docPr" (Element.allMarkup p cell next es)
      = pictureViews next (Element.allAltTexts es) := by
  cases es with
  | nil => rfl
  | cons e es =>
    rw [Element.allMarkup, Element.allAltTexts, find_append, pictureViews_append,
      Element.length_altTexts, find_picture_element p cell next e, find_pictures p cell _ es]

end

/-- The writer counts the pictures that it writes. -/
theorem length_find_pictures (p : BodyPolicy) (cell : Option Text) (next : Nat)
    (es : List Element) :
    (find "wp:docPr" (Element.allMarkup p cell next es)).length = Element.imageCounts es := by
  rw [find_pictures, length_pictureViews, Element.length_allAltTexts]

end Walk

/-! ## Pictures in the document part

The part is read back, and its pictures are those of the body: the frame has none. -/

/-- Pictures are told apart by their numbers. -/
theorem nodup_id_pictureViews (next : Nat) (altTexts : List Text) :
    ((pictureViews next altTexts).map (Xml.attribute? "id")).Nodup := by
  have hid : (pictureViews next altTexts).map (Xml.attribute? "id")
      = (List.range' next altTexts.length).map fun n => some (Text.ofNat n) := by
    rw [pictureViews, List.map_map, ← List.zipIdx_map_snd next altTexts, List.map_map]
    rfl
  -- different numbers have different digits
  have hinj : Function.Injective fun n : Nat => some (Text.ofNat n) := fun m n h =>
    Text.ofNat_inj.mp (Option.some.inj h)
  rw [hid]
  exact List.Nodup.map hinj List.nodup_range'

/-- The pictures in the document part are those of the images of the document, in the cells of
tables too, in reading order. They have the numbers from one on, each a different one, and the names
and the words that go with them. -/
theorem Style.pictures_partText (s : Style) (es : List Element)
    (hcolor : ∀ c ∈ s.linkColor, c ≠ '<' ∧ c ≠ '&' ∧ c ≠ '"') :
    ∃ root, Xml.read? (s.partText es .document) = some root ∧
      root.tagged "wp:docPr" = pictureViews 1 (Element.allAltTexts es) ∧
      (root.tagged "wp:docPr").length = Element.imageCounts es ∧
      ((root.tagged "wp:docPr").map (Xml.attribute? "id")).Nodup := by
  obtain ⟨root, hroot, htagged⟩ := s.exists_read?_document es hcolor
  have hpictures : root.tagged "wp:docPr" = pictureViews 1 (Element.allAltTexts es) := by
    rw [htagged, find_documentMarkup_of_ne (by decide), find_pictures]
  refine ⟨root, hroot, hpictures, ?_, ?_⟩
  · rw [hpictures, length_pictureViews, Element.length_allAltTexts]
  · rw [hpictures]
    exact nodup_id_pictureViews 1 _

/-- An image between others in the cells of nested tables, one of them in a row that is filled up,
and words with a character that may not occur in markup. -/
def scatteredImages : List Element :=
  [.image "a" "u",
    .table
      [⟨[⟨[.table [⟨[⟨[.image ("b" ++ [CodePoint.ofChar '\x01']) ""]⟩, ⟨[]⟩], false⟩]]⟩,
          ⟨[.image "" ""]⟩], true⟩,
        ⟨[⟨[.paragraph [{ text := "t" }], .image "<" ""]⟩], false⟩],
    .image "a" "v"]

theorem Style.pictures_partText_scatteredImages :
    let s : Style := { linkMode := .inlineUrl }
    (∀ c ∈ s.linkColor, c ≠ '<' ∧ c ≠ '&' ∧ c ≠ '"') ∧
      ∃ root, Xml.read? (s.partText scatteredImages .document) = some root ∧
        root.tagged "wp:docPr" = [pictureView 1 "a", pictureView 2 "b", pictureView 3 "",
          pictureView 4 "<", pictureView 5 "a"] := by
  intro s
  have hcolor : ∀ c ∈ s.linkColor, c ≠ '<' ∧ c ≠ '&' ∧ c ≠ '"' := by decide
  obtain ⟨root, hroot, hpictures, -⟩ := s.pictures_partText scatteredImages hcolor
  exact ⟨hcolor, root, hroot, hpictures⟩

end Wordsmith
