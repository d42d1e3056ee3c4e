import Wordsmith.Style.Style

/-!
# Presets

Four complete styles to choose from by name.
-/

namespace Wordsmith.Preset

/-- Six heading styles in one font, each with its size and the space before and after it. -/
def headings (font : Font) (sizes : List (Int × Int × Int)) : HeadingStyles :=
  let numbered (k : Nat) : HeadingStyle :=
    let (size, before, after) := sizes.getD k (0, 0, 0)
    { font := { font with size }, spacing := { before, after } }
  HeadingStyles.levelled
    { h1 := numbered 0, h2 := numbered 1, h3 := numbered 2, h4 := numbered 3, h5 := numbered 4
      h6 := numbered 5 }

/-- A serif face, double line spacing, ruled tables. -/
def academicStyle : Style :=
  let body : Font := { name := "Times New Roman" }
  let rule : BorderSide := {}
  { defaultFont := body
    lineSpacing := { rule := .multiple, value := some 480 }
    headings := headings body
      [(32, 480, 240), (28, 360, 200), (26, 240, 160), (24, 240, 120), (24, 200, 120),
       (24, 160, 120)]
    paragraphs :=
      { normal := { alignment := .both, indentation := { firstLine := some 720 } }
        spacing := { after := 160 } }
    codeBlocks := { font := { name := "Courier New", size := 19 } }
    quotes :=
      { font := body
        border := {}
        indentation := { left := 1080, right := 1080 } }
    tables :=
      { border := { top := some rule, bottom := some rule }
        cellPadding := 100
        headerFont := { body with size := 20 }
        bodyFont := { body with size := 20 } }
    lists := { bulletFont := body, numberedFont := body }
    linkColor := "000080" }

/-- A sans-serif face, compact spacing, gridded tables, A4 paper. -/
def businessStyle : Style :=
  let body : Font := { name := "Arial", size := 20, color := "222222" }
  let accent : Text := "1F3864"
  { pageSize := Paper.a4.pageSize
    pageMargins := { top := 1134, right := 1134, bottom := 1134, left := 1134 }
    defaultFont := body
    lineSpacing := { rule := .multiple, value := some 276 }
    headings := headings { body with color := accent }
      [(40, 280, 160), (32, 240, 120), (26, 200, 80), (22, 160, 80), (21, 120, 80), (20, 120, 80)]
    paragraphs := { spacing := { after := 80 } }
    codeBlocks :=
      { font := { name := "Consolas", size := 18, color := "333333" }
        border := .all { color := "D9D9D9" } }
    quotes :=
      { font := { body with color := "555555" }
        border := { left := some { width := 12, color := accent } }
        indentation := { left := 320, right := 320 }
        spacing := { before := 80, after := 80 } }
    tables :=
      { border := .all { color := "A6A6A6" }
        cellPadding := 80
        headerFont := { body with size := 18, color := accent }
        bodyFont := { body with size := 18 } }
    lists := { bulletFont := body, numberedFont := body, indentation := 360 }
    linkColor := accent }

/-- A clean sans-serif face with tight spacing and no decoration. -/
def minimalStyle : Style :=
  let body : Font := { name := "Helvetica Neue", size := 20 }
  { pageMargins := { top := 1080, right := 1080, bottom := 1080, left := 1080 }
    defaultFont := body
    headings := headings body
      [(36, 240, 120), (30, 200, 100), (25, 160, 80), (22, 120, 60), (21, 80, 60), (20, 80, 60)]
    paragraphs := { spacing := { after := 60 } }
    codeBlocks :=
      { font := { name := "Menlo", size := 18 }
        background := "FAFAFA"
        indentation := {}
        spacing := { before := 60, after := 60 } }
    quotes :=
      { font := { body with color := "666666" }
        border := {}
        indentation := { left := 280 }
        spacing := { before := 60, after := 60 } }
    tables :=
      { cellPadding := 60
        headerFont := { body with size := 18 }
        bodyFont := { body with size := 18 } }
    lists := { bulletFont := body, numberedFont := body, indentation := 320 }
    linkColor := "000000" }

def style : Preset → Style
  | .default => {}
  | .academic => academicStyle
  | .business => businessStyle
  | .minimal => minimalStyle

end Wordsmith.Preset
