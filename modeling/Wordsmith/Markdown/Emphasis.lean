import Wordsmith.Markdown.Span
import Wordsmith.Text.Blank

/-!
# Emphasis

Runs of asterisks, underscores and tildes may open and close emphasis, by what stands before and after
them (`MarkRun.between`). `resolve` goes through the pieces from left to right and keeps the runs that
may still be closed on a stack. A run that may close takes the nearest run on the stack that fits it;
the runs above that one are text. Two marks of either run make strong emphasis, one makes emphasis.
-/

namespace Wordsmith.Markdown

/-- A run of equal marks, of which `left` have not been used. -/
structure MarkRun where
  mark : CodePoint
  length : Nat
  left : Nat
  opens : Bool
  closes : Bool

namespace MarkRun

/-- The run of `length` marks between two code points; none stands before the start and after the end
of the text. -/
def between (before after : Option CodePoint) (mark : CodePoint) (length : Nat) : MarkRun :=
  let isSpace (c : Option CodePoint) : Bool := c.all CodePoint.isSpace
  let isMark (c : Option CodePoint) : Bool := c.any CodePoint.isPunctuation
  let leftFlanking := !isSpace after && (!isMark after || isSpace before || isMark before)
  let rightFlanking := !isSpace before && (!isMark before || isSpace after || isMark after)
  -- an underscore inside a word neither opens nor closes
  let underscore : Bool := mark = '_'
  -- only two tildes, neither more nor fewer, strike through
  let allowed : Bool := mark ≠ '~' || length = 2
  { mark
    length
    left := length
    opens := allowed && leftFlanking && (!underscore || !rightFlanking || isMark before)
    closes := allowed && rightFlanking && (!underscore || !leftFlanking || isMark after) }

/-- The unused marks as text. -/
def text (r : MarkRun) : Span := .text (List.replicate r.left r.mark)

/-- The first run may be closed by the second one. -/
def fits (opening closing : MarkRun) : Bool :=
  opening.mark = closing.mark &&
    -- if one of them could do both, the lengths may not add up to a multiple of three unless both
    -- are such
    (!(opening.closes || closing.opens) || (opening.length + closing.length) % 3 ≠ 0 ||
      (opening.length % 3 = 0 && closing.length % 3 = 0))

/-- The number of marks that two runs use of each other. -/
def used (opening closing : MarkRun) : Nat := if 2 ≤ opening.left && 2 ≤ closing.left then 2 else 1

/-- The span between two runs that use this number of each other's marks. -/
def wrap (mark : CodePoint) (used : Nat) (content : List Span) : Span :=
  if mark = '~' then .struck content
  else if used = 2 then .strong content
  else .emphasis content

end MarkRun

/-- A part of inline content: a finished span, or a run of marks. -/
inductive Piece where
  | span (s : Span)
  | run (r : MarkRun)

/-- A run that may still be closed, and the spans after it, last one first. -/
structure OpenRun where
  run : MarkRun
  after : List Span

/-- The spans and open runs before a place in the text; both are held last one first, and the spans
that stand before the first open run apart. -/
structure EmphasisState where
  runs : List OpenRun
  before : List Span

namespace EmphasisState

def add (st : EmphasisState) (s : Span) : EmphasisState :=
  match st.runs with
  | [] => { st with before := s :: st.before }
  | r :: rs => { st with runs := { r with after := s :: r.after } :: rs }

/-- The spans after `inner`, last one first, followed by those of the open runs above them, whose marks
are text. -/
def flatten (inner : List Span) (above : List OpenRun) : List Span :=
  above.foldr (fun r spans => r.after ++ r.run.text :: spans) inner

/-- The nearest open run that fits a closing one, with those above and those below it. -/
def opening? (closing : MarkRun) : List OpenRun → Option (List OpenRun × OpenRun × List OpenRun)
  | [] => none
  | r :: rs =>
    if r.run.fits closing then some ([], r, rs)
    else (opening? closing rs).map fun (above, found, below) => (r :: above, found, below)

/-- Uses the marks of a closing run, as far as there are open runs that fit it; `fuel` bounds the number
of its marks. -/
def close (st : EmphasisState) (closing : MarkRun) : (fuel : Nat) → EmphasisState
  | 0 => st
  | fuel + 1 =>
    match if closing.closes then opening? closing st.runs else none with
    | some (above, found, below) =>
      let used := found.run.used closing
      -- the runs above the one that fits can no longer be closed
      let content := Span.joinTexts (flatten found.after above).reverse
      let span := MarkRun.wrap closing.mark used content
      let opening : MarkRun := { found.run with left := found.run.left - used }
      let st : EmphasisState := { st with runs := below }
      let st :=
        if opening.left = 0 then st.add span
        else { st with runs := ⟨opening, [span]⟩ :: below }
      let closing : MarkRun := { closing with left := closing.left - used }
      if closing.left = 0 then st else st.close closing fuel
    | none =>
      -- what is left of the run opens again if it may
      if closing.opens then { st with runs := ⟨closing, []⟩ :: st.runs } else st.add closing.text

def take (st : EmphasisState) : Piece → EmphasisState
  | .span s => st.add s
  | .run r => st.close r (r.length + 1)

/-- The spans, in order; marks of runs that are still open are text. -/
def spans (st : EmphasisState) : List Span := (flatten st.before st.runs).reverse

end EmphasisState

/-- The spans that pieces make, in order. -/
def resolve (pieces : List Piece) : List Span :=
  Span.joinTexts (pieces.foldl EmphasisState.take ⟨[], []⟩).spans

end Wordsmith.Markdown
