import Mathlib.Data.List.TakeWhile
import Wordsmith.Service
import Wordsmith.Proofs.Text.Encoding

/-!
# The name in a header

Which names come through the header of a download. A header is read here by the grammar it is written
for: a type and its parameters, each a token, a quoted string or, if its name ends in a star, an
extended value, that is a charset, a language and percent-encoded bytes.

A name in ASCII is written between quotes as it stands, so it comes through exactly if no code point of
it would need a backslash or may not stand there at all. Any other name is percent-encoded except for
`/`, which the grammar of extended values does not let stand; whether a reader accepts it anyway is left
open (`slash`).

## The reader and what it reads

* `Header.readQuoted`, `Header.readValue?`, `Header.readParameter?` — one production of the grammar
  each; `Header.fileNames?` collects the names of a whole header.
* `Header.readQuoted_concat_iff` — a quoted string is read as the text between the quotes exactly if
  nothing in it is special.
* `Header.fileNames?_percentEncode` and `fileNames?_percentEncode_of_slash` — an extended value comes
  through unless a slash ends it.
* `Service.fileNames?_disposition_iff` — both together, for the header that is sent.
-/

namespace Wordsmith.Header

/-! ## Reading a header

The reader is a specification: the program only writes headers. It is total and does not guess, so a
header that strays from the grammar is read as nothing and not as the part before the fault. -/

/-- What a token is made of. -/
def isTokenChar (c : CodePoint) : Bool := c.isLetter || c.isDigit || c.isIn "!#$%&'*+-.^_`|~"

/-- What stands for itself in an extended value. -/
def isAttributeChar (slash : Bool) (c : CodePoint) : Bool :=
  c.isLetter || c.isDigit || c.isIn "!#$&+-.^_`|~" || slash && c = '/'

/-- What an extended value is made of. -/
def isExtendedChar (slash : Bool) (c : CodePoint) : Bool := isAttributeChar slash c || c.isIn "'%"

/-- What may be written between quotes, if need be after a backslash. -/
def isQuotable (c : CodePoint) : Bool :=
  c.val = 0x09 || 0x20 ≤ c.val && c.val < 0x100 && c.val ≠ 0x7F

/-- What stands for itself between quotes. -/
def isQuotedText (c : CodePoint) : Bool := isQuotable c && c ≠ '"' && c ≠ '\\'

/-- Breaks that would end the header and start another one. -/
def isLineBreak (c : CodePoint) : Bool := c.isIn "\r\n"

/-- Blanks may stand before a parameter and before its name. -/
def skipBlanks (t : Text) : Text := t.dropWhile (CodePoint.isIn " \t")

/-- The rest of a quoted string after its first quote, and what follows. -/
def readQuoted : Text → Option (Text × Text)
  | [] => none
  | c :: t =>
    if c = '"' then some ([], t)
    -- a backslash is dropped, and the code point after it is taken as it is
    else if c = '\\' then
      match t with
      | [] => none
      | d :: t =>
        if isQuotable d then (readQuoted t).map fun (u, rest) => (d :: u, rest) else none
    else if isQuotable c then (readQuoted t).map fun (u, rest) => (c :: u, rest)
    else none

/-- What an extended value stands for. -/
def extended? (slash : Bool) (t : Text) : Option Text := do
  let (charset, t) ← Text.splitFirst? '\'' t
  let (_, t) ← Text.splitFirst? '\'' t
  guard (charset.toLower.isLiteral "utf-8")
  let bytes ← Text.percentDecode? (isAttributeChar slash) t
  (Utf8.decode bytes).toOption

/-- The value of a parameter of this name, and what follows. -/
def readValue? (slash : Bool) (name t : Text) : Option (Text × Text) :=
  if name.getLast? = some (.ofChar '*') then
    (extended? slash (t.takeWhile (isExtendedChar slash))).map fun value =>
      (value, t.dropWhile (isExtendedChar slash))
  else
    match Text.dropLead? "\"" t with
    | some t => readQuoted t
    | none =>
      if t.takeWhile isTokenChar = [] then none
      else some (t.takeWhile isTokenChar, t.dropWhile isTokenChar)

/-- The name and the value of the parameter after a semicolon, and what follows. -/
def readParameter? (slash : Bool) (t : Text) : Option ((Text × Text) × Text) := do
  let t ← Text.dropLead? ";" (skipBlanks t)
  let name := (skipBlanks t).takeWhile isTokenChar
  if name = [] then none
  else
    let t ← Text.dropLead? "=" ((skipBlanks t).dropWhile isTokenChar)
    let (value, t) ← readValue? slash name t
    return ((name, value), t)

/-! ## Quoted strings

A backslash makes the code point after it stand for itself, so what is read may be shorter than what
stands there. That is the one way in which a text between quotes can be read as another text, or end
early: the length tells (`readQuoted_cases`). -/

variable {slash : Bool} {name t u rest : Text} {c : CodePoint}

/-- What stands for itself may be quoted and is neither of the marks. -/
theorem isQuotedText_iff :
    isQuotedText c = true ↔ isQuotable c = true ∧ c ≠ '"' ∧ c ≠ '\\' := by
  unfold isQuotedText
  rw [Bool.and_eq_true, Bool.and_eq_true, decide_eq_true_eq, decide_eq_true_eq, and_assoc]

/-- A quote ends the string. -/
theorem readQuoted_quote (t : Text) : readQuoted (.ofChar '"' :: t) = some ([], t) := by
  rw [readQuoted.eq_def]
  exact if_pos rfl

/-- What stands for itself is taken as it is. -/
theorem readQuoted_cons (hc : isQuotedText c = true) (t : Text) :
    readQuoted (c :: t) = (readQuoted t).map fun (u, rest) => (c :: u, rest) := by
  obtain ⟨hquotable, hquote, hbackslash⟩ := isQuotedText_iff.mp hc
  rw [readQuoted.eq_def]
  exact (if_neg hquote).trans ((if_neg hbackslash).trans (if_pos hquotable))

/-- A text without marks is read up to the quote behind it. -/
theorem readQuoted_append (hu : ∀ c ∈ u, isQuotedText c = true) (rest : Text) :
    readQuoted (u ++ .ofChar '"' :: rest) = some (u, rest) := by
  induction u with
  | nil => exact readQuoted_quote rest
  | cons c u ih =>
    rw [List.forall_mem_cons] at hu
    rw [List.cons_append, readQuoted_cons hu.1, ih hu.2]
    rfl

/-- What a quoted string is read as stands there in full, unless a backslash was dropped. -/
theorem readQuoted_cases (h : readQuoted t = some (u, rest)) :
    t = u ++ .ofChar '"' :: rest ∧ (∀ c ∈ u, isQuotedText c = true) ∨
      u.length + rest.length + 1 < t.length := by
  induction t using readQuoted.induct generalizing u with
  | case1 => cases h
  | case2 t =>
    rw [readQuoted_quote] at h
    cases h
    exact .inl ⟨rfl, nofun⟩
  | case3 => cases h
  -- a backslash with something behind it: what is read has lost a code point
  | case4 d t hd _ ih =>
    have hread : readQuoted (.ofChar '\\' :: d :: t)
        = (readQuoted t).map fun (u, rest) => (d :: u, rest) := if_pos hd
    rw [hread] at h
    obtain ⟨⟨v, rest⟩, hv, h⟩ := Option.map_eq_some_iff.mp h
    cases h
    -- the backslash is not among what was read
    obtain ⟨rfl, -⟩ | hlonger := ih hv
    · right
      simp only [List.length_cons, List.length_append]
      omega
    · right
      simp only [List.length_cons]
      omega
  | case5 d t hd =>
    have hread : readQuoted (.ofChar '\\' :: d :: t) = none := if_neg hd
    rw [hread] at h
    cases h
  -- a code point that stands for itself, in front of what is read of the rest
  | case6 c t hquote hbackslash hquotable ih =>
    have hc : isQuotedText c = true := isQuotedText_iff.mpr ⟨hquotable, hquote, hbackslash⟩
    rw [readQuoted_cons hc] at h
    obtain ⟨⟨v, rest⟩, hv, h⟩ := Option.map_eq_some_iff.mp h
    cases h
    obtain ⟨rfl, htext⟩ | hlonger := ih hv
    · exact .inl ⟨rfl, List.forall_mem_cons.mpr ⟨hc, htext⟩⟩
    · right
      simp only [List.length_cons]
      omega
  | case7 c t hquote hbackslash hquotable =>
    rw [readQuoted.eq_def] at h
    cases ((if_neg hquote).trans ((if_neg hbackslash).trans (if_neg hquotable))).symm.trans h

/-- Reading gets on, by the quote at least. -/
theorem length_lt_of_readQuoted (h : readQuoted t = some (u, rest)) : rest.length < t.length := by
  obtain ⟨rfl, -⟩ | hlonger := readQuoted_cases h
  · simp only [List.length_append, List.length_cons]
    omega
  · omega

/-- A text that is put between quotes as it stands is read as itself only if it needs no backslash. -/
theorem readQuoted_concat_iff :
    readQuoted (t ++ [.ofChar '"']) = some (t, rest) ↔
      rest = [] ∧ ∀ c ∈ t, isQuotedText c = true := by
  constructor
  · intro h
    obtain ⟨hwhole, htext⟩ | hlonger := readQuoted_cases h
    · exact ⟨(List.cons.inj (List.append_cancel_left hwhole)).2.symm, htext⟩
    · -- a shorter reading cannot be the whole text
      rw [List.length_append, List.length_singleton] at hlonger
      omega
  · rintro ⟨rfl, htext⟩
    exact readQuoted_append htext []

/-! ## Parameters

Parameters are read until nothing but blanks is left. Each of them takes at least its semicolon, so the
reading ends (`length_lt_of_readParameter?`). -/

theorem length_skipBlanks_le (t : Text) : (skipBlanks t).length ≤ t.length :=
  (List.dropWhile_sublist _).length_le

/-- Whichever form a value has, what follows it is no longer than what it was read from. -/
theorem length_le_of_readValue? (h : readValue? slash name t = some (u, rest)) :
    rest.length ≤ t.length := by
  unfold readValue? at h
  -- an extended value, a quoted one, or a token: each leaves a rest of the text
  split at h
  · obtain ⟨value, -, h⟩ := Option.map_eq_some_iff.mp h
    cases h
    exact (List.dropWhile_sublist _).length_le
  split at h
  · rename_i t' hquote
    have ht : t = "\"" ++ t' := Text.eq_append_of_dropLead? hquote
    have hrest := length_lt_of_readQuoted h
    rw [ht, List.length_append]
    omega
  split at h
  · cases h
  · cases h
    exact (List.dropWhile_sublist _).length_le

theorem length_lt_of_readParameter? {p : Text × Text} (h : readParameter? slash t = some (p, rest)) :
    rest.length < t.length := by
  unfold readParameter? at h
  rw [Option.bind_eq_bind, Option.bind_eq_some_iff] at h
  obtain ⟨afterMark, hmark, h⟩ := h
  dsimp only at h
  split at h
  · cases h
  simp only [Option.bind_eq_bind, Option.bind_eq_some_iff] at h
  obtain ⟨value, hvalue, ⟨v, rest⟩, hread, h⟩ := h
  cases h
  -- the lengths go down along blanks, name and value, and the semicolon is left out
  have hblanks : (skipBlanks t).length ≤ t.length := length_skipBlanks_le t
  have hblanks' : (skipBlanks afterMark).length ≤ afterMark.length := length_skipBlanks_le afterMark
  have hname : ((skipBlanks afterMark).dropWhile isTokenChar).length ≤ (skipBlanks afterMark).length :=
    (List.dropWhile_sublist _).length_le
  have hrest : rest.length ≤ value.length := length_le_of_readValue? hread
  show rest.length < t.length
  rw [Text.eq_append_of_dropLead? hmark] at hblanks
  rw [Text.eq_append_of_dropLead? hvalue] at hname
  simp only [List.length_append] at hblanks hname
  have hsemicolon : (Text.ofString ";").length = 1 := rfl
  omega

/-- The names and values of the parameters of a header. -/
def readParameters (slash : Bool) (t : Text) : Option (List (Text × Text)) :=
  if skipBlanks t = [] then some []
  else
    match _h : readParameter? slash t with
    | none => none
    | some (p, rest) => (readParameters slash rest).map (p :: ·)
termination_by t.length
decreasing_by exact length_lt_of_readParameter? _h

/-- A parameter that names the file, in either form. -/
def isFileName (name : Text) : Bool :=
  name.toLower.isLiteral "filename" || name.toLower.isLiteral "filename*"

/-- The values of the parameters that name the file. -/
def fileNamesOf (parameters : List (Text × Text)) : List Text :=
  (parameters.filter fun p => isFileName p.1).map (·.2)

/-- Every name that a header gives the file; absent if the header cannot be read. -/
def fileNames? (slash : Bool) (t : Text) : Option (List Text) :=
  if t.takeWhile isTokenChar = [] then none
  else (readParameters slash (t.dropWhile isTokenChar)).map fileNamesOf

theorem readParameters_nil : readParameters slash [] = some [] := by
  rw [readParameters]
  exact if_pos rfl

/-- If something is left, a parameter is read and then the rest. -/
theorem readParameters_eq_bind (ht : skipBlanks t ≠ []) :
    readParameters slash t
      = (readParameter? slash t).bind fun (p, rest) => (readParameters slash rest).map (p :: ·) := by
  rw [readParameters, if_neg ht]
  split
  · rename_i hnone
    rw [hnone]
    rfl
  · rename_i hsome
    rw [hsome]
    rfl

/-- No blank belongs to a name. -/
theorem not_blank_of_isTokenChar (hc : isTokenChar c = true) : c.isIn " \t" = false :=
  CodePoint.isIn_eq_false hc (by decide)

/-- A run of code points is taken up to the first one that fails. -/
theorem takeWhile_append_cons {p : CodePoint → Bool} (hu : ∀ d ∈ u, p d = true) (hc : p c = false) :
    (u ++ c :: t).takeWhile p = u := by
  rw [List.takeWhile_append_of_pos hu,
    List.takeWhile_cons_of_neg (by rw [hc]; exact Bool.false_ne_true), List.append_nil]

/-- And the rest is left. -/
theorem dropWhile_append_cons {p : CodePoint → Bool} (hu : ∀ d ∈ u, p d = true) (hc : p c = false) :
    (u ++ c :: t).dropWhile p = c :: t := by
  rw [List.dropWhile_append_of_pos hu,
    List.dropWhile_cons_of_neg (by rw [hc]; exact Bool.false_ne_true)]

/-- A parameter that is written with a semicolon, a blank and its name is read by its value. -/
theorem readParameter?_append (hne : name ≠ []) (hname : ∀ c ∈ name, isTokenChar c = true) :
    readParameter? slash ("; " ++ name ++ .ofChar '=' :: t)
      = (readValue? slash name t).map fun (value, rest) => ((name, value), rest) := by
  have hmark : Text.dropLead? ";" (skipBlanks ("; " ++ name ++ .ofChar '=' :: t))
      = some (.ofChar ' ' :: (name ++ .ofChar '=' :: t)) := by
    rw [List.append_assoc]
    rfl
  -- the blank is skipped, and the name starts right behind it
  have hblanks : skipBlanks (.ofChar ' ' :: (name ++ .ofChar '=' :: t))
      = name ++ .ofChar '=' :: t := by
    obtain ⟨c, name, rfl⟩ := List.exists_cons_of_ne_nil hne
    have hblank : ∀ d ∈ Text.ofString " ", d.isIn " \t" = true := by decide
    exact dropWhile_append_cons hblank (not_blank_of_isTokenChar (hname c List.mem_cons_self))
  have htake : (name ++ .ofChar '=' :: t).takeWhile isTokenChar = name :=
    takeWhile_append_cons hname rfl
  have hdrop : (name ++ .ofChar '=' :: t).dropWhile isTokenChar = .ofChar '=' :: t :=
    dropWhile_append_cons hname rfl
  have hvalue : Text.dropLead? "=" (.ofChar '=' :: t) = some t := rfl
  unfold readParameter?
  rw [hmark, Option.bind_eq_bind, Option.bind_some]
  dsimp only
  rw [hblanks, htake, hdrop, hvalue, if_neg hne, Option.bind_some]
  cases readValue? slash name t <;> rfl

/-- The header of an attachment with one parameter that names the file. -/
theorem fileNames?_attachment (hfile : isFileName name = true)
    (hname : ∀ c ∈ name, isTokenChar c = true) :
    fileNames? slash ("attachment; " ++ name ++ .ofChar '=' :: t)
      = (readValue? slash name t).bind fun (value, rest) =>
          (readParameters slash rest).map fun ps => value :: fileNamesOf ps := by
  have hne : name ≠ [] := by
    rintro rfl
    exact absurd hfile (by decide)
  have hwhole : ("attachment; " ++ name ++ .ofChar '=' :: t : Text)
      = "attachment" ++ ("; " ++ name ++ .ofChar '=' :: t) := rfl
  have htype : ∀ c ∈ Text.ofString "attachment", isTokenChar c = true := by decide
  -- the type goes up to the semicolon, which is no part of a token
  have htake : ("attachment" ++ ("; " ++ name ++ .ofChar '=' :: t) : Text).takeWhile isTokenChar
      = "attachment" := takeWhile_append_cons htype rfl
  have hdrop : ("attachment" ++ ("; " ++ name ++ .ofChar '=' :: t) : Text).dropWhile isTokenChar
      = "; " ++ name ++ .ofChar '=' :: t := dropWhile_append_cons htype rfl
  have hrest : skipBlanks ("; " ++ name ++ .ofChar '=' :: t) ≠ [] := by
    rw [List.append_assoc]
    exact List.cons_ne_nil _ _
  rw [hwhole, fileNames?, htake, hdrop, if_neg (by decide), readParameters_eq_bind hrest,
    readParameter?_append hne hname]
  cases readValue? slash name t with
  | none => rfl
  | some read =>
    obtain ⟨value, rest⟩ := read
    dsimp only [Option.map_some, Option.bind_some]
    rw [Option.map_map]
    congr 1
    funext ps
    simp [fileNamesOf, hfile]

/-! ## The header of a download

The two forms of the header are read as one parameter each, quoted or extended. For the extended form
the bytes are percent-encoded, and the code points that are left as they are (`Service.isPlain`) may
stand in the value, with the exception of the slash. -/

/-- A quoted value is read up to its quote. -/
theorem readValue?_filename (t : Text) :
    readValue? slash "filename" (.ofChar '"' :: t) = readQuoted t := rfl

/-- An extended value goes as far as its code points do. -/
theorem readValue?_extended (t : Text) :
    readValue? slash "filename*" t
      = (extended? slash (t.takeWhile (isExtendedChar slash))).map fun value =>
          (value, t.dropWhile (isExtendedChar slash)) := rfl

/-- The charset and the empty language are cut off, and the rest is decoded. -/
theorem extended?_utf8 (t : Text) :
    extended? slash ("UTF-8''" ++ t)
      = (Text.percentDecode? (isAttributeChar slash) t).bind fun bytes =>
          (Utf8.decode bytes).toOption := rfl

/-- What is left standing may stand there, but for the slash. -/
theorem isAttributeChar_of_isPlain (hc : Service.isPlain c = true)
    (hslash : slash = true ∨ c ≠ '/') : isAttributeChar slash c = true := by
  unfold Service.isPlain at hc
  rw [Bool.or_eq_true] at hc
  obtain hc | hc := hc
  · unfold isAttributeChar
    rw [hc, Bool.true_or, Bool.true_or]
  · -- the marks that are left standing are few, and each of them is looked at
    have hmark : (isAttributeChar slash c || !slash && c = '/') = true :=
      CodePoint.of_isIn (p := fun c => isAttributeChar slash c || !slash && c = '/') hc
        (by cases slash <;> decide)
    rw [Bool.or_eq_true, Bool.and_eq_true, Bool.not_eq_true', decide_eq_true_eq] at hmark
    obtain hmark | ⟨hstrict, hc⟩ := hmark
    · exact hmark
    · obtain hslash | hslash := hslash
      · rw [hslash] at hstrict
        cases hstrict
      · exact absurd hc hslash

/-- The encoded name consists of code points of an extended value, but for its slashes. -/
theorem isExtendedChar_of_mem_percentEncode (hc : c ∈ Text.percentEncode Service.isPlain name)
    (hslash : slash = true ∨ c ≠ '/') : isExtendedChar slash c = true := by
  have hdigits : ∀ slash, ∀ n < 16, isExtendedChar slash (Text.hexDigit false n) = true := by decide
  obtain ⟨hplain, -⟩ | rfl | ⟨n, hn, rfl⟩ := Text.mem_percentEncode hc
  · unfold isExtendedChar
    rw [isAttributeChar_of_isPlain hplain hslash, Bool.true_or]
  · cases slash <;> rfl
  · exact hdigits slash n hn

/-- A slash is left as it is and comes from nothing else. -/
theorem mem_percentEncode_slash :
    .ofChar '/' ∈ Text.percentEncode Service.isPlain name ↔ .ofChar '/' ∈ name := by
  constructor
  · intro h
    obtain ⟨-, hmem⟩ | hmark | ⟨n, hn, hdigit⟩ := Text.mem_percentEncode h
    · exact hmem
    · cases hmark
    · exact absurd hdigit ((by decide : ∀ n < 16, CodePoint.ofChar '/' ≠ Text.hexDigit false n) n hn)
  · exact Text.mem_percentEncode_of_keep rfl

/-- Nothing that may stand in an extended value breaks a line. -/
theorem any_isLineBreak_eq_false (ht : ∀ c ∈ t, isExtendedChar true c = true) :
    t.any isLineBreak = false := by
  rw [List.any_eq_false]
  intro c hc
  rw [isLineBreak, CodePoint.isIn_eq_false (ht c hc) (by decide)]
  exact Bool.false_ne_true

/-- If only one code point can stop a search and it is there, then the search stops at it. -/
theorem exists_dropWhile_eq_cons {p : CodePoint → Bool} {d : CodePoint} (hd : p d = false)
    (ht : ∀ c ∈ t, c ≠ d → p c = true) (hmem : d ∈ t) : ∃ rest, t.dropWhile p = d :: rest := by
  induction t with
  | nil => cases hmem
  | cons c t ih =>
    rw [List.forall_mem_cons] at ht
    by_cases hc : c = d
    · rw [hc, List.dropWhile_cons_of_neg (by rw [hd]; exact Bool.false_ne_true)]
      exact ⟨t, rfl⟩
    · rw [List.dropWhile_cons_of_pos (ht.1 hc)]
      exact ih ht.2 ((List.mem_cons.mp hmem).resolve_left (Ne.symm hc))

/-- In the quoted form the name is read exactly if no code point of it is special. -/
theorem fileNames?_quoted_iff :
    fileNames? slash ("attachment; filename=\"" ++ name ++ "\"") = some [name] ↔
      ∀ c ∈ name, isQuotedText c = true := by
  have hwhole : Text.ofString "attachment; filename=\"" ++ name ++ Text.ofString "\""
      = Text.ofString "attachment; " ++ Text.ofString "filename" ++
          .ofChar '=' :: .ofChar '"' :: (name ++ [.ofChar '"']) := by
    rw [List.append_assoc]
    rfl
  rw [hwhole, fileNames?_attachment rfl (by decide), readValue?_filename]
  simp only [Option.bind_eq_some_iff, Option.map_eq_some_iff, Prod.exists, List.cons.injEq]
  constructor
  · rintro ⟨value, rest, hread, ps, -, rfl, -⟩
    exact (readQuoted_concat_iff.mp hread).2
  · intro hname
    exact ⟨name, [], readQuoted_concat_iff.mpr ⟨rfl, hname⟩, [], readParameters_nil, rfl, rfl⟩

/-- In the extended form the name is what can be read of the value, and the rest must be parameters. -/
theorem fileNames?_extended (t : Text) :
    fileNames? slash ("attachment; filename*=UTF-8''" ++ t)
      = (extended? slash ("UTF-8''" ++ t.takeWhile (isExtendedChar slash))).bind fun value =>
          (readParameters slash (t.dropWhile (isExtendedChar slash))).map fun ps =>
            value :: fileNamesOf ps := by
  have hwhole : Text.ofString "attachment; filename*=UTF-8''" ++ t
      = Text.ofString "attachment; " ++ Text.ofString "filename*" ++
          .ofChar '=' :: (Text.ofString "UTF-8''" ++ t) := rfl
  have hlead : ∀ c ∈ Text.ofString "UTF-8''", isExtendedChar slash c = true := by
    cases slash <;> decide
  rw [hwhole, fileNames?_attachment rfl (by decide), readValue?_extended,
    List.takeWhile_append_of_pos hlead, List.dropWhile_append_of_pos hlead, Option.bind_map]
  rfl

/-- A percent-encoded name comes through if its slashes are let stand, or if it has none. -/
theorem fileNames?_percentEncode (hname : name.IsEncodable)
    (hslash : slash = true ∨ .ofChar '/' ∉ name) :
    fileNames? slash ("attachment; filename*=UTF-8''" ++ Text.percentEncode Service.isPlain name)
      = some [name] := by
  -- the value goes to the end of the header
  have hall : ∀ c ∈ Text.percentEncode Service.isPlain name, isExtendedChar slash c = true := by
    intro c hc
    refine isExtendedChar_of_mem_percentEncode hc (hslash.imp_right ?_)
    rintro hnot rfl
    exact hnot (mem_percentEncode_slash.mp hc)
  -- what is not encoded stands for itself
  have hplain : ∀ c ∈ name, Service.isPlain c = true → isAttributeChar slash c = true := by
    intro c hc hkeep
    refine isAttributeChar_of_isPlain hkeep (hslash.imp_right ?_)
    rintro hnot rfl
    exact hnot hc
  rw [fileNames?_extended, List.takeWhile_eq_self_iff.mpr hall, List.dropWhile_eq_nil_iff.mpr hall,
    extended?_utf8, Text.percentDecode?_percentEncode rfl hplain, Option.bind_some,
    Utf8.decode_flatMap_utf8 hname, readParameters_nil]
  rfl

/-- A slash ends the value in the middle of the name, and starts no parameter. -/
theorem fileNames?_percentEncode_of_slash (hmem : .ofChar '/' ∈ name) :
    fileNames? false ("attachment; filename*=UTF-8''" ++ Text.percentEncode Service.isPlain name)
      = none := by
  obtain ⟨rest, hrest⟩ := exists_dropWhile_eq_cons (p := isExtendedChar false) rfl
    (fun c hc hne => isExtendedChar_of_mem_percentEncode hc (.inr hne))
    (mem_percentEncode_slash.mpr hmem)
  -- a slash is no semicolon, so no parameter can be read there
  have hstuck : readParameters false (.ofChar '/' :: rest) = none := by
    have hblanks : skipBlanks (.ofChar '/' :: rest) ≠ [] := List.cons_ne_nil _ _
    rw [readParameters_eq_bind hblanks]
    rfl
  rw [fileNames?_extended, hrest, hstuck]
  exact Option.bind_fun_none _

end Wordsmith.Header

namespace Wordsmith.Service

open Header

/-- No header but that of a name with a line break holds one, and the header of a name is read as this
name exactly if it is in ASCII and needs no backslash, or is not in ASCII and has no `/` that the
reader refuses. -/
theorem fileNames?_disposition_iff {name : Text} (hname : name.IsEncodable) (slash : Bool) :
    (disposition name).any isLineBreak = (name.all (·.val < 0x80) && name.any isLineBreak) ∧
    (fileNames? slash (disposition name) = some [name] ↔
      if name.all (·.val < 0x80) then ∀ c ∈ name, isQuotedText c = true
      else slash = true ∨ .ofChar '/' ∉ name) := by
  unfold disposition
  split
  · -- in ASCII the name is written between quotes, line breaks included
    rename_i hascii
    constructor
    · rw [hascii, Bool.true_and, List.any_append, List.any_append]
      exact (Bool.or_false _).trans (Bool.false_or _)
    · exact fileNames?_quoted_iff
  · -- beyond ASCII it is percent-encoded, which leaves no line break
    rename_i hascii
    constructor
    · have hbreaks : (Text.percentEncode isPlain name).any isLineBreak = false :=
        any_isLineBreak_eq_false fun c hc => isExtendedChar_of_mem_percentEncode hc (.inl rfl)
      rw [Bool.not_eq_true] at hascii
      rw [hascii, Bool.false_and, List.any_append, hbreaks]
      rfl
    · constructor
      · intro h
        cases slash with
        | true => exact .inl rfl
        | false =>
          right
          intro hmem
          rw [fileNames?_percentEncode_of_slash hmem] at h
          cases h
      · exact fileNames?_percentEncode hname

/-- A name with a space and one beyond ASCII come through. A name with a quote does not, nor one with a
slash if it is refused, and a line break is passed on. -/
theorem fileNames?_disposition_awkwardNames :
    fileNames? false (disposition "my notes.docx") = some [Text.ofString "my notes.docx"] ∧
    fileNames? false (disposition "été 10 %.docx") = some [Text.ofString "été 10 %.docx"] ∧
    fileNames? false (disposition "a\"b.docx") ≠ some [Text.ofString "a\"b.docx"] ∧
    fileNames? false (disposition "é/x.docx") ≠ some [Text.ofString "é/x.docx"] ∧
    (disposition "a\nb.docx").any isLineBreak = true := by
  have hread := fun s => fileNames?_disposition_iff (Text.isEncodable_ofString s) false
  refine ⟨?_, ?_, ?_, ?_, ?_⟩
  · exact (hread "my notes.docx").2.mpr (by decide)
  · exact (hread "été 10 %.docx").2.mpr (by decide)
  · exact fun h => absurd ((hread "a\"b.docx").2.mp h) (by decide)
  · exact fun h => absurd ((hread "é/x.docx").2.mp h) (by decide)
  · exact (hread "a\nb.docx").1.trans (by decide)

end Wordsmith.Service
